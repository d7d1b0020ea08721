import ApiGuide.Text.Basic
import ApiGuide.Text.DecimalDigit

/-!
Semantic versions, and the first of them in a text.
-/

namespace ApiGuide

open Text

/-- A semantic version. `pre` and `build` hold the parts between dots. -/
structure SemVer where
  major : Nat
  minor : Nat
  patch : Nat
  pre : List Text := []
  build : List Text := []
  deriving DecidableEq

namespace SemVer

/-- Numbers of a version have to fit into 64 bits. -/
def numberLimit : Nat :=
  18446744073709551616

/-- The version as it is written. -/
def toText (v : SemVer) : Text :=
  ofNat v.major ++ '.' :: ofNat v.minor ++ '.' :: ofNat v.patch
    ++ (if v.pre = [] then [] else '-' :: joinWith ['.'] v.pre)
    ++ (if v.build = [] then [] else '+' :: joinWith ['.'] v.build)

/-- The tag of the version in version control. -/
def tag (v : SemVer) : Text :=
  'v' :: v.toText

/-- A character of a pre-release or build part. -/
def isPartChar (c : Char) : Bool :=
  c.isAlphanum || c == '-'

/-- A part is not empty and holds letters, digits and hyphens. -/
def isPart (part : Text) : Bool :=
  !part.isEmpty && part.all isPartChar

/-- The digits write a number without leading zeros. -/
def isPlainNumber (digits : Text) : Bool :=
  digits.all Char.isDigit && (digits == ['0'] || (digits != [] && digits.head? != some '0'))

/-- A pre-release part that is a number has no leading zeros. -/
def isPrePart (part : Text) : Bool :=
  isPart part && (!part.all Char.isDigit || isPlainNumber part)

/-- A number of a version. -/
def number? (digits : Text) : Option Nat :=
  if isPlainNumber digits && digitsValue digits < numberLimit then
    some (digitsValue digits)
  else none

/-- A stretch of text that looks like a version: three runs of decimal digits with dots between
    them, and what stands after a hyphen and after a plus sign. -/
structure Candidate where
  major : Text
  minor : Text
  patch : Text
  pre : Option Text
  build : Option Text

/-- A character of a stretch after a hyphen or a plus sign. -/
def isSuffixChar (c : Char) : Bool :=
  c.isAlphanum || c == '.' || c == '-'

/-- The stretch after a mark, if at least one character follows the mark. -/
def suffix? (mark : Char) (t : Text) : Option Text × Text :=
  match t with
  | c :: d :: rest =>
    if c = mark && isSuffixChar d then
      (some ((d :: rest).takeWhile isSuffixChar), (d :: rest).dropWhile isSuffixChar)
    else (none, t)
  | _ => (none, t)

/-- One or more decimal digits and the dot after them. -/
def digitsAndDot? (t : Text) : Option (Text × Text) :=
  match t.takeWhile isDecimalDigit, t.dropWhile isDecimalDigit with
  | c :: digits, '.' :: rest => some (c :: digits, rest)
  | _, _ => none

/-- The candidate at the front of a text and the text after it. -/
def candidate? (t : Text) : Option (Candidate × Text) :=
  match digitsAndDot? t with
  | none => none
  | some (major, t₁) =>
    match digitsAndDot? t₁ with
    | none => none
    | some (minor, t₂) =>
      let patch := t₂.takeWhile isDecimalDigit
      if patch = [] then none
      else
        let (pre, t₃) := suffix? '-' (t₂.dropWhile isDecimalDigit)
        let (build, rest) := suffix? '+' t₃
        some (⟨major, minor, patch, pre, build⟩, rest)

/-- The version that a candidate writes, if it is one. -/
def ofCandidate? (c : Candidate) : Option SemVer :=
  match number? c.major, number? c.minor, number? c.patch with
  | some major, some minor, some patch =>
    let pre := (c.pre.map (splitOn '.')).getD []
    let build := (c.build.map (splitOn '.')).getD []
    if pre.all isPrePart && build.all isPart then some { major, minor, patch, pre, build } else none
  | _, _, _ => none

/-- The first candidate that is a version. Candidates do not overlap: after one that is none, the
    search goes on behind it. `skip` counts the characters that still belong to such a one. -/
def findFrom? (skip : Nat) : Text → Option SemVer
  | [] => none
  | c :: t =>
    match skip with
    | n + 1 => findFrom? n t
    | 0 =>
      match candidate? (c :: t) with
      | none => findFrom? 0 t
      | some (candidate, rest) =>
        match ofCandidate? candidate with
        | some v => some v
        | none => findFrom? (t.length - rest.length) t

/-- The first version in a text. -/
def find? (t : Text) : Option SemVer :=
  findFrom? 0 t

end SemVer

end ApiGuide
