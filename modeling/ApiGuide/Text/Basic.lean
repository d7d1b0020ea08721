/-!
Texts as lists of characters, cut into pieces and lines.

Everything here treats characters as opaque except the line break and the blanks (space and tab),
so each operation is pinned down by how its results put the text together again.
-/

namespace ApiGuide

/-- A text is the list of its characters. -/
abbrev Text := List Char

namespace Text

/-- A blank is a space or a tab: what may stand around a marker on its line. -/
def isBlank (c : Char) : Bool :=
  c == ' ' || c == '\t'

/-- Every character of the text is a blank. The empty text counts. -/
def allBlank (t : Text) : Bool :=
  t.all isBlank

/-- What is left after the leading blanks. -/
def skipBlanks (t : Text) : Text :=
  t.dropWhile isBlank

/-- The leading blanks. -/
def indent (t : Text) : Text :=
  t.takeWhile isBlank

/-- Drops the longest end of the text whose characters all satisfy `p`. -/
def dropEndWhile (p : Char → Bool) (t : Text) : Text :=
  (t.reverse.dropWhile p).reverse

/-- What follows `start` in a text that begins with it. -/
def after? : (start : Text) → Text → Option Text
  | [], t => some t
  | _ :: _, [] => none
  | s :: start, c :: t => if s = c then after? start t else none

/-- The text before the first `mark` and the text after it. -/
def splitAt? (mark : Char) : Text → Option (Text × Text)
  | [] => none
  | c :: t =>
    if c = mark then some ([], t)
    else (splitAt? mark t).map fun (before, rest) => (c :: before, rest)

/-- The pieces of a text between the occurrences of `mark`. There is one more piece than there are
    marks, so the empty text has one empty piece. -/
def splitOn (mark : Char) : Text → List Text
  | [] => [[]]
  | c :: t => if c = mark then [] :: splitOn mark t else (splitOn mark t).modifyHead (c :: ·)

/-- The pieces written one after the other with `mark` between them. -/
def joinWith (mark : Text) (pieces : List Text) : Text :=
  mark.intercalate pieces

/-- The lines of a text, each with its line break. Only the last line may lack one, and the empty
    text has no line. -/
def lines : Text → List Text
  | [] => []
  | c :: t =>
    if c = '\n' then [c] :: lines t
    else
      match lines t with
      | [] => [[c]]
      | line :: rest => (c :: line) :: rest

/-- The text up to the first line break. -/
def firstLine (t : Text) : Text :=
  t.takeWhile (· != '\n')

/-- The text from the first line break on. -/
def fromLineBreak (t : Text) : Text :=
  t.dropWhile (· != '\n')

/-- Decimal digits of a number, without leading zeros. -/
def ofNat (n : Nat) : Text :=
  Nat.toDigits 10 n

/-- The number that a list of decimal digits writes. -/
def digitsValue (digits : Text) : Nat :=
  digits.foldl (fun n c => n * 10 + (c.toNat - '0'.toNat)) 0

theorem eq_append_of_after? {start t rest : Text} (h : after? start t = some rest) :
    t = start ++ rest := by
  fun_induction after? start t with
  | case1 => simp_all
  | case2 => simp at h
  | case3 _ _ _ ih => simp [ih h]
  | case4 => simp at h

@[simp]
theorem after?_append (start rest : Text) : after? start (start ++ rest) = some rest := by
  induction start with
  | nil => simp [after?]
  | cons c start ih => simp [after?, ih]

theorem eq_append_of_splitAt? {mark : Char} {t before rest : Text}
    (h : splitAt? mark t = some (before, rest)) : t = before ++ mark :: rest := by
  induction t generalizing before with
  | nil => simp [splitAt?] at h
  | cons c t ih =>
    rw [splitAt?] at h
    split at h
    · simp_all
    · simp only [Option.map_eq_some_iff, Prod.exists] at h
      obtain ⟨b, r, hbr, heq⟩ := h
      simp only [Prod.mk.injEq] at heq
      obtain ⟨rfl, rfl⟩ := heq
      simp [ih hbr]

@[simp]
theorem lines_flatten (t : Text) : (lines t).flatten = t := by
  induction t with
  | nil => rfl
  | cons c t ih =>
    rw [lines]
    split
    · simp [ih]
    · split <;> simp_all

@[simp]
theorem firstLine_append_fromLineBreak (t : Text) : firstLine t ++ fromLineBreak t = t :=
  List.takeWhile_append_dropWhile

end Text

end ApiGuide
