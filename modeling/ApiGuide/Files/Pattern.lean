import ApiGuide.Text.Basic

/-!
File name patterns: `*` for any characters, `?` for one, `[…]` for one of a class, and `**` for any
number of folders.
-/

namespace ApiGuide.Pattern

open Text

/-- Part of a character class: the characters from `low` to `high`. -/
structure Span where
  low : Char
  high : Char
  deriving DecidableEq

/-- The span holds the character. -/
def Span.has (s : Span) (c : Char) : Bool :=
  s.low ≤ c && c ≤ s.high

/-- A token of a pattern. -/
inductive Token
  | char (c : Char)
  | anyChar
  | oneOf (spans : List Span)
  | noneOf (spans : List Span)
  | anyChars
  | anyDepth
  deriving DecidableEq

/-- What is wrong with a pattern. -/
inductive Fault
  | range
  | recursion
  | wildcards
  deriving DecidableEq

/-- A fault and the position, in characters, that it is found at. -/
structure Error where
  position : Nat
  fault : Fault
  deriving DecidableEq

/-- The wording of a fault. -/
def Fault.message : Fault → Text
  | .range => "invalid range pattern".toList
  | .recursion => "recursive wildcards must form a single path component".toList
  | .wildcards => "wildcards are either regular `*` or recursive `**`".toList

/-- The wording of a pattern error. -/
def Error.message (e : Error) : Text :=
  "Pattern syntax error near position ".toList ++ ofNat e.position ++ ": ".toList
    ++ e.fault.message

/-- The spans of a class: `a-z` is a span, and every other character stands for itself. -/
def spans : Text → List Span
  | [] => []
  | [a] => [⟨a, a⟩]
  | [a, b] => [⟨a, a⟩, ⟨b, b⟩]
  | a :: b :: c :: rest =>
    if b = '-' then ⟨a, c⟩ :: spans rest else ⟨a, a⟩ :: spans (b :: c :: rest)

/-- The class after an opening bracket, and the text after its closing bracket. The first character
    of a class, after the exclamation mark of a class of exceptions, is never its closing bracket. -/
def class? (t : Text) : Option (Token × Text) :=
  match t with
  | '!' :: c :: t₁ => (splitAt? ']' t₁).map fun (more, rest) => (.noneOf (spans (c :: more)), rest)
  | c :: t₁ =>
    if c = '!' then none
    else (splitAt? ']' t₁).map fun (more, rest) => (.oneOf (spans (c :: more)), rest)
  | [] => none

theorem length_lt_of_class? {t rest : Text} {token : Token} (h : class? t = some (token, rest)) :
    rest.length < t.length := by
  unfold class? at h
  split at h
  · simp only [Option.map_eq_some_iff, Prod.exists, Prod.mk.injEq] at h
    obtain ⟨more, r, hsplit, -, rfl⟩ := h
    simp [eq_append_of_splitAt? hsplit]
    omega
  · split at h
    · cases h
    · simp only [Option.map_eq_some_iff, Prod.exists, Prod.mk.injEq] at h
      obtain ⟨more, r, hsplit, -, rfl⟩ := h
      simp [eq_append_of_splitAt? hsplit]
      omega
  · cases h

/-- The tokens of a pattern from `position` on, where `start` tells whether a path component starts
    here. Two stars are a component of their own, and more than two are nothing. -/
def compileFrom (position : Nat) (start : Bool) (t : Text) : Except Error (List Token) :=
  match t with
  | [] => .ok []
  | '?' :: rest => (compileFrom (position + 1) false rest).map (.anyChar :: ·)
  | '*' :: '*' :: '*' :: _ => .error ⟨position + 2, .wildcards⟩
  | '*' :: '*' :: rest =>
    if start then
      match rest with
      | [] => .ok [.anyDepth]
      | c :: rest =>
        if c = '/' then (compileFrom (position + 3) true rest).map (.anyDepth :: ·)
        else .error ⟨position + 2, .recursion⟩
    else .error ⟨position - 1, .recursion⟩
  | '*' :: rest => (compileFrom (position + 1) false rest).map (.anyChars :: ·)
  | '[' :: inside =>
    match _h : class? inside with
    | none => .error ⟨position, .range⟩
    | some (token, rest) =>
      (compileFrom (position + 1 + (inside.length - rest.length)) false rest).map (token :: ·)
  | c :: rest => (compileFrom (position + 1) (c = '/') rest).map (.char c :: ·)
termination_by t.length
decreasing_by
  all_goals simp only [List.length_cons]
  all_goals try omega
  have hshorter := length_lt_of_class? _h
  omega

/-- The tokens of a pattern. -/
def compile (t : Text) : Except Error (List Token) :=
  compileFrom 0 true t

/-- The name fits the tokens. -/
def fits : List Token → Text → Bool
  | [], name => name.isEmpty
  | .anyChars :: tokens, name => (suffixes name).any (fits tokens)
  | .anyDepth :: tokens, name => (suffixes name).any (fits tokens)
  | .char c :: tokens, name =>
    match name with
    | [] => false
    | d :: rest => c == d && fits tokens rest
  | .anyChar :: tokens, name =>
    match name with
    | [] => false
    | _ :: rest => fits tokens rest
  | .oneOf spans :: tokens, name =>
    match name with
    | [] => false
    | d :: rest => spans.any (·.has d) && fits tokens rest
  | .noneOf spans :: tokens, name =>
    match name with
    | [] => false
    | d :: rest => !spans.any (·.has d) && fits tokens rest
where
  /-- The text and what is left of it after each of its characters. -/
  suffixes : Text → List Text
    | [] => [[]]
    | c :: rest => (c :: rest) :: suffixes rest

/-- One component of a path pattern. -/
inductive Step
  /-- A name without wildcards. -/
  | exactly (name : Text)
  /-- Names that fit. -/
  | fitting (tokens : List Token)
  /-- Any number of folders. -/
  | anyDepth
  deriving DecidableEq

/-- The name that tokens write if none is a wildcard. -/
def exactName? : List Token → Option Text
  | [] => some []
  | .char c :: rest => (exactName? rest).map (c :: ·)
  | _ :: _ => none

/-- The component that tokens write. -/
def stepOf (tokens : List Token) : Step :=
  if .anyDepth ∈ tokens then .anyDepth
  else
    match exactName? tokens with
    | some name => .exactly name
    | none => .fitting tokens

/-- A name at the front of a folder fits the component. Folders to pass are no name. -/
def Step.fits : Step → Text → Bool
  | .exactly name, n => name == n
  | .fitting tokens, n => Pattern.fits tokens n
  | .anyDepth, _ => false

/-- The steps of a path pattern. The pattern has to be well-formed as a whole and in each of its
    components; a slash at its end makes no component. -/
def steps (pattern : Text) : Except Error (List Step) :=
  match compile pattern with
  | .error e => .error e
  | .ok _ =>
    let parts := splitOn '/' pattern
    let parts := if parts.getLast? = some [] then parts.dropLast else parts
    parts.mapM fun part => (compile part).map stepOf

/-- The pattern that fits a text and nothing else: wildcards are written as classes of their own. -/
def escape (t : Text) : Text :=
  t.flatMap fun c => if c = '?' ∨ c = '*' ∨ c = '[' ∨ c = ']' then ['[', c, ']'] else [c]

end ApiGuide.Pattern
