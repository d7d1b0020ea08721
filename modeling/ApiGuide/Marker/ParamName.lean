import ApiGuide.Model

/-!
The name of a parameter: `name`, `[name]` or `[name=default]`.

A default may hold bracket groups, but no brackets inside of them.
-/

namespace ApiGuide.Marker

open Text

/-- What follows the bracket that closes an optional name here, after blanks. -/
def closing? (t : Text) : Option Text :=
  match skipBlanks t with
  | ']' :: rest => some rest
  | _ => none

/-- The shortest default before a closing bracket and the text after that bracket. `inGroup` tells
    whether the position is inside a bracket group of the default. -/
def default? : (inGroup : Bool) → Text → Option (Text × Text)
  | _, [] => none
  | true, c :: t =>
    if c = '[' ∨ c = '\n' then none
    else (default? (c ≠ ']') t).map fun (d, rest) => (c :: d, rest)
  | false, c :: t =>
    match closing? (c :: t) with
    | some rest => some ([], rest)
    | none =>
      if c = ']' ∨ c = '\n' then none
      else (default? (c = '[') t).map fun (d, rest) => (c :: d, rest)

/-- A character that a name without brackets may hold. -/
def isNameChar (c : Char) : Bool :=
  !(isBlank c || c == '\n' || c == '[' || c == ']')

/-- A character that a name in brackets may hold: the equals sign ends it. -/
def isOptionalNameChar (c : Char) : Bool :=
  isNameChar c && c != '='

/-- A name in brackets, with or without a default. -/
def optionalName? (t : Text) : Option (ParamName × Text) :=
  match skipBlanks t with
  | '[' :: inside =>
    let t₁ := skipBlanks inside
    let name := t₁.takeWhile isOptionalNameChar
    let t₂ := t₁.dropWhile isOptionalNameChar
    if name = [] then none
    else
      match skipBlanks t₂ with
      | '=' :: t₃ =>
        (default? false (skipBlanks t₃)).map fun (d, rest) => (⟨name, true, some d⟩, rest)
      | _ => (closing? t₂).map fun rest => (⟨name, true, none⟩, rest)
  | _ => none

/-- A name without brackets: the longest run of name characters. -/
def requiredName? (t : Text) : Option (ParamName × Text) :=
  let t₁ := skipBlanks t
  let name := t₁.takeWhile isNameChar
  if name = [] then none else some (⟨name, false, none⟩, t₁.dropWhile isNameChar)

/-- The name at the front of the text and the text after it. -/
def paramName? (t : Text) : Option (ParamName × Text) :=
  match optionalName? t with
  | some found => some found
  | none => requiredName? t

end ApiGuide.Marker
