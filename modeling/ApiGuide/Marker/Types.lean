import ApiGuide.Text.Whitespace

/-!
The type list in braces at the front of a parameter.
-/

namespace ApiGuide.Marker

open Text

/-- The types between pipes. Blanks around a pipe belong to it, and an empty type is none. -/
def typeList (t : Text) : List Text :=
  ((splitOn '|' (trim t)).map fun piece => dropEndWhile isBlank (skipBlanks piece)).filter
    (!·.isEmpty)

/-- The type list at the front of the text, if it has one, and the text after it. The braces hold at
    least one character. -/
def takeTypes (t : Text) : List Text × Text :=
  match skipBlanks t with
  | '\x7b' :: inside =>
    match splitAt? '\x7d' inside with
    | some (c :: body, rest) => (typeList (c :: body), rest)
    | _ => ([], t)
  | _ => ([], t)

end ApiGuide.Marker
