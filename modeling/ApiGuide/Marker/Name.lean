import ApiGuide.Marker.Cut
import ApiGuide.Text.Whitespace

/-!
Markers that name what a block documents: `@class name`, `@method name` and `@function name`.

The name is the rest of the line. Only the marker and its name are cut out; the line break stays.
-/

namespace ApiGuide.Marker

open Text

/-- The rest of the line after a keyword, and the text from the line break on. A blank and one more
    character of the line have to follow the keyword. -/
def lineAfter? (keyword t : Text) : Option (Text × Text) :=
  match after? keyword t with
  | some (b :: c :: rest) =>
    if isBlank b ∧ c ≠ '\n' then
      some (firstLine (b :: c :: rest), fromLineBreak (b :: c :: rest))
    else none
  | _ => none

/-- The name after the leftmost of the keywords that has one more character than a blank on its
    line. If that name turns out to be empty, no later keyword is looked at. -/
def name? (keywords : List Text) (t : Text) : Option (Text × Text) :=
  match cut? (fun u => keywords.findSome? (lineAfter? · u)) t with
  | none => none
  | some (line, rest) => if trim line = [] then none else some (trim line, rest)

/-- The name of a documented class and the text without its marker. -/
def className? (t : Text) : Option (Text × Text) :=
  name? ["@class".toList] t

/-- The name of a documented function and the text without its marker. -/
def functionName? (t : Text) : Option (Text × Text) :=
  name? ["@method".toList, "@function".toList] t

end ApiGuide.Marker
