import ApiGuide.Text.Basic

/-!
Removing the indent that a documentation text has from where it stands in its source.
-/

namespace ApiGuide.Text

/-- Removes `width` leading blanks of a line, or all if there are fewer. A line of blanks only
    becomes empty. -/
def outdent (width : Nat) (line : Text) : Text :=
  if allBlank line then [] else line.drop (min (indent line).length width)

/-- The lines from the first to the last that is not blank, each moved left by the indent of the
    first. -/
def unindentLines (pieces : List Text) : List Text :=
  match pieces.dropWhile allBlank with
  | [] => []
  | first :: rest =>
    (((first :: rest).map (outdent (indent first).length)).reverse.dropWhile allBlank).reverse

/-- Moves a text left by the indent of its first line that is not blank, and drops the blank lines
    on both ends. -/
def unindent (t : Text) : Text :=
  joinWith ['\n'] (unindentLines (splitOn '\n' t))

/-- Unindents the lines after the first by their own indent; the first line, which stands right
    after a marker, loses all its leading blanks. -/
def unindentHanging (t : Text) : Text :=
  match splitOn '\n' t with
  | [] => []
  | first :: rest => skipBlanks first ++ '\n' :: joinWith ['\n'] (unindentLines rest)

end ApiGuide.Text
