import ApiGuide.Text.Unindent

/-!
Documentation blocks of a source text.

A block stands between a line that holds only `###*` and the next line that holds only `###`.
Everything outside such a pair is skipped, and a block that is never closed is none.
-/

namespace ApiGuide.Block

open Text

/-- Turns every carriage return and line feed pair into a line feed. -/
def normalizeLineBreaks : Text → Text
  | [] => []
  | [c] => [c]
  | c :: d :: t =>
    if c = '\r' ∧ d = '\n' then '\n' :: normalizeLineBreaks t else c :: normalizeLineBreaks (d :: t)

/-- What follows the mark on a line that holds only blanks before it. -/
def afterMark? (mark line : Text) : Option Text :=
  after? mark (skipBlanks line)

/-- The line holds only `###*` and ends in a line break. -/
def isBegin (line : Text) : Bool :=
  match afterMark? "###*".toList line with
  | some rest => skipBlanks rest == ['\n']
  | none => false

/-- The line holds only `###`. Its line break may be missing at the end of the text. -/
def isEnd (line : Text) : Bool :=
  match afterMark? "###".toList line with
  | some rest => skipBlanks rest == ['\n'] || skipBlanks rest == []
  | none => false

/-- The lines between begin and end lines. `opened` holds the lines of the block that the scan is
    in, if it is in one. -/
def scan : (opened : Option (List Text)) → List Text → List (List Text)
  | _, [] => []
  | none, line :: rest => if isBegin line then scan (some []) rest else scan none rest
  | some content, line :: rest =>
    if isEnd line then content :: scan none rest else scan (some (content ++ [line])) rest

/-- The contents of the blocks, as they stand in the source with its line breaks normalized. -/
def contents (source : Text) : List Text :=
  (scan none (lines (normalizeLineBreaks source))).map List.flatten

/-- The unindented contents of the blocks, in source order. -/
def texts (source : Text) : List Text :=
  (contents source).map unindent

end ApiGuide.Block
