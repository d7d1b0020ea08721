import ApiGuide.Text.AlphanumericTable
import ApiGuide.Text.Basic
import ApiGuide.Text.WordTable

/-!
Word characters, alphanumeric characters, and the words of a text.
-/

namespace ApiGuide.Text

/-- A character that continues a keyword: a letter, mark, decimal digit, connector or joiner. -/
def isWordChar (c : Char) : Bool :=
  classOf (fun c => c.isAlphanum || c == '_') wordRanges c

/-- A letter or a number of any script. -/
def isAlphanumeric (c : Char) : Bool :=
  classOf Char.isAlphanum alphanumericRanges c

/-- No word character stands at the front of the text, so a keyword may end before it. -/
def atWordEnd : Text → Bool
  | [] => true
  | c :: _ => !isWordChar c

/-- The pieces of a text between its characters that are not alphanumeric, empty ones included. -/
def alphanumericPieces : Text → List Text
  | [] => [[]]
  | c :: t =>
    if isAlphanumeric c then (alphanumericPieces t).modifyHead (c :: ·)
    else [] :: alphanumericPieces t

/-- The maximal runs of alphanumeric characters. -/
def words (t : Text) : List Text :=
  (alphanumericPieces t).filter (!·.isEmpty)

end ApiGuide.Text
