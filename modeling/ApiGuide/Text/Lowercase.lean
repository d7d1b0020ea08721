import ApiGuide.Text.Basic
import ApiGuide.Text.CasedTable
import ApiGuide.Text.CaseIgnorableTable
import ApiGuide.Text.LowercaseTable

/-!
Lower case of whole texts.

A capital sigma becomes a final sigma at the end of a word, so the map needs the characters on both
sides; every other character is mapped by itself.
-/

namespace ApiGuide.Text

/-- A letter that has a case. -/
def isCased (c : Char) : Bool :=
  classOf Char.isAlpha casedRanges c

/-- A character that does not end the word a letter stands in. -/
def isCaseIgnorable (c : Char) : Bool :=
  classOf (fun c => c == '\'' || c == '.' || c == ':' || c == '^' || c == '\x60')
    caseIgnorableRanges c

/-- The first character that is not case-ignorable is a cased letter. -/
def startsCased (t : Text) : Bool :=
  match t.dropWhile isCaseIgnorable with
  | [] => false
  | c :: _ => isCased c

/-- Lower case of one character outside any context. The dotted capital i keeps its dot as a mark
    of its own, so one character can become two. -/
def lowerChar (c : Char) : Text :=
  if c.toNat < 0x80 then [c.toLower]
  else if c = '\u0130' then ['i', '\u0307']
  else
    match lowercaseRuns.findSome? (·.lower? c.toNat) with
    | some code => [Char.ofNat code]
    | none => [c]

/-- Lower case of a text that follows the characters of `before`, the nearest first. -/
def lowerAfter (before : Text) : Text → Text
  | [] => []
  | c :: t =>
    let lowered :=
      if c = 'Σ' then [if startsCased before && !startsCased t then 'ς' else 'σ'] else lowerChar c
    lowered ++ lowerAfter (c :: before) t

/-- Lower case of a text. -/
def lower (t : Text) : Text :=
  lowerAfter [] t

end ApiGuide.Text
