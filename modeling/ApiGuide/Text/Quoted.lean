import ApiGuide.Text.Basic
import ApiGuide.Text.HiddenTable

/-!
Texts quoted for messages, so that every character in them can be seen.
-/

namespace ApiGuide.Text

/-- A character that does not show by itself: a control, a separator, a space other than U+0020, an
    unassigned or private code point, a format character, or a mark on the character before it. -/
def isHidden (c : Char) : Bool :=
  classOf (fun c => c.toNat < 0x20 || c.toNat == 0x7f) hiddenRanges c

/-- The code point of a character in braces. -/
def codePointEscape (c : Char) : Text :=
  "\\u\x7b".toList ++ Nat.toDigits 16 c.toNat ++ "\x7d".toList

/-- One character as it stands between double quotes. -/
def quoteChar (c : Char) : Text :=
  if c = '\x00' then "\\0".toList
  else if c = '\t' then "\\t".toList
  else if c = '\r' then "\\r".toList
  else if c = '\n' then "\\n".toList
  else if c = '"' then "\\\"".toList
  else if c = '\\' then "\\\\".toList
  else if isHidden c then codePointEscape c
  else [c]

/-- One character of a path as it stands between double quotes: a single quote is escaped too. -/
def quotePathChar (c : Char) : Text :=
  if c = '\'' then "\\'".toList else quoteChar c

/-- A text between double quotes. -/
def quoted (t : Text) : Text :=
  '"' :: t.flatMap quoteChar ++ ['"']

/-- A path between double quotes. -/
def quotedPath (t : Text) : Text :=
  '"' :: t.flatMap quotePathChar ++ ['"']

end ApiGuide.Text
