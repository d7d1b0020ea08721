import ApiGuide.Text.Basic
import ApiGuide.Text.CodeRanges

/-!
White space in the sense of Unicode, and trimming by it.
-/

namespace ApiGuide.Text

/-- White space from U+0080 on, in ascending order. -/
def whitespaceRanges : CodeRanges :=
  [(0x85, 0x85), (0xa0, 0xa0), (0x1680, 0x1680), (0x2000, 0x200a), (0x2028, 0x2029),
    (0x202f, 0x202f), (0x205f, 0x205f), (0x3000, 0x3000)]

/-- White space: the controls from tab to carriage return, the space and the Unicode spaces and
    line separators. -/
def isWhitespace (c : Char) : Bool :=
  classOf (fun c => c == ' ' || (0x9 ≤ c.toNat && c.toNat ≤ 0xd)) whitespaceRanges c

/-- Drops the leading white space. -/
def trimStart (t : Text) : Text :=
  t.dropWhile isWhitespace

/-- Drops the trailing white space. -/
def trimEnd (t : Text) : Text :=
  dropEndWhile isWhitespace t

/-- Drops the white space on both ends. -/
def trim (t : Text) : Text :=
  trimEnd (trimStart t)

theorem isWhitespace_of_isBlank {c : Char} (h : isBlank c = true) : isWhitespace c = true := by
  simp only [isBlank, Bool.or_eq_true, beq_iff_eq] at h
  rcases h with rfl | rfl <;> decide

end ApiGuide.Text
