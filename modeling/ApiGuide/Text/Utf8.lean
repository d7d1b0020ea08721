import ApiGuide.Text.Basic

/-!
Texts as bytes.

Decoding cuts the bytes into characters and faults, where a fault is the longest start of a
character that the next byte breaks off. A strict reader refuses faults, a lenient one shows each as
one replacement character.
-/

namespace ApiGuide.Text

/-- The bytes of a text. -/
def utf8 (t : Text) : List UInt8 :=
  t.flatMap String.utf8EncodeChar

/-- The start of a character: the bits so far, how many bytes are missing, and the bounds of the
    next one. -/
structure CharStart where
  code : Nat
  missing : Nat
  low : UInt8 := 0x80
  high : UInt8 := 0xbf

/-- The start that a leading byte makes. Bounds of the second byte refuse overlong forms,
    surrogates and code points that are too large. -/
def CharStart.ofLead? (lead : UInt8) : Option CharStart :=
  if 0xc2 ≤ lead && lead ≤ 0xdf then some ⟨lead.toNat % 32, 1, 0x80, 0xbf⟩
  else if 0xe0 ≤ lead && lead ≤ 0xef then
    some ⟨lead.toNat % 16, 2, if lead = 0xe0 then 0xa0 else 0x80, if lead = 0xed then 0x9f else 0xbf⟩
  else if 0xf0 ≤ lead && lead ≤ 0xf4 then
    some ⟨lead.toNat % 8, 3, if lead = 0xf0 then 0x90 else 0x80, if lead = 0xf4 then 0x8f else 0xbf⟩
  else none

/-- The start with the six bits of one more byte. -/
def CharStart.push (start : CharStart) (b : UInt8) : CharStart :=
  ⟨start.code * 64 + b.toNat % 64, start.missing - 1, 0x80, 0xbf⟩

/-- The characters of the bytes after an unfinished start, if there is one; `none` stands for a
    fault. -/
def utf8Pieces : Option CharStart → List UInt8 → List (Option Char)
  | none, [] => []
  | some _, [] => [none]
  | pending, b :: rest =>
    let fresh : List (Option Char) :=
      if b < 0x80 then some (Char.ofNat b.toNat) :: utf8Pieces none rest
      else
        match CharStart.ofLead? b with
        | some start => utf8Pieces (some start) rest
        | none => none :: utf8Pieces none rest
    match pending with
    | none => fresh
    | some start =>
      if start.low ≤ b && b ≤ start.high then
        if start.missing ≤ 1 then some (Char.ofNat (start.push b).code) :: utf8Pieces none rest
        else utf8Pieces (some (start.push b)) rest
      else none :: fresh

/-- The text of the bytes, if they are the bytes of a text. -/
def ofUtf8? (bytes : List UInt8) : Option Text :=
  (utf8Pieces none bytes).mapM id

/-- The text of the bytes with a replacement character for each fault. -/
def ofUtf8Lossy (bytes : List UInt8) : Text :=
  (utf8Pieces none bytes).map (·.getD '\ufffd')

end ApiGuide.Text
