import ApiGuide.Text.Utf8
import Mathlib.Tactic.IntervalCases

/-!
The bytes of a text are read back as the text.

A character has one to four bytes. The bounds of its second byte, which refuse what is no shortest form or
no character, let the bytes of every character through.
-/

namespace ApiGuide.Text

/-- A byte after the first: six bits of the code point. -/
def moreByte (n : Nat) : UInt8 :=
  UInt8.ofNat (n % 64 + 0x80)

theorem toNat_moreByte (n : Nat) : (moreByte n).toNat = n % 64 + 0x80 := by
  rw [moreByte, UInt8.toNat_ofNat']
  omega

theorem utf8Pieces_ascii {n : Nat} (h : n < 0x80) (rest : List UInt8) :
    utf8Pieces none (UInt8.ofNat n :: rest) = some (Char.ofNat n) :: utf8Pieces none rest := by
  have hn : (UInt8.ofNat n).toNat = n := by
    rw [UInt8.toNat_ofNat']
    omega
  have hascii : UInt8.ofNat n < 0x80 := by
    rw [UInt8.lt_iff_toNat_lt, hn]
    exact h
  rw [utf8Pieces, if_pos hascii, hn]

theorem utf8Pieces_lead {lead : UInt8} {start : CharStart} (hlead : 0x80 ≤ lead)
    (hstart : CharStart.ofLead? lead = some start) (rest : List UInt8) :
    utf8Pieces none (lead :: rest) = utf8Pieces (some start) rest := by
  have hascii : ¬ lead < 0x80 := UInt8.not_lt.2 hlead
  simp only [utf8Pieces, hascii, if_false, hstart]

theorem ofLead?_two {n : Nat} (hlow : 2 ≤ n) (hhigh : n < 32) :
    CharStart.ofLead? (UInt8.ofNat (n + 0xc0)) = some ⟨n, 1, 0x80, 0xbf⟩ := by
  interval_cases n <;> rfl

theorem ofLead?_three {n : Nat} (h : n < 16) :
    CharStart.ofLead? (UInt8.ofNat (n + 0xe0)) =
      some ⟨n, 2, if n = 0 then 0xa0 else 0x80, if n = 13 then 0x9f else 0xbf⟩ := by
  interval_cases n <;> rfl

theorem ofLead?_four {n : Nat} (h : n < 5) :
    CharStart.ofLead? (UInt8.ofNat (n + 0xf0)) =
      some ⟨n, 3, if n = 0 then 0x90 else 0x80, if n = 4 then 0x8f else 0xbf⟩ := by
  interval_cases n <;> rfl

theorem moreByte_bounds (n : Nat) : 0x80 ≤ moreByte n ∧ moreByte n ≤ 0xbf := by
  rw [UInt8.le_iff_toNat_le, UInt8.le_iff_toNat_le, toNat_moreByte]
  exact ⟨by simp, by simp; omega⟩

theorem le_moreByte {low : UInt8} {n : Nat} (h : low.toNat ≤ n % 64 + 0x80) : low ≤ moreByte n := by
  rw [UInt8.le_iff_toNat_le, toNat_moreByte]
  exact h

theorem moreByte_le {high : UInt8} {n : Nat} (h : n % 64 + 0x80 ≤ high.toNat) : moreByte n ≤ high := by
  rw [UInt8.le_iff_toNat_le, toNat_moreByte]
  exact h

/-- A byte within its bounds, after which more are missing. The next one has only the bounds of all such
    bytes. -/
theorem utf8Pieces_more {code missing n : Nat} {low high : UInt8} (hlow : low ≤ moreByte n)
    (hhigh : moreByte n ≤ high) (rest : List UInt8) :
    utf8Pieces (some ⟨code, missing + 2, low, high⟩) (moreByte n :: rest) =
      utf8Pieces (some ⟨code * 64 + n % 64, missing + 1, 0x80, 0xbf⟩) rest := by
  have hbits : (n % 64 + 0x80) % 64 = n % 64 := by omega
  simp [utf8Pieces, hlow, hhigh, CharStart.push, toNat_moreByte, hbits]

theorem utf8Pieces_last (code n : Nat) (rest : List UInt8) :
    utf8Pieces (some ⟨code, 1, 0x80, 0xbf⟩) (moreByte n :: rest) =
      some (Char.ofNat (code * 64 + n % 64)) :: utf8Pieces none rest := by
  have hbits : (n % 64 + 0x80) % 64 = n % 64 := by omega
  have hbounds := moreByte_bounds n
  simp [utf8Pieces, hbounds, CharStart.push, toNat_moreByte, hbits]

theorem le_lead {n k : Nat} (hk : 0x80 ≤ k) (h : n + k < 256) : (0x80 : UInt8) ≤ UInt8.ofNat (n + k) := by
  rw [UInt8.le_iff_toNat_le, UInt8.toNat_ofNat', Nat.mod_eq_of_lt h]
  exact Nat.le_add_left_of_le hk

theorem utf8Pieces_two {n : Nat} (hlow : 0x80 ≤ n) (hhigh : n < 0x800) (rest : List UInt8) :
    utf8Pieces none (UInt8.ofNat (n / 64 % 32 + 0xc0) :: moreByte n :: rest) =
      some (Char.ofNat n) :: utf8Pieces none rest := by
  have hcode : n / 64 % 32 * 64 + n % 64 = n := by omega
  rw [utf8Pieces_lead (le_lead (by omega) (by omega)) (ofLead?_two (by omega) (by omega)),
    utf8Pieces_last, hcode]

theorem utf8Pieces_three {n : Nat} (hlow : 0x800 ≤ n) (hhigh : n < 0x10000)
    (hchar : n < 0xd800 ∨ 0xdfff < n) (rest : List UInt8) :
    utf8Pieces none (UInt8.ofNat (n / 4096 % 16 + 0xe0) :: moreByte (n / 64) :: moreByte n :: rest) =
      some (Char.ofNat n) :: utf8Pieces none rest := by
  have hcode : (n / 4096 % 16 * 64 + n / 64 % 64) * 64 + n % 64 = n := by omega
  -- The second byte keeps to its bounds: the form is the shortest one, and no surrogate.
  have hfirst : (if n / 4096 % 16 = 0 then 0xa0 else 0x80 : UInt8) ≤ moreByte (n / 64) := by
    apply le_moreByte
    split
    · simp only [UInt8.reduceToNat]
      omega
    · simp
  have hlast : moreByte (n / 64) ≤ (if n / 4096 % 16 = 13 then 0x9f else 0xbf : UInt8) := by
    apply moreByte_le
    split <;> simp only [UInt8.reduceToNat] <;> omega
  rw [utf8Pieces_lead (le_lead (by omega) (by omega)) (ofLead?_three (by omega)),
    utf8Pieces_more hfirst hlast, utf8Pieces_last, hcode]

theorem utf8Pieces_four {n : Nat} (hlow : 0x10000 ≤ n) (hhigh : n < 0x110000) (rest : List UInt8) :
    utf8Pieces none (UInt8.ofNat (n / 262144 % 8 + 0xf0) :: moreByte (n / 4096) :: moreByte (n / 64) ::
      moreByte n :: rest) = some (Char.ofNat n) :: utf8Pieces none rest := by
  have hcode : ((n / 262144 % 8 * 64 + n / 4096 % 64) * 64 + n / 64 % 64) * 64 + n % 64 = n := by omega
  -- The second byte keeps to its bounds: the form is the shortest one, and not beyond the last character.
  have hfirst : (if n / 262144 % 8 = 0 then 0x90 else 0x80 : UInt8) ≤ moreByte (n / 4096) := by
    apply le_moreByte
    split
    · simp only [UInt8.reduceToNat]
      omega
    · simp
  have hlast : moreByte (n / 4096) ≤ (if n / 262144 % 8 = 4 then 0x8f else 0xbf : UInt8) := by
    apply moreByte_le
    split <;> simp only [UInt8.reduceToNat] <;> omega
  rw [utf8Pieces_lead (le_lead (by omega) (by omega)) (ofLead?_four (by omega)),
    utf8Pieces_more hfirst hlast, utf8Pieces_more (moreByte_bounds _).1 (moreByte_bounds _).2,
    utf8Pieces_last, hcode]

/-- The bytes of a character are read as that character, whatever follows them. -/
theorem utf8Pieces_utf8EncodeChar (c : Char) (rest : List UInt8) :
    utf8Pieces none (String.utf8EncodeChar c ++ rest) = some c :: utf8Pieces none rest := by
  have hchar : c.val.toNat < 0xd800 ∨ 0xdfff < c.val.toNat ∧ c.val.toNat < 0x110000 := c.valid
  have hpieces : utf8Pieces none (String.utf8EncodeChar c ++ rest) =
      some (Char.ofNat c.val.toNat) :: utf8Pieces none rest := by
    unfold String.utf8EncodeChar
    dsimp only
    split_ifs with hone htwo hthree
    · exact utf8Pieces_ascii (by omega) rest
    · exact utf8Pieces_two (by omega) (by omega) rest
    · exact utf8Pieces_three (by omega) (by omega) (by omega) rest
    · exact utf8Pieces_four (by omega) (by omega) rest
  rw [hpieces, ← Char.toNat, Char.ofNat_toNat]

theorem utf8Pieces_utf8 (t : Text) : utf8Pieces none (utf8 t) = t.map some := by
  induction t with
  | nil => rfl
  | cons c t ih =>
    rw [utf8] at ih
    rw [utf8, List.flatMap_cons, utf8Pieces_utf8EncodeChar, ih, List.map_cons]

/-- The bytes of a text are read as the text. -/
@[simp]
theorem ofUtf8?_utf8 (t : Text) : ofUtf8? (utf8 t) = some t := by
  rw [ofUtf8?, utf8Pieces_utf8, List.mapM_map]
  induction t with
  | nil => rfl
  | cons c t ih =>
    rw [List.mapM_cons, ih]
    rfl

end ApiGuide.Text
