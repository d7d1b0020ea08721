import ApiGuide.Calendar.Date
import ApiGuide.Proofs.Text.Numbers
import Mathlib.Algebra.Ring.Nat
import Mathlib.Data.List.Basic

/-!
The Gregorian calendar, and the digits that a date is written with.

The calendar is given by the lengths of the months of a year. A day exists if it is one of the days of
one of them, which is what the check of a date finds out by cases.
-/

namespace ApiGuide.Date

open Text

@[simp]
theorem digitsValue_padded (width n : Nat) : digitsValue (padded width n) = n := by
  simp [padded]

theorem isDigit_of_mem_padded {width n : Nat} {c : Char} (h : c ∈ padded width n) : c.isDigit = true := by
  rcases List.mem_append.1 h with hzero | hdigit
  · rw [List.eq_of_mem_replicate hzero]
    rfl
  · exact isDigit_of_mem_ofNat hdigit

theorem not_mem_padded {mark : Char} (hmark : mark.isDigit = false) (width n : Nat) :
    mark ∉ padded width n := by
  intro h
  rw [isDigit_of_mem_padded h] at hmark
  cases hmark

theorem padded_ne_nil (width n : Nat) : padded width n ≠ [] := by
  simp [padded, ofNat_ne_nil]

theorem length_ofNat_le_iff {width n : Nat} (hwidth : 0 < width) :
    (ofNat n).length ≤ width ↔ n < 10 ^ width :=
  Nat.length_toDigits_le_iff (by decide) hwidth

theorem length_padded (width n : Nat) : (padded width n).length = max width (ofNat n).length := by
  rw [padded, List.length_append, List.length_replicate]
  omega

/-- A number that fits is written with exactly as many digits as the width. -/
theorem length_padded_of_lt {width n : Nat} (hwidth : 0 < width) (h : n < 10 ^ width) :
    (padded width n).length = width := by
  have hle := (length_ofNat_le_iff hwidth).2 h
  rw [length_padded]
  omega

/-- A number that does not fit is written with more digits. -/
theorem lt_length_padded {width n : Nat} (hwidth : 0 < width) (h : 10 ^ width ≤ n) :
    width < (padded width n).length := by
  have hnot : ¬ (ofNat n).length ≤ width := by
    rw [length_ofNat_le_iff hwidth]
    omega
  rw [length_padded]
  omega

/-- A leap year of the Gregorian calendar. -/
def IsLeapYear (year : Int) : Prop :=
  4 ∣ year ∧ (100 ∣ year → 400 ∣ year)

instance (year : Int) : Decidable (IsLeapYear year) :=
  inferInstanceAs (Decidable (_ ∧ (_ → _)))

/-- The months of a year with their lengths. -/
def months (year : Int) : List (Nat × Nat) :=
  [(1, 31), (2, if IsLeapYear year then 29 else 28), (3, 31), (4, 30), (5, 31), (6, 30), (7, 31), (8, 31),
    (9, 30), (10, 31), (11, 30), (12, 31)]

/-- The day is a day of one of the months of its year. -/
def InCalendar (d : Date) : Prop :=
  ∃ length, (d.month, length) ∈ months d.year ∧ 1 ≤ d.day ∧ d.day ≤ length

theorem isLeap_iff {year : Int} : isLeap year = true ↔ IsLeapYear year := by
  simp only [isLeap, IsLeapYear, Bool.and_eq_true, Bool.or_eq_true, decide_eq_true_eq, bne_iff_ne]
  omega

theorem months_eq_map (year : Int) :
    months year = (List.range' 1 12).map fun month => (month, daysInMonth year month) := by
  simp [months, List.range', daysInMonth, isLeap_iff]

theorem mem_months_iff {year : Int} {month length : Nat} :
    (month, length) ∈ months year ↔ (1 ≤ month ∧ month ≤ 12) ∧ length = daysInMonth year month := by
  rw [months_eq_map, List.mem_map]
  constructor
  · rintro ⟨m, hm, hpair⟩
    obtain ⟨rfl, rfl⟩ := Prod.mk.inj hpair
    rw [List.mem_range'_1] at hm
    exact ⟨by omega, rfl⟩
  · rintro ⟨hmonth, rfl⟩
    exact ⟨month, List.mem_range'_1.2 (by omega), rfl⟩

theorem isValid_iff_inCalendar {d : Date} : d.isValid = true ↔ d.InCalendar := by
  simp only [isValid, InCalendar, Bool.and_eq_true, decide_eq_true_eq, mem_months_iff]
  constructor
  · intro h
    have hmonth : 1 ≤ d.month ∧ d.month ≤ 12 := by
      -- A month outside of the year has no day.
      by_contra hnot
      have hnone : daysInMonth d.year d.month = 0 := by
        unfold daysInMonth
        split_ifs <;> omega
      omega
    exact ⟨_, ⟨hmonth, rfl⟩, h⟩
  · rintro ⟨length, ⟨-, rfl⟩, h⟩
    exact h

instance (d : Date) : Decidable d.InCalendar :=
  decidable_of_iff (d.isValid = true) isValid_iff_inCalendar

theorem InCalendar.month_le {d : Date} (h : d.InCalendar) : d.month ≤ 12 := by
  obtain ⟨length, hmonth, -⟩ := h
  exact (mem_months_iff.1 hmonth).1.2

theorem InCalendar.day_le {d : Date} (h : d.InCalendar) : d.day ≤ 31 := by
  obtain ⟨length, hmonth, -, hday⟩ := h
  have hlength : length ≤ 31 := by
    rw [(mem_months_iff.1 hmonth).2]
    unfold daysInMonth
    split_ifs <;> omega
  omega

end ApiGuide.Date
