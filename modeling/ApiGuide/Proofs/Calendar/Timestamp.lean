import ApiGuide.Calendar.Timestamp
import ApiGuide.Proofs.Calendar.Date
import ApiGuide.Proofs.Changelog.Dates
import ApiGuide.Proofs.Text.Blanks
import ApiGuide.Proofs.Text.Lines

/-!
Timestamps as they are written, and the date that a release gets from one.

Every field is read back with the digits it was written with, so the date is the one that is written if
the calendar has it. Neither the time nor the offset has a say. Whatever the text, no other date than one
of the calendar comes out.
-/

namespace ApiGuide

open Text Date

theorem Text.isWhitespace_of_isDigit {c : Char} (h : c.isDigit = true) : isWhitespace c = false := by
  simp only [Char.isDigit, Bool.and_eq_true, decide_eq_true_eq, UInt32.le_iff_toNat_le] at h
  have hlow : 48 ≤ c.toNat := h.1
  have hhigh : c.toNat ≤ 57 := h.2
  have hspace : c ≠ ' ' := by
    rintro rfl
    exact absurd hlow (by decide)
  rw [isWhitespace, classOf, if_pos (by omega)]
  simp only [hspace, Bool.or_eq_false_iff, beq_eq_false_iff_ne, ne_eq, not_false_eq_true,
    true_and, Bool.and_eq_false_iff, decide_eq_false_iff_not]
  omega

namespace Timestamp

/-- Digits to read from. They come to an end, or there are enough of them. -/
theorem digits?_append {most : Nat} {digits rest : Text} (hmost : 0 < most) (hne : digits ≠ [])
    (hdigits : ∀ c ∈ digits, c.isDigit = true)
    (hrest : digits.length < most → ∀ c ∈ rest.head?, c.isDigit = false) :
    digits? most (digits ++ rest) = some (digitsValue (digits.take most), digits.drop most ++ rest) := by
  have htake : ((digits ++ rest).take most).takeWhile Char.isDigit = digits.take most := by
    rw [List.take_append]
    refine (takeWhile_append_of_boundary (fun c hc => hdigits c (List.mem_of_mem_take hc)) ?_).1
    intro c hc
    rw [List.head?_take] at hc
    split at hc
    · cases hc
    · exact hrest (by omega) c hc
  have hfound : digits.take most ≠ [] := by
    simp [hne]
    omega
  have hdrop : (digits ++ rest).drop (digits.take most).length = digits.drop most ++ rest := by
    rw [List.length_take, List.drop_append]
    rcases Nat.le_total most digits.length with hle | hle
    · simp [hle]
    · simp [hle]
  rw [digits?, htake, if_neg hfound, hdrop]

theorem trimStart_digits_append {digits : Text} (hne : digits ≠ []) (hdigits : ∀ c ∈ digits, c.isDigit = true)
    (rest : Text) : trimStart (digits ++ rest) = digits ++ rest := by
  obtain ⟨c, more, rfl⟩ := List.exists_cons_of_ne_nil hne
  have hc : isWhitespace c = false := isWhitespace_of_isDigit (hdigits c List.mem_cons_self)
  exact dropWhile_eq_self_iff_head?.2 (by simp [hc])

theorem field?_append {digits rest : Text} (hne : digits ≠ []) (hdigits : ∀ c ∈ digits, c.isDigit = true)
    (hrest : digits.length < 2 → ∀ c ∈ rest.head?, c.isDigit = false) :
    field? (digits ++ rest) = some (digitsValue (digits.take 2), digits.drop 2 ++ rest) := by
  rw [field?, trimStart_digits_append hne hdigits]
  exact digits?_append (by decide) hne hdigits hrest

theorem mark?_cons (c : Char) (t : Text) : mark? c (c :: t) = some t := by
  simp [mark?]

theorem mark?_eq_none {c : Char} {t : Text} (h : t.head? ≠ some c) : mark? c t = none := by
  cases t with
  | nil => rfl
  | cons d t =>
    have hne : c ≠ d := by
      rintro rfl
      exact h rfl
    simp [mark?, hne]

theorem digits?_padded {width n : Nat} (hwidth : 0 < width) (h : n < 10 ^ width) (rest : Text) :
    digits? width (padded width n ++ rest) = some (n, rest) := by
  have hlength := length_padded_of_lt hwidth h
  rw [digits?_append hwidth (padded_ne_nil width n) (fun c => isDigit_of_mem_padded) (by omega),
    List.take_of_length_le (Nat.le_of_eq hlength), List.drop_of_length_le (Nat.le_of_eq hlength),
    digitsValue_padded, List.nil_append]

theorem field?_padded {n : Nat} (h : n < 100) (rest : Text) :
    field? (padded 2 n ++ rest) = some (n, rest) := by
  rw [field?, trimStart_digits_append (padded_ne_nil 2 n) (fun c => isDigit_of_mem_padded)]
  exact digits?_padded (by decide) h rest

/-- Of a number with more than two digits only two are read, and a digit is left. -/
theorem field?_padded_of_le {n : Nat} (h : 100 ≤ n) (rest : Text) :
    ∃ m digits, field? (padded 2 n ++ rest) = some (m, digits ++ rest) ∧ digits ≠ [] ∧
      ∀ c ∈ digits, c.isDigit = true := by
  have hlength : 2 < (padded 2 n).length := lt_length_padded (by decide) h
  refine ⟨_, _, field?_append (padded_ne_nil 2 n) (fun c => isDigit_of_mem_padded) (by omega), ?_, ?_⟩
  · rw [Ne, List.drop_eq_nil_iff]
    omega
  · exact fun c hc => isDigit_of_mem_padded (List.mem_of_mem_drop hc)

theorem year?_padded {year : Nat} (h : year ≤ 9999) (rest : Text) :
    year? (padded 4 year ++ rest) = some ((year : Int), rest) := by
  have hsign {sign : Char} (hdigit : sign.isDigit = false) (t : Text) : padded 4 year ++ rest ≠ sign :: t := by
    intro heq
    obtain ⟨c, more, hcons⟩ := List.exists_cons_of_ne_nil (padded_ne_nil 4 year)
    obtain ⟨rfl, -⟩ : c = sign ∧ more ++ rest = t := by simpa [hcons] using heq
    exact not_mem_padded hdigit 4 year (hcons ▸ List.mem_cons_self)
  have hread := digits?_padded (by decide : 0 < 4) (by omega : year < 10 ^ 4) rest
  rw [year?, trimStart_digits_append (padded_ne_nil 4 year) (fun c => isDigit_of_mem_padded)]
  split
  · next t heq => exact absurd heq (hsign rfl t)
  · next t heq => exact absurd heq (hsign rfl t)
  · rw [hread]
    rfl

theorem twoDigits?_padded {n : Nat} (h : n < 100) (rest : Text) :
    twoDigits? (padded 2 n ++ rest) = some (n, rest) := by
  obtain ⟨a, b, hab⟩ := List.length_eq_two.1 (length_padded_of_lt (by decide : 0 < 2) h)
  have hdigit : ∀ c ∈ [a, b], c.isDigit = true := fun c hc => isDigit_of_mem_padded (hab ▸ hc)
  have ha := hdigit a (by simp)
  have hb := hdigit b (by simp)
  have hvalue : digitsValue [a, b] = n := by rw [← hab, digitsValue_padded]
  simp [hab, twoDigits?, ha, hb, hvalue]

/-- A date as it is written is read if the calendar has it. -/
theorem date?_append {year month day : Nat} (hyear : year ≤ 9999) (hmonth : month < 100) (hday : day < 100)
    (rest : Text) :
    date? (padded 4 year ++ '-' :: (padded 2 month ++ '-' :: (padded 2 day ++ rest))) =
      if (⟨year, month, day⟩ : Date).InCalendar then some (⟨year, month, day⟩, rest) else none := by
  have hkept : Date.first.year ≤ year ∧ year ≤ Date.last.year := by
    simp only [Date.first, Date.last]
    omega
  simp [date?, year?_padded hyear, mark?_cons, field?_padded hmonth, field?_padded hday, hkept,
    isValid_iff_inCalendar]

/-- A month of more than two digits is no month, and of a day of more than two a digit is left. -/
theorem date?_append_of_le {year month day : Nat} (hyear : year ≤ 9999) (h : 100 ≤ month ∨ 100 ≤ day)
    (rest : Text) :
    date? (padded 4 year ++ '-' :: (padded 2 month ++ '-' :: (padded 2 day ++ rest))) = none ∨
      ∃ d digits, date? (padded 4 year ++ '-' :: (padded 2 month ++ '-' :: (padded 2 day ++ rest))) =
        some (d, digits ++ rest) ∧ digits ≠ [] ∧ ∀ c ∈ digits, c.isDigit = true := by
  by_cases hmonth : month < 100
  · obtain ⟨n, digits, hfield, hne, hdigits⟩ := field?_padded_of_le (by omega : 100 ≤ day) rest
    by_cases hkept : (⟨year, month, n⟩ : Date).isValid = true ∧ Date.first.year ≤ year ∧ year ≤ Date.last.year
    · refine .inr ⟨⟨year, month, n⟩, digits, ?_, hne, hdigits⟩
      simp [date?, year?_padded hyear, mark?_cons, field?_padded hmonth, hfield, hkept]
    · left
      simp [date?, year?_padded hyear, mark?_cons, field?_padded hmonth, hfield, hkept]
  · obtain ⟨n, digits, hfield, hne, hdigits⟩ := field?_padded_of_le (by omega : 100 ≤ month)
      ('-' :: (padded 2 day ++ rest))
    have hmark : mark? '-' (digits ++ '-' :: (padded 2 day ++ rest)) = none := by
      apply mark?_eq_none
      obtain ⟨c, more, rfl⟩ := List.exists_cons_of_ne_nil hne
      have hc : c ≠ '-' := by
        rintro rfl
        cases hdigits _ List.mem_cons_self
      simpa using hc
    left
    simp [date?, year?_padded hyear, mark?_cons, hfield, hmark]

theorem time?_append {hour minute second : Nat} (hhour : hour < 24) (hminute : minute < 60)
    (hsecond : second ≤ 60) (rest : Text) :
    time? (padded 2 hour ++ ':' :: (padded 2 minute ++ ':' :: (padded 2 second ++ rest))) =
      some (hour * 3600 + minute * 60 + min second 59, rest) := by
  simp [time?, mark?_cons, field?_padded (by omega : hour < 100), field?_padded (by omega : minute < 100),
    field?_padded (by omega : second < 100), hhour, hminute, hsecond]

theorem offset?_append {sign : Char} (hsign : sign = '+' ∨ sign = '-') {hours minutes : Nat}
    (hhours : hours < 24) (hminutes : minutes < 60) :
    ∃ offset, offset? (sign :: (padded 2 hours ++ padded 2 minutes)) = some (offset, []) := by
  have hsigned (t : Text) : ∃ direction, sign? (trimStart (sign :: t)) = some (direction, t) := by
    rcases hsign with rfl | rfl
    · exact ⟨1, rfl⟩
    · exact ⟨-1, rfl⟩
  obtain ⟨direction, hdirection⟩ := hsigned (padded 2 hours ++ padded 2 minutes)
  -- Nothing stands between the hours and the minutes, so nothing is skipped there.
  have hskip : (padded 2 minutes).dropWhile (fun c => c == ':' || isWhitespace c) = padded 2 minutes := by
    rw [dropWhile_eq_self_iff_head?]
    intro c hc
    have hdigit : c.isDigit = true := isDigit_of_mem_padded (List.mem_of_mem_head? hc)
    have hcolon : c ≠ ':' := by
      rintro rfl
      cases hdigit
    simp [hcolon, isWhitespace_of_isDigit hdigit]
  have hlast := twoDigits?_padded (by omega : minutes < 100) []
  rw [List.append_nil] at hlast
  refine ⟨direction * (hours * 60 + minutes : Nat), ?_⟩
  simp [offset?, hdirection, twoDigits?_padded (by omega : hours < 100), hskip, hlast, hhours, hminutes]

/-- A third digit of a day is no time. -/
theorem time?_of_digits {digits : Text} (hne : digits ≠ []) (hdigits : ∀ c ∈ digits, c.isDigit = true)
    (rest : Text) : time? (digits ++ ' ' :: rest) = none := by
  have hmark : mark? ':' (digits.drop 2 ++ ' ' :: rest) = none := by
    apply mark?_eq_none
    cases hdrop : digits.drop 2 with
    | nil => simp
    | cons c more =>
      have hdigit := hdigits c (List.mem_of_mem_drop (hdrop ▸ List.mem_cons_self))
      have hc : c ≠ ':' := by
        rintro rfl
        cases hdigit
      simpa using hc
  have hfield : field? (digits ++ ' ' :: rest) = some (digitsValue (digits.take 2), digits.drop 2 ++ ' ' :: rest) :=
    field?_append hne hdigits (by simp)
  simp [time?, hfield, hmark]

/-- What a timestamp is written from. The month and the day may be any numbers. -/
structure Stamp where
  year : Nat
  month : Nat
  day : Nat
  hour : Nat
  minute : Nat
  second : Nat
  sign : Char
  offsetHours : Nat
  offsetMinutes : Nat
  year_le : year ≤ 9999
  hour_lt : hour < 24
  minute_lt : minute < 60
  second_le : second ≤ 60
  sign_mem : sign = '+' ∨ sign = '-'
  offsetHours_lt : offsetHours < 24
  offsetMinutes_lt : offsetMinutes < 60

namespace Stamp

/-- The date as it is written. -/
def date (s : Stamp) : Date :=
  ⟨s.year, s.month, s.day⟩

/-- The time, a blank and the offset. -/
def clockText (s : Stamp) : Text :=
  padded 2 s.hour ++ ':' :: (padded 2 s.minute ++ ':' :: (padded 2 s.second ++
    ' ' :: s.sign :: (padded 2 s.offsetHours ++ padded 2 s.offsetMinutes)))

/-- The date, a blank, the time, a blank and the offset, with zeros in front of each number. -/
def toText (s : Stamp) : Text :=
  padded 4 s.year ++ '-' :: (padded 2 s.month ++ '-' :: (padded 2 s.day ++ ' ' :: s.clockText))

theorem trim_toText (s : Stamp) : trim s.toText = s.toText := by
  rw [trim_eq_self_iff]
  constructor
  · intro c hc
    have hmem : c ∈ (padded 4 s.year).head? := by
      rwa [toText, List.head?_append_of_ne_nil _ (padded_ne_nil 4 s.year)] at hc
    exact isWhitespace_of_isDigit (isDigit_of_mem_padded (List.mem_of_mem_head? hmem))
  · intro c hc
    have hend : ∃ front, s.toText = front ++ padded 2 s.offsetMinutes := by
      refine ⟨padded 4 s.year ++ '-' :: (padded 2 s.month ++ '-' :: (padded 2 s.day ++ ' ' ::
        (padded 2 s.hour ++ ':' :: (padded 2 s.minute ++ ':' :: (padded 2 s.second ++
          ' ' :: s.sign :: padded 2 s.offsetHours))))), ?_⟩
      simp [toText, clockText]
    obtain ⟨front, hfront⟩ := hend
    rw [hfront, List.getLast?_append_of_ne_nil _ (padded_ne_nil 2 s.offsetMinutes)] at hc
    exact isWhitespace_of_isDigit (isDigit_of_mem_padded (List.mem_of_mem_getLast? hc))

theorem trimStart_clockText (s : Stamp) : trimStart (' ' :: s.clockText) = s.clockText := by
  have hdigits := trimStart_digits_append (padded_ne_nil 2 s.hour) (fun c => isDigit_of_mem_padded)
    (':' :: (padded 2 s.minute ++ ':' :: (padded 2 s.second ++
      ' ' :: s.sign :: (padded 2 s.offsetHours ++ padded 2 s.offsetMinutes))))
  exact hdigits

/-- The clock of a stamp is read to its end. -/
theorem time?_clockText (s : Stamp) :
    ∃ seconds, time? s.clockText =
      some (seconds, ' ' :: s.sign :: (padded 2 s.offsetHours ++ padded 2 s.offsetMinutes)) :=
  ⟨_, time?_append s.hour_lt s.minute_lt s.second_le _⟩

theorem offset?_sign (s : Stamp) :
    ∃ offset, offset? (trimStart (' ' :: s.sign :: (padded 2 s.offsetHours ++ padded 2 s.offsetMinutes))) =
      some (offset, []) := by
  have hskip : ∀ t, trimStart (' ' :: s.sign :: t) = s.sign :: t := by
    intro t
    rcases s.sign_mem with hsign | hsign <;> rw [hsign] <;> rfl
  rw [hskip]
  exact offset?_append s.sign_mem s.offsetHours_lt s.offsetMinutes_lt

/-- The years of a stamp are far from the ends of the calendar, so its offset cannot leave it. -/
theorem inRange_date (s : Stamp) (seconds : Nat) (offset : Int) : inRange s.date seconds offset = true := by
  have hyear : s.date.year ≤ 9999 := Int.ofNat_le.2 s.year_le
  have hfirst : s.date ≠ Date.first := by
    intro heq
    have hneg : s.date.year = -262143 := by rw [heq, Date.first]
    have hnonneg : 0 ≤ s.date.year := Int.natCast_nonneg s.year
    omega
  have hlast : s.date ≠ Date.last := by
    intro heq
    have hlate : s.date.year = 262142 := by rw [heq, Date.last]
    omega
  simp [inRange, hfirst, hlast]

/-- A stamp between white space is read as the date that it writes, if the calendar has that date. -/
theorem parse?_toText (s : Stamp) {before after : Text} (hbefore : ∀ c ∈ before, isWhitespace c = true)
    (hafter : ∀ c ∈ after, isWhitespace c = true) :
    parse? (before ++ (s.toText ++ after)) = if s.date.InCalendar then some s.date else none := by
  rw [parse?, trim_between hbefore hafter s.trim_toText, toText]
  by_cases htwo : s.month < 100 ∧ s.day < 100
  · obtain ⟨seconds, hseconds⟩ := s.time?_clockText
    obtain ⟨offset, hoffset⟩ := s.offset?_sign
    have hrange : inRange s.date seconds offset = true := s.inRange_date seconds offset
    rw [date?_append s.year_le htwo.1 htwo.2, ← date]
    split
    · simp [s.trimStart_clockText, hseconds, hoffset, hrange]
    · rfl
  · have hnot : ¬ s.date.InCalendar := by
      intro h
      have hmonth : s.month ≤ 12 := h.month_le
      have hday : s.day ≤ 31 := h.day_le
      omega
    rw [if_neg hnot]
    obtain hnone | ⟨d, digits, hdate, hne, hdigits⟩ :=
      date?_append_of_le s.year_le (by omega : 100 ≤ s.month ∨ 100 ≤ s.day) (' ' :: s.clockText)
    · rw [hnone]
      rfl
    · simp [hdate, trimStart_digits_append hne hdigits, time?_of_digits hne hdigits]

end Stamp

theorem inCalendar_of_date? {t rest : Text} {d : Date} (h : date? t = some (d, rest)) : d.InCalendar := by
  simp only [date?, Option.bind_eq_bind, Option.bind_eq_some_iff] at h
  obtain ⟨⟨year, t₁⟩, -, t₂, -, ⟨month, t₃⟩, -, t₄, -, ⟨day, t₅⟩, -, hkept⟩ := h
  dsimp only at hkept
  split at hkept
  · next hvalid =>
    cases hkept
    exact isValid_iff_inCalendar.1 hvalid.1
  · cases hkept

/-- A date that is read is one of the calendar, whatever the text. -/
theorem inCalendar_of_parse? {t : Text} {d : Date} (h : parse? t = some d) : d.InCalendar := by
  simp only [parse?, Option.bind_eq_bind, Option.bind_eq_some_iff] at h
  obtain ⟨⟨date, t₁⟩, hdate, ⟨seconds, t₂⟩, -, ⟨offset, t₃⟩, -, hend⟩ := h
  dsimp only at hend
  split at hend
  · cases hend
    exact inCalendar_of_date? hdate
  · cases hend

end Timestamp

namespace Release

/-- The date as far as it is known is one of the calendar. -/
def DateInCalendar (r : Release) : Prop :=
  ∀ d ∈ r.date, d.InCalendar

theorem date_resolve_of_known_none {r : Release} (h : r.known = none) (control : VersionControl) :
    (r.resolve control).date = (control.timestamp r.tag).bind Timestamp.parse? := by
  rw [resolve_of_known_none h]
  rfl

theorem DateInCalendar.resolve {r : Release} (h : r.DateInCalendar) (control : VersionControl) :
    (r.resolve control).DateInCalendar := by
  cases hknown : r.known with
  | none =>
    intro d hd
    rw [date_resolve_of_known_none hknown] at hd
    obtain ⟨t, -, hread⟩ := Option.bind_eq_some_iff.1 hd
    exact Timestamp.inCalendar_of_parse? hread
  | some date =>
    have hsame : r.resolve control = r := by
      rw [Release.resolve, hknown]
    rwa [hsame]

theorem DateInCalendar.foldl_resolve {r : Release} (h : r.DateInCalendar) (controls : List VersionControl) :
    (controls.foldl (fun r control => r.resolve control) r).DateInCalendar := by
  induction controls generalizing r with
  | nil => exact h
  | cons control rest ih => exact ih (h.resolve control)

/-- The date of a release is the one that its timestamp writes: whatever the time and the offset, that
    very day if the calendar has it and none otherwise. However often and whatever version control is
    asked, a date that is given is one of the calendar. -/
theorem date_as_written_in_timestamp {r : Release} (hknown : r.known = none) :
    (∀ (s : Timestamp.Stamp) (control : VersionControl) (before after : Text),
      (∀ c ∈ before, isWhitespace c = true) → (∀ c ∈ after, isWhitespace c = true) →
      control.timestamp r.tag = some (before ++ (s.toText ++ after)) →
      (r.resolve control).date = if s.date.InCalendar then some s.date else none) ∧
    ∀ (controls : List VersionControl) (d : Date),
      (controls.foldl (fun r control => r.resolve control) r).date = some d → d.InCalendar := by
  constructor
  · intro s control before after hbefore hafter htimestamp
    rw [date_resolve_of_known_none hknown, htimestamp, Option.bind_some]
    exact s.parse?_toText hbefore hafter
  · have hfresh : r.DateInCalendar := by
      rw [DateInCalendar, Release.date, hknown]
      simp
    exact fun controls => hfresh.foldl_resolve controls

/-- A leap second at the end of the 29th of February of a year. At offset zero that is the next day. -/
def leapSecond (year : Nat) (hyear : year ≤ 9999) : Timestamp.Stamp where
  year := year
  month := 2
  day := 29
  hour := 23
  minute := 59
  second := 60
  sign := '-'
  offsetHours := 23
  offsetMinutes := 59
  year_le := hyear
  hour_lt := by decide
  minute_lt := by decide
  second_le := by decide
  sign_mem := by decide
  offsetHours_lt := by decide
  offsetMinutes_lt := by decide

/-- The year 2000 has that day and the year 1900 has not. -/
theorem date_as_written_leapSecond :
    let r : Release := { version := "0.50.0".toList, notes := [] }
    let tagged (text : String) := VersionControl.ofTable none [("v0.50.0".toList, text.toList)]
    (r.resolve (tagged "\u2003 2000-02-29 23:59:60 -2359\r\n")).date = some ⟨2000, 2, 29⟩ ∧
    (r.resolve (tagged "1900-02-29 23:59:60 -2359\n")).date = none ∧
    (⟨2000, 2, 29⟩ : Date).InCalendar ∧ ¬ (⟨1900, 2, 29⟩ : Date).InCalendar := by
  intro r tagged
  obtain ⟨hwritten, hgiven⟩ := date_as_written_in_timestamp (rfl : r.known = none)
  have hleap := hwritten (leapSecond 2000 (by decide)) (tagged "\u2003 2000-02-29 23:59:60 -2359\r\n")
    "\u2003 ".toList "\r\n".toList (List.all_eq_true.1 (by decide)) (List.all_eq_true.1 (by decide))
    (by decide +kernel)
  have hcommon := hwritten (leapSecond 1900 (by decide)) (tagged "1900-02-29 23:59:60 -2359\n")
    [] ['\n'] (List.all_eq_true.1 (by decide)) (List.all_eq_true.1 (by decide)) (by decide +kernel)
  have hnot : ¬ (leapSecond 1900 (by decide)).date.InCalendar := by decide
  rw [if_pos (by decide)] at hleap
  rw [if_neg hnot] at hcommon
  exact ⟨hleap, hcommon, hgiven [tagged "\u2003 2000-02-29 23:59:60 -2359\r\n"] _ hleap, hnot⟩

end Release

end ApiGuide
