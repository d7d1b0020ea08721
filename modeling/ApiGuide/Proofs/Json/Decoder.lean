import ApiGuide.Proofs.Json.Grammar
import ApiGuide.Proofs.Text.Lines

/-!
A decoder of JSON documents.

It reads a value from left to right and gives back the text after it. Every spelling that the grammar
allows is read as the value it spells, so no text is a document of two values.
-/

namespace ApiGuide.JsonValue

open Text Toml

/-- What is left after leading white space. -/
def skipSpace (t : Text) : Text :=
  t.dropWhile isSpace

/-- The number of four hexadecimal digits. -/
def unit? : Text → Option (Nat × Text)
  | a :: b :: c :: d :: rest =>
    match hexDigit? a, hexDigit? b, hexDigit? c, hexDigit? d with
    | some i, some j, some k, some l => some (((i * 16 + j) * 16 + k) * 16 + l, rest)
    | _, _, _, _ => none
  | _ => none

/-- The second half of a surrogate pair, from its backslash on. -/
def lowSurrogate? : Text → Option (Nat × Text)
  | '\\' :: 'u' :: t => (unit? t).filter (isLowSurrogate ·.1)
  | _ => none

/-- The character of one code unit or of a surrogate pair, from its first digit on. -/
def coded? (t : Text) : Option (Char × Text) :=
  match unit? t with
  | none => none
  | some (n, t) =>
    if isHighSurrogate n then
      (lowSurrogate? t).map fun (low, rest) => (Char.ofNat (pairCode n low), rest)
    else (charOfCode? n).map (·, t)

/-- The first character of a string. The end of the string is none. -/
def character? : Text → Option (Char × Text)
  | [] => none
  | [c] => if isPlain c then some (c, []) else none
  | c :: d :: t =>
    if c = '\\' then if d = 'u' then coded? t else (shortEscapes.lookup d).map (·, t)
    else if isPlain c then some (c, d :: t)
    else none

theorem length_unit?_lt {t rest : Text} {n : Nat} (h : unit? t = some (n, rest)) : rest.length < t.length := by
  unfold unit? at h
  split at h
  · split at h
    · cases h
      simp only [List.length_cons]
      omega
    · cases h
  · cases h

theorem length_lowSurrogate?_lt {t rest : Text} {n : Nat} (h : lowSurrogate? t = some (n, rest)) :
    rest.length < t.length := by
  unfold lowSurrogate? at h
  split at h
  · have hshorter := length_unit?_lt (Option.eq_some_of_filter_eq_some h)
    simp only [List.length_cons]
    omega
  · cases h

theorem length_coded?_lt {t rest : Text} {c : Char} (h : coded? t = some (c, rest)) :
    rest.length < t.length := by
  unfold coded? at h
  split at h
  · cases h
  · next n t' hunit =>
    have hshorter := length_unit?_lt hunit
    split at h
    · obtain ⟨⟨low, rest'⟩, hlow, hpair⟩ := Option.map_eq_some_iff.1 h
      obtain ⟨-, rfl⟩ := Prod.mk.inj hpair
      exact Nat.lt_trans (length_lowSurrogate?_lt hlow) hshorter
    · obtain ⟨d, -, hpair⟩ := Option.map_eq_some_iff.1 h
      obtain ⟨-, rfl⟩ := Prod.mk.inj hpair
      exact hshorter

theorem length_character?_lt {t rest : Text} {c : Char} (h : character? t = some (c, rest)) :
    rest.length < t.length := by
  unfold character? at h
  split at h
  · cases h
  · split at h <;> cases h
    simp
  · next first d t' =>
    split at h
    · split at h
      · have hshorter := length_coded?_lt h
        simp only [List.length_cons]
        omega
      · obtain ⟨e, -, hpair⟩ := Option.map_eq_some_iff.1 h
        obtain ⟨-, rfl⟩ := Prod.mk.inj hpair
        simp only [List.length_cons]
        omega
    · split at h <;> cases h
      simp

/-- A string from after its opening quote on. -/
def string? (t : Text) : Option (Text × Text) :=
  match t with
  | '"' :: rest => some ([], rest)
  | t =>
    match _h : character? t with
    | none => none
    | some (c, rest) => (string? rest).map fun (s, rest) => (c :: s, rest)
termination_by t.length
decreasing_by exact length_character?_lt _h

/-- A count. -/
def count? (t : Text) : Option (JsonValue × Text) :=
  let digits := t.takeWhile Char.isDigit
  if digits = [] ∨ digits.head? = some '0' ∧ digits ≠ ['0'] then none
  else some (.number (digitsValue digits), t.dropWhile Char.isDigit)

/-- A value that has a name. -/
def named? (t : Text) : Option (JsonValue × Text) :=
  match after? "null".toList t, after? "true".toList t, after? "false".toList t with
  | some rest, _, _ => some (.null, rest)
  | none, some rest, _ => some (.boolean true, rest)
  | none, none, some rest => some (.boolean false, rest)
  | none, none, none => none

/-- One or more parts with commas between them, up to the character that closes them. `fuel` bounds
    their number. -/
def several? {α : Type} (read : Text → Option (α × Text)) (close : Char) :
    (fuel : Nat) → Text → Option (List α × Text)
  | 0, _ => none
  | fuel + 1, t =>
    match read t with
    | none => none
    | some (part, t) =>
      match skipSpace t with
      | [] => none
      | c :: t =>
        if c = close then some ([part], t)
        else if c = ',' then
          (several? read close fuel (skipSpace t)).map fun (parts, rest) => (part :: parts, rest)
        else none

/-- Parts up to the character that closes them, which may come at once. -/
def enclosed? {α : Type} (read : Text → Option (α × Text)) (close : Char) (fuel : Nat) (t : Text) :
    Option (List α × Text) :=
  let t := skipSpace t
  if t.head? = some close then some ([], t.tail) else several? read close fuel t

/-- A key, a colon and a value. -/
def keyed? {α : Type} (read : Text → Option (α × Text)) (t : Text) : Option ((Text × α) × Text) :=
  match t with
  | '"' :: t =>
    match string? t with
    | none => none
    | some (key, t) =>
      match skipSpace t with
      | ':' :: t => (read (skipSpace t)).map fun (value, rest) => ((key, value), rest)
      | _ => none
  | _ => none

/-- The value at the front of a text, and what follows it. `fuel` bounds how deep values are nested,
    and the length of the text is enough of it. -/
def value? : (fuel : Nat) → Text → Option (JsonValue × Text)
  | 0, _ => none
  | fuel + 1, t =>
    match t with
    | '"' :: t => (string? t).map fun (s, rest) => (.string s, rest)
    | '[' :: t =>
      (enclosed? (value? fuel) ']' fuel t).map fun (items, rest) => (.array items, rest)
    | '\x7b' :: t =>
      (enclosed? (keyed? (value? fuel)) '\x7d' fuel t).map fun (fields, rest) => (.object fields, rest)
    | t => (count? t).or (named? t)

/-- The value of a JSON document. -/
def decode? (t : Text) : Option JsonValue :=
  match value? t.length (skipSpace t) with
  | some (v, rest) => if skipSpace rest = [] then some v else none
  | none => none

theorem skipSpace_append {space : Text} (h : AllSpace space) (t : Text) :
    skipSpace (space ++ t) = skipSpace t :=
  List.dropWhile_append_of_pos h

theorem skipSpace_cons {c : Char} (h : isSpace c = false) (t : Text) : skipSpace (c :: t) = c :: t := by
  rw [skipSpace, List.dropWhile_cons, h]
  rfl

theorem unit?_append {n : Nat} {digits : Text} (h : IsUnit n digits) (rest : Text) :
    unit? (digits ++ rest) = some (n, rest) := by
  obtain ⟨a, b, c, d, i, j, k, l, rfl, ha, hb, hc, hd, rfl⟩ := h
  simp [unit?, ha, hb, hc, hd]

theorem not_isHighSurrogate_toNat (c : Char) : isHighSurrogate c.toNat = false := by
  have hvalid : c.toNat.isValidChar := c.valid
  rw [isHighSurrogate, Bool.and_eq_false_iff, decide_eq_false_iff_not, decide_eq_false_iff_not]
  rcases hvalid with hlow | ⟨hhigh, -⟩ <;> omega

theorem charOfCode?_toNat (c : Char) : charOfCode? c.toNat = some c := by
  have hvalid : c.toNat.isValidChar := c.valid
  rw [charOfCode?, if_pos hvalid, Char.ofNat_toNat]

theorem coded?_unit {c : Char} {digits : Text} (h : IsUnit c.toNat digits) (rest : Text) :
    coded? (digits ++ rest) = some (c, rest) := by
  simp [coded?, unit?_append h, not_isHighSurrogate_toNat, charOfCode?_toNat]

theorem coded?_pair {c : Char} {high low : Nat} {digits more : Text} (hhigh : IsUnit high digits)
    (hlow : IsUnit low more) (hisHigh : isHighSurrogate high = true) (hisLow : isLowSurrogate low = true)
    (hcode : c.toNat = pairCode high low) (rest : Text) :
    coded? (digits ++ '\\' :: 'u' :: more ++ rest) = some (c, rest) := by
  have hsecond : lowSurrogate? ('\\' :: 'u' :: (more ++ rest)) = some (low, rest) := by
    rw [lowSurrogate?, unit?_append hlow, Option.filter_some, if_pos hisLow]
  rw [List.append_assoc, coded?, unit?_append hhigh]
  simp [hisHigh, hsecond, ← hcode]

theorem lookup_shortEscapes :
    ∀ escape ∈ shortEscapes, escape.1 ≠ 'u' ∧ shortEscapes.lookup escape.1 = some escape.2 := by
  decide

/-- A spelled character is read back, whatever follows it. -/
theorem character?_append {c : Char} {first : Text} (h : SpellsChar c first) (rest : Text) :
    character? (first ++ rest) = some (c, rest) := by
  cases h with
  | plain hplain =>
    have hc : c ≠ '\\' := by
      rintro rfl
      cases hplain
    cases rest with
    | nil => simp [character?, hplain]
    | cons d rest => simp [character?, hc, hplain]
  | short hmem =>
    next letter =>
    obtain ⟨hletter, hlookup⟩ := lookup_shortEscapes _ hmem
    simp [character?, hletter, hlookup]
  | unit hunit => simpa [character?] using coded?_unit hunit rest
  | pair hhigh hlow hisHigh hisLow hcode =>
    simpa [character?] using coded?_pair hhigh hlow hisHigh hisLow hcode rest

theorem string?_of_character? {t rest : Text} {c : Char} (h : character? t = some (c, rest)) :
    string? t = (string? rest).map fun (s, rest) => (c :: s, rest) := by
  have hopen : ∀ u, t ≠ '"' :: u := by
    -- The closing quote is no character.
    rintro (_ | ⟨d, u⟩) rfl <;> cases h
  rw [string?]
  · split <;> simp_all
  · exact hopen

theorem string?_append {s inside : Text} (h : SpellsChars s inside) (rest : Text) :
    string? (inside ++ '"' :: rest) = some (s, rest) := by
  induction s generalizing inside with
  | nil =>
    obtain rfl : inside = [] := h
    simp [string?]
  | cons c s ih =>
    obtain ⟨first, more, rfl, hfirst, hmore⟩ := h
    rw [List.append_assoc, string?_of_character? (character?_append hfirst _), ih hmore]
    rfl

/-- No digit follows, so a count may end here. -/
def NoDigitNext (rest : Text) : Prop :=
  ∀ c ∈ rest.head?, c.isDigit = false

theorem count?_append {n : Nat} {t rest : Text} (h : SpellsCount n t) (hrest : NoDigitNext rest) :
    count? (t ++ rest) = some (.number n, rest) := by
  obtain ⟨hne, hdigits, hzero, rfl⟩ := h
  obtain ⟨htake, hdrop⟩ := takeWhile_append_of_boundary hdigits hrest
  rw [count?, htake, hdrop, if_neg]
  rintro (hnil | ⟨hhead, hlong⟩)
  · exact hne hnil
  · exact hlong (hzero hhead)

end ApiGuide.JsonValue
