import ApiGuide.Proofs.Json.Decoder

/-!
The decoder reads every document of a value as that value.
-/

namespace ApiGuide.JsonValue

open Text

/-- Every spelling of the value is read as the value, if there is fuel for its length and no digit
    follows it. -/
def ReadsBack (v : JsonValue) : Prop :=
  ∀ ⦃fuel : Nat⦄ ⦃t rest : Text⦄, Spells v t → t.length ≤ fuel → NoDigitNext rest →
    value? fuel (t ++ rest) = some (v, rest)

/-- The text goes on with neither a digit nor white space, so a value with white space around it ends
    here. -/
def Stops (rest : Text) : Prop :=
  NoDigitNext rest ∧ skipSpace rest = rest

theorem stops_cons {c : Char} (hdigit : c.isDigit = false) (hspace : isSpace c = false) (rest : Text) :
    Stops (c :: rest) := by
  refine ⟨?_, skipSpace_cons hspace rest⟩
  intro d hd
  obtain rfl : c = d := by simpa using hd
  exact hdigit

theorem isDigit_of_isSpace {c : Char} (h : isSpace c = true) : c.isDigit = false := by
  simp only [isSpace, Bool.or_eq_true, beq_iff_eq] at h
  rcases h with ((rfl | rfl) | rfl) | rfl <;> rfl

theorem noDigitNext_space_append {space rest : Text} (hspace : AllSpace space) (hrest : NoDigitNext rest) :
    NoDigitNext (space ++ rest) := by
  cases space with
  | nil => exact hrest
  | cons c space =>
    intro d hd
    obtain rfl : c = d := by simpa using hd
    exact isDigit_of_isSpace (hspace c (by simp))

theorem digit_not_space {c : Char} (h : c.isDigit = true) : isSpace c = false := by
  cases hspace : isSpace c with
  | false => rfl
  | true =>
    rw [isDigit_of_isSpace hspace] at h
    cases h

/-- A spelling starts with a character that is no white space. -/
theorem Spells.skipSpace_eq {v : JsonValue} {t : Text} (h : Spells v t) (rest : Text) :
    skipSpace (t ++ rest) = t ++ rest := by
  cases v with
  | null =>
    obtain rfl : t = "null".toList := by simpa only [Spells] using h
    rfl
  | boolean b =>
    obtain rfl : t = (if b then "true" else "false").toList := by simpa only [Spells] using h
    cases b <;> rfl
  | number n =>
    obtain ⟨hne, hdigits, -⟩ : SpellsCount n t := by simpa only [Spells] using h
    cases t with
    | nil => exact absurd rfl hne
    | cons c t => exact skipSpace_cons (digit_not_space (hdigits c (by simp))) _
  | string s =>
    obtain ⟨inside, rfl, -⟩ : SpellsString s t := by simpa only [Spells] using h
    rfl
  | array items =>
    rw [Spells] at h
    obtain ⟨inside, rfl, -⟩ := h
    rfl
  | object fields =>
    rw [Spells] at h
    obtain ⟨inside, rfl, -⟩ := h
    rfl

/-- Spellings up to a length are read as `a`, with white space in front, up to where the text stops. -/
def ReadsUpTo {α : Type} (read : Text → Option (α × Text)) (limit : Nat) (P : Text → Prop) (a : α) : Prop :=
  ∀ ⦃t rest : Text⦄, P t → t.length ≤ limit → Stops rest →
    ∃ after, read (skipSpace (t ++ rest)) = some (a, after) ∧ skipSpace after = rest

theorem ReadsBack.padded {v : JsonValue} (hv : ReadsBack v) (fuel : Nat) :
    ReadsUpTo (value? fuel) fuel (Padded (Spells v)) v := by
  rintro t rest ⟨left, body, right, rfl, hleft, hright, hbody⟩ hfuel hrest
  simp only [List.length_append] at hfuel
  refine ⟨right ++ rest, ?_, ?_⟩
  · rw [List.append_assoc, List.append_assoc, skipSpace_append hleft, hbody.skipSpace_eq]
    exact hv hbody (by omega) (noDigitNext_space_append hright hrest.1)
  · rw [skipSpace_append hright, hrest.2]

theorem ReadsBack.keyed {v : JsonValue} (hv : ReadsBack v) (fuel : Nat) (key : Text) :
    ReadsUpTo (keyed? (value? fuel)) fuel (Keyed key (Spells v)) (key, v) := by
  rintro t rest ⟨before, valueText, rfl, hkey, hvalue⟩ hfuel hrest
  obtain ⟨left, keyText, right, rfl, hleft, hright, inside, rfl, hinside⟩ := hkey
  simp only [List.length_append, List.length_cons] at hfuel
  have hlength : valueText.length ≤ fuel := by omega
  obtain ⟨after, hread, hafter⟩ := hv.padded fuel hvalue hlength hrest
  refine ⟨after, ?_, hafter⟩
  have hopen : skipSpace (left ++ ('"' :: inside ++ ['"']) ++ right ++ ':' :: valueText ++ rest) =
      '"' :: (inside ++ '"' :: (right ++ ':' :: (valueText ++ rest))) := by
    simp only [List.append_assoc, List.cons_append, List.nil_append]
    rw [skipSpace_append hleft]
    exact skipSpace_cons rfl _
  have hcolon : skipSpace (right ++ ':' :: (valueText ++ rest)) = ':' :: (valueText ++ rest) := by
    rw [skipSpace_append hright]
    exact skipSpace_cons rfl _
  rw [hopen]
  simp only [keyed?, string?_append hinside, hcolon, hread, Option.map_some]

/-- A character that can close a list of parts. -/
structure Closes (close : Char) : Prop where
  notDigit : close.isDigit = false
  notSpace : isSpace close = false
  notComma : close ≠ ','

theorem closes_bracket : Closes ']' :=
  ⟨rfl, rfl, by decide⟩

theorem closes_brace : Closes '\x7d' :=
  ⟨rfl, rfl, by decide⟩

section Parts

variable {α : Type} {read : Text → Option (α × Text)} {limit fuel : Nat} {spelling : α → Text → Prop}
  {parts : List α} {close : Char} {inside : Text}

/-- Parts are read up to the character that closes them. -/
theorem several?_close (hparts : ∀ part ∈ parts, ReadsUpTo read limit (spelling part) part)
    (hclose : Closes close) (hne : parts ≠ []) (h : Several (parts.map spelling) inside)
    (hlimit : inside.length ≤ limit) (hfuel : inside.length < fuel) (rest : Text) :
    several? read close fuel (skipSpace (inside ++ close :: rest)) = some (parts, rest) := by
  induction parts generalizing fuel inside with
  | nil => exact absurd rfl hne
  | cons part parts ih =>
    have hpart := hparts part (by simp)
    obtain ⟨fuel, rfl⟩ : ∃ n, fuel = n + 1 := ⟨fuel - 1, by omega⟩
    cases parts with
    | nil =>
      obtain ⟨after, hread, hafter⟩ := hpart h hlimit (stops_cons hclose.notDigit hclose.notSpace rest)
      simp only [several?, hread, hafter, if_true]
    | cons next parts =>
      obtain ⟨first, more, rfl, hfirst, hmore⟩ := h
      simp only [List.length_append, List.length_cons] at hfuel hlimit
      obtain ⟨after, hread, hafter⟩ := hpart hfirst (by omega)
        (stops_cons (c := ',') rfl rfl (more ++ close :: rest))
      have hnext := ih (fun p hp => hparts p (by simp [hp])) (by simp) hmore (by omega)
        (by omega : more.length < fuel)
      rw [List.append_assoc, List.cons_append]
      simp only [several?, hread, hafter, hclose.notComma.symm, hnext, if_false, if_true, Option.map_some]

/-- Parts that are enclosed are read, also when there is none. -/
theorem enclosed?_close (hparts : ∀ part ∈ parts, ReadsUpTo read limit (spelling part) part)
    (hclose : Closes close) (hrefused : ∀ t, read (close :: t) = none)
    (h : Several (parts.map spelling) inside)
    (hlimit : inside.length ≤ limit) (hfuel : inside.length < fuel) (rest : Text) :
    enclosed? read close fuel (inside ++ close :: rest) = some (parts, rest) := by
  cases parts with
  | nil =>
    simp only [enclosed?, skipSpace_append h, skipSpace_cons hclose.notSpace, List.head?_cons,
      List.tail_cons, if_true]
  | cons part parts =>
    have hread := several?_close hparts hclose (by simp) h hlimit hfuel rest
    obtain ⟨fuel, rfl⟩ : ∃ n, fuel = n + 1 := ⟨fuel - 1, by omega⟩
    -- A part that was read does not start with the closing character.
    have hopen : (skipSpace (inside ++ close :: rest)).head? ≠ some close := by
      intro hhead
      obtain ⟨t, ht⟩ := List.head?_eq_some_iff.1 hhead
      rw [ht, several?, hrefused] at hread
      cases hread
    simpa only [enclosed?, hopen, if_false] using hread

end Parts

theorem value?_bracket (fuel : Nat) (rest : Text) : value? fuel (']' :: rest) = none := by
  cases fuel <;> rfl

theorem readsBack_array {items : List JsonValue} (hitems : ∀ item ∈ items, ReadsBack item) :
    ReadsBack (.array items) := by
  intro fuel t rest h hfuel _
  rw [Spells, itemSpellings_eq_map] at h
  obtain ⟨inside, rfl, hinside⟩ := h
  simp only [List.length_append, List.length_cons, List.length_nil] at hfuel
  obtain ⟨fuel, rfl⟩ : ∃ n, fuel = n + 1 := ⟨fuel - 1, by omega⟩
  have hread := enclosed?_close (fun item hitem => (hitems item hitem).padded fuel) closes_bracket
    (value?_bracket fuel) hinside (by omega) (by omega : inside.length < fuel) rest
  simp only [List.append_assoc, List.cons_append, List.nil_append, value?, hread, Option.map_some]

theorem readsBack_object {fields : List (Text × JsonValue)} (hfields : ∀ field ∈ fields, ReadsBack field.2) :
    ReadsBack (.object fields) := by
  intro fuel t rest h hfuel _
  rw [Spells, fieldSpellings_eq_map] at h
  obtain ⟨inside, rfl, hinside⟩ := h
  simp only [List.length_append, List.length_cons, List.length_nil] at hfuel
  obtain ⟨fuel, rfl⟩ : ∃ n, fuel = n + 1 := ⟨fuel - 1, by omega⟩
  have hread := enclosed?_close (fun field hfield => (hfields field hfield).keyed fuel field.1) closes_brace
    (fun _ => rfl) hinside (by omega) (by omega : inside.length < fuel) rest
  simp only [List.append_assoc, List.cons_append, List.nil_append, value?, hread, Option.map_some]

theorem readsBack_number (n : Nat) : ReadsBack (.number n) := by
  intro fuel t rest h hfuel hrest
  rw [Spells] at h
  have hread := count?_append h hrest
  obtain ⟨hne, hdigits, -⟩ := h
  cases t with
  | nil => exact absurd rfl hne
  | cons c t =>
    obtain ⟨fuel, rfl⟩ : ∃ n, fuel = n + 1 := ⟨fuel - 1, by simp at hfuel; omega⟩
    have hc := hdigits c (by simp)
    rw [List.cons_append] at hread ⊢
    rw [value?, hread, Option.some_or]
    all_goals
      rintro u hu
      obtain ⟨rfl, -⟩ := List.cons.inj hu
      cases hc

/-- Every spelling of every value is read back. -/
theorem readsBack (v : JsonValue) : ReadsBack v := by
  induction v using induction_parts with
  | null =>
    intro fuel t rest h hfuel hrest
    rw [Spells] at h
    subst h
    obtain ⟨fuel, rfl⟩ : ∃ n, fuel = n + 1 := ⟨fuel - 1, by simp at hfuel; omega⟩
    rfl
  | boolean b =>
    intro fuel t rest h hfuel hrest
    rw [Spells] at h
    subst h
    obtain ⟨fuel, rfl⟩ : ∃ n, fuel = n + 1 := ⟨fuel - 1, by cases b <;> simp at hfuel <;> omega⟩
    cases b <;> rfl
  | number n => exact readsBack_number n
  | string s =>
    intro fuel t rest h hfuel hrest
    rw [Spells] at h
    obtain ⟨inside, rfl, hinside⟩ := h
    obtain ⟨fuel, rfl⟩ : ∃ n, fuel = n + 1 := ⟨fuel - 1, by simp at hfuel; omega⟩
    simp only [List.append_assoc, List.cons_append, List.nil_append, value?, string?_append hinside,
      Option.map_some]
  | array items ih => exact readsBack_array ih
  | object fields ih => exact readsBack_object ih

/-- The decoder reads a document of a value as that value. -/
theorem decode?_of_isDocument {v : JsonValue} {t : Text} (h : IsDocument v t) : decode? t = some v := by
  have hend : Stops [] := ⟨by simp [NoDigitNext], rfl⟩
  obtain ⟨after, hread, hafter⟩ := (readsBack v).padded t.length h (Nat.le_refl _) hend
  rw [List.append_nil] at hread
  simp only [decode?, hread, hafter, if_true]

/-- No text is a document of two values. -/
theorem IsDocument.unique {v w : JsonValue} {t : Text} (hv : IsDocument v t) (hw : IsDocument w t) : v = w :=
  Option.some.inj ((decode?_of_isDocument hv).symm.trans (decode?_of_isDocument hw))

end ApiGuide.JsonValue
