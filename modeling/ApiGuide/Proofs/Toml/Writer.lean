import ApiGuide.Proofs.Json.Decoder
import ApiGuide.Proofs.Json.Layout
import ApiGuide.Proofs.Text.Blanks
import ApiGuide.Toml.Document

/-!
A writer of TOML lines, and that each of its lines is read back.

A line is a bare key, an equals sign and a value. Inside a string every character may be written in any of
the ways that TOML has for it, so the writer takes the choice as a parameter.
-/

namespace ApiGuide.Toml

open Text

/-- What a backslash and a letter stand for. -/
def escapeLetters : List (Char × Char) :=
  [('b', '\x08'), ('t', '\t'), ('n', '\n'), ('f', '\x0c'), ('r', '\r'), ('"', '"'), ('\\', '\\')]

/-- The number that hexadecimal digits write after those of `value`. -/
def hexValueFrom? (value : Nat) : Text → Option Nat
  | [] => some value
  | d :: digits =>
    match hexDigit? d with
    | some n => hexValueFrom? (value * 16 + n) digits
    | none => none

/-- Four digits are enough for a code point of two. -/
theorem hexValueFrom?_low {n : Nat} (h : n < 0x100) :
    hexValueFrom? 0 ['0', '0', JsonValue.hexDigit (n / 16), JsonValue.hexDigit (n % 16)] = some n := by
  have hzero : hexDigit? '0' = some 0 := rfl
  have hvalue : n / 16 * 16 + n % 16 = n := by omega
  simp [hexValueFrom?, hzero, JsonValue.hexDigit?_hexDigit _ (by omega : n / 16 < 16),
    JsonValue.hexDigit?_hexDigit _ (by omega : n % 16 < 16), hvalue]

/-- The ways to write a character inside a basic string: as itself unless it is a control character, a
    quote or a backslash, with a letter, or with the four or eight digits of its code point. -/
inductive SpellsChar : Char → Text → Prop
  | plain {c : Char} : c = '\t' ∨ 0x20 ≤ c.toNat ∧ c.toNat ≠ 0x7f → c ≠ '"' → c ≠ '\\' →
      SpellsChar c [c]
  | short {letter c : Char} : (letter, c) ∈ escapeLetters → SpellsChar c ['\\', letter]
  | code {letter c : Char} {digits : Text} :
      letter = 'u' ∧ digits.length = 4 ∨ letter = 'U' ∧ digits.length = 8 →
      hexValueFrom? 0 digits = some c.toNat → SpellsChar c ('\\' :: letter :: digits)

/-- A way to write the characters of basic strings. -/
structure Escaping where
  spell : Char → Text
  spells : ∀ c, SpellsChar c (spell c)

namespace Escaping

/-- Letters where there is one, and four digits for the other control characters. -/
def standard : Escaping where
  spell c :=
    match escapeLetters.find? (·.2 = c) with
    | some (letter, _) => ['\\', letter]
    | none =>
      if isLineChar c then [c]
      else ['\\', 'u', '0', '0', JsonValue.hexDigit (c.toNat / 16), JsonValue.hexDigit (c.toNat % 16)]
  spells c := by
    split
    · next letter d hfind =>
      obtain rfl : d = c := by simpa using List.find?_some hfind
      exact .short (List.mem_of_find?_eq_some hfind)
    · next hfind =>
      have hother : ∀ pair ∈ escapeLetters, c ≠ pair.2 := by
        intro pair hpair hc
        exact List.find?_eq_none.1 hfind pair hpair (by simpa using hc.symm)
      split
      · next hline =>
        refine .plain (by simpa [isLineChar] using hline) (hother ('"', '"') (by decide)) ?_
        exact hother ('\\', '\\') (by decide)
      · next hline =>
        refine .code (.inl ⟨rfl, rfl⟩) (hexValueFrom?_low ?_)
        simp only [isLineChar, Bool.or_eq_true, beq_iff_eq, Bool.and_eq_true, decide_eq_true_eq, bne_iff_ne,
          not_or, not_and, Decidable.not_not] at hline
        omega

/-- A string with its quotes. -/
def quote (e : Escaping) (s : Text) : Text :=
  '"' :: s.flatMap e.spell ++ ['"']

/-- A value as it is written. -/
def valueText (e : Escaping) : Value → Text
  | .string s => e.quote s
  | .boolean b => (if b then "true" else "false").toList
  | .strings items => '[' :: joinWith ", ".toList (items.map e.quote) ++ [']']

end Escaping

/-- A key that needs no quotes. -/
structure IsBareKey (key : Text) : Prop where
  ne_nil : key ≠ []
  chars : ∀ c ∈ key, c.isAlphanum = true ∨ c = '_' ∨ c = '-'

theorem isBareKey_iff {key : Text} : key ≠ [] ∧ key.all isBareKeyChar = true ↔ IsBareKey key := by
  have hchars : key.all isBareKeyChar = true ↔ ∀ c ∈ key, c.isAlphanum = true ∨ c = '_' ∨ c = '-' := by
    simp [isBareKeyChar, or_assoc]
  rw [hchars]
  exact ⟨fun ⟨hne, hall⟩ => ⟨hne, hall⟩, fun h => ⟨h.ne_nil, h.chars⟩⟩

instance (key : Text) : Decidable (IsBareKey key) :=
  decidable_of_iff _ isBareKey_iff

/-- A key, an equals sign and the text of a value on a line of their own. -/
def line (key value : Text) : Text :=
  key ++ " = ".toList ++ (value ++ ['\n'])

theorem line_append (key value rest : Text) :
    line key value ++ rest = key ++ (" = ".toList ++ (value ++ '\n' :: rest)) := by
  simp [line]

theorem basic?_plain {c : Char} (hline : isLineChar c = true) (hquote : c ≠ '"') (hbackslash : c ≠ '\\')
    (t : Text) : basic? .plain (c :: t) = push c (basic? .plain t) := by
  simp [basic?, hline, hquote, hbackslash]

theorem basic?_close (t : Text) : basic? .plain ('"' :: t) = some ([], t) := by
  simp [basic?]

theorem basic?_backslash (t : Text) : basic? .plain ('\\' :: t) = basic? .escape t := by
  simp [basic?]

theorem basic?_letter {letter c : Char} (h : (letter, c) ∈ escapeLetters) (t : Text) :
    basic? .escape (letter :: t) = push c (basic? .plain t) := by
  have hshort : ∀ pair ∈ escapeLetters, shortEscape? pair.1 = some pair.2 := by decide
  have hletter : shortEscape? letter = some c := hshort (letter, c) h
  simp [basic?, hletter]

/-- The digits of a code point, after those that make `value`. -/
theorem basic?_digits {digits : Text} (hne : digits ≠ []) {c : Char} {value : Nat}
    (h : hexValueFrom? value digits = some c.toNat) (t : Text) :
    basic? (.code digits.length value) (digits ++ t) = push c (basic? .plain t) := by
  induction digits generalizing value with
  | nil => exact absurd rfl hne
  | cons d digits ih =>
    rw [hexValueFrom?] at h
    split at h
    · next n hd =>
      cases digits with
      | nil =>
        have hcode : value * 16 + n = c.toNat := Option.some.inj h
        simp [basic?, hd, hcode, JsonValue.charOfCode?_toNat]
      | cons d' digits =>
        have hrest := ih (by simp) h
        simpa [basic?, hd] using hrest
    · cases h

/-- A written character is read back, whatever follows it. -/
theorem basic?_spelled {c : Char} {first : Text} (h : SpellsChar c first) (t : Text) :
    basic? .plain (first ++ t) = push c (basic? .plain t) := by
  cases h with
  | plain hline hquote hbackslash =>
    have hchar : isLineChar c = true := by simpa [isLineChar] using hline
    exact basic?_plain hchar hquote hbackslash t
  | short hmem => exact (basic?_backslash _).trans (basic?_letter hmem t)
  | @code letter _ digits hletter hvalue =>
    have hne : digits ≠ [] := by
      rintro rfl
      rcases hletter with ⟨-, hlength⟩ | ⟨-, hlength⟩ <;> cases hlength
    have hopen : basic? .escape (letter :: (digits ++ t)) = basic? (.code digits.length 0) (digits ++ t) := by
      rcases hletter with ⟨rfl, hlength⟩ | ⟨rfl, hlength⟩ <;> rw [hlength] <;> rfl
    exact (basic?_backslash _).trans (hopen.trans (basic?_digits hne hvalue t))

theorem exists_cons_of_spelled {c : Char} {first : Text} (h : SpellsChar c first) :
    ∃ d more, first = d :: more ∧ d ≠ '"' := by
  cases h with
  | plain _ hquote _ => exact ⟨c, [], rfl, hquote⟩
  | short _ => exact ⟨'\\', _, rfl, by decide⟩
  | code _ _ => exact ⟨'\\', _, rfl, by decide⟩

theorem Escaping.basic?_flatMap_spell (e : Escaping) (s rest : Text) :
    basic? .plain (s.flatMap e.spell ++ '"' :: rest) = some (s, rest) := by
  induction s with
  | nil => exact basic?_close rest
  | cons c s ih =>
    rw [List.flatMap_cons, List.append_assoc, basic?_spelled (e.spells c), ih]
    rfl

theorem string?_of_basic? {inside : Text} (h : ∀ t, inside ≠ '"' :: '"' :: t) :
    string? ('"' :: inside) = basic? .plain inside := by
  rw [string?.eq_def]
  split
  · next t heq => exact absurd (List.cons.inj heq).2 (h t)
  · next t _ heq => rw [(List.cons.inj heq).2]
  · next heq => cases (List.cons.inj heq).1
  · next heq => cases (List.cons.inj heq).1
  · next hnone _ _ => exact absurd rfl (hnone inside)

/-- A string is read back, unless a quote follows it, which could open a string of several lines. -/
theorem Escaping.string?_quote (e : Escaping) (s : Text) {rest : Text} (h : rest.head? ≠ some '"') :
    string? (e.quote s ++ rest) = some (s, rest) := by
  have htext : e.quote s ++ rest = '"' :: (s.flatMap e.spell ++ '"' :: rest) := by
    simp [quote]
  rw [htext, string?_of_basic?]
  · exact e.basic?_flatMap_spell s rest
  · intro t heq
    cases s with
    | nil =>
      obtain rfl : rest = '"' :: t := by simpa using heq
      exact h rfl
    | cons c s =>
      obtain ⟨d, more, hspell, hd⟩ := exists_cons_of_spelled (e.spells c)
      rw [List.flatMap_cons, hspell] at heq
      exact hd (List.cons.inj heq).1

theorem skipTrivia_blank (t : Text) : skipTrivia false (' ' :: t) = skipTrivia false t := by
  simp [skipTrivia, atLineBreak, isBlank]

/-- The marks of a list are no trivia. -/
theorem skipTrivia_mark {c : Char} (h : c = '"' ∨ c = ',' ∨ c = ']') (t : Text) :
    skipTrivia false (c :: t) = c :: t := by
  rcases h with rfl | rfl | rfl <;> simp [skipTrivia, atLineBreak, isBlank]

theorem listItems?_close {t rest : Text} (h : skipTrivia false t = ']' :: rest) :
    listItems? t = some ([], rest) := by
  rw [listItems?, h]
  rfl

theorem listItems?_last {t u s after rest : Text} (h : skipTrivia false t = '"' :: u)
    (hstring : string? ('"' :: u) = some (s, after)) (hafter : skipTrivia false after = ']' :: rest) :
    listItems? t = some ([s], rest) := by
  rw [listItems?, h]
  simp [hstring, hafter]

theorem listItems?_comma {t u s after rest : Text} (h : skipTrivia false t = '"' :: u)
    (hstring : string? ('"' :: u) = some (s, after)) (hafter : skipTrivia false after = ',' :: rest)
    (hlength : rest.length < t.length) :
    listItems? t = (listItems? rest).map fun (more, rest) => (s :: more, rest) := by
  rw [listItems?, h]
  simp [hstring, hafter, hlength]

/-- The strings of a list are read back up to its closing bracket, with or without trivia before them. -/
theorem Escaping.listItems?_items (e : Escaping) (items : List Text) (rest : Text) {t : Text}
    (hskip : skipTrivia false t = skipTrivia false (joinWith ", ".toList (items.map e.quote) ++ ']' :: rest))
    (hlength : (joinWith ", ".toList (items.map e.quote) ++ ']' :: rest).length ≤ t.length) :
    listItems? t = some (items, rest) := by
  induction items generalizing t with
  | nil => exact listItems?_close (hskip.trans (skipTrivia_mark (by decide) rest))
  | cons s items ih =>
    cases items with
    | nil =>
      have hstring := e.string?_quote s (by simp : (']' :: rest).head? ≠ some '"')
      have htext : joinWith ", ".toList ([s].map e.quote) = e.quote s := by simp [joinWith]
      rw [htext] at hskip
      exact listItems?_last (hskip.trans (skipTrivia_mark (by decide) _)) hstring
        (skipTrivia_mark (by decide) rest)
    | cons next items =>
      have htext : joinWith ", ".toList ((s :: next :: items).map e.quote) ++ ']' :: rest =
          e.quote s ++ ',' :: ' ' :: (joinWith ", ".toList ((next :: items).map e.quote) ++ ']' :: rest) := by
        simp [joinWith]
      rw [htext] at hskip hlength
      have hstring := e.string?_quote s (by simp : (',' :: ' ' ::
        (joinWith ", ".toList ((next :: items).map e.quote) ++ ']' :: rest)).head? ≠ some '"')
      rw [listItems?_comma (hskip.trans (skipTrivia_mark (by decide) _)) hstring
        (skipTrivia_mark (by decide) _), ih (skipTrivia_blank _) (by simp)]
      · rfl
      · simp only [List.length_append, List.length_cons] at hlength ⊢
        omega

/-- A written value is read back, whatever follows it but a quote. -/
theorem Escaping.value?_valueText (e : Escaping) (v : Value) {rest : Text} (h : rest.head? ≠ some '"') :
    value? (e.valueText v ++ rest) = some (v, rest) := by
  cases v with
  | string s =>
    have hstring := e.string?_quote s h
    have htrue : after? "true".toList (e.quote s ++ rest) = none := rfl
    have hfalse : after? "false".toList (e.quote s ++ rest) = none := rfl
    rw [valueText, value?.eq_def]
    split
    · next heq => cases (List.cons.inj heq).1
    · rw [htrue, hfalse, hstring]
      rfl
  | boolean b => cases b <;> rfl
  | strings items =>
    have htext : e.valueText (.strings items) ++ rest =
        '[' :: (joinWith ", ".toList (items.map e.quote) ++ ']' :: rest) := by
      simp [valueText]
    rw [htext, value?, e.listItems?_items items rest rfl (Nat.le_refl _)]
    rfl

theorem Escaping.skipBlanks_valueText (e : Escaping) (v : Value) (rest : Text) :
    skipBlanks (e.valueText v ++ rest) = e.valueText v ++ rest := by
  cases v with
  | string s => rfl
  | boolean b => cases b <;> rfl
  | strings items => rfl

namespace IsBareKey

variable {key : Text} (h : IsBareKey key)
include h

theorem isBareKeyChar_of_mem : ∀ c ∈ key, isBareKeyChar c = true :=
  List.all_eq_true.1 (isBareKey_iff.2 h).2

/-- A bare key starts with none of the characters that have a meaning of their own at the start of a line. -/
theorem exists_cons : ∃ c more, key = c :: more ∧ ∀ d, isBareKeyChar d = false → c ≠ d := by
  obtain ⟨c, more, rfl⟩ := List.exists_cons_of_ne_nil h.ne_nil
  refine ⟨c, more, rfl, ?_⟩
  rintro d hd rfl
  have hbare := h.isBareKeyChar_of_mem c List.mem_cons_self
  rw [hd] at hbare
  cases hbare

theorem skipBlanks_append (t : Text) : skipBlanks (key ++ t) = key ++ t := by
  obtain ⟨c, more, rfl, hc⟩ := h.exists_cons
  have hblank : isBlank c = false := by simp [isBlank, hc ' ' rfl, hc '\t' rfl]
  simp [skipBlanks, hblank]

/-- A bare key is read up to the first character that is none of a bare key. -/
theorem key?_append {rest : Text} (hrest : ∀ c ∈ rest.head?, isBareKeyChar c = false) :
    key? (key ++ rest) = some (key, rest) := by
  obtain ⟨htake, hdrop⟩ := takeWhile_append_of_boundary h.isBareKeyChar_of_mem hrest
  obtain ⟨c, more, hkey, hc⟩ := h.exists_cons
  have hname : key? (key ++ rest) = if (key ++ rest).takeWhile isBareKeyChar = [] then none
      else some ((key ++ rest).takeWhile isBareKeyChar, (key ++ rest).dropWhile isBareKeyChar) := by
    rw [hkey, key?.eq_def]
    split
    · next heq => exact absurd (List.cons.inj heq).1 (hc '"' rfl)
    · next heq => exact absurd (List.cons.inj heq).1 (hc '\'' rfl)
    · rfl
  rw [hname, htake, hdrop, if_neg h.ne_nil]

theorem lineEnd?_append (t : Text) : lineEnd? (key ++ t) = none := by
  obtain ⟨c, more, hkey, hc⟩ := h.exists_cons
  have hhead : (key ++ t).head? ≠ some '#' := by simpa [hkey] using hc '#' rfl
  have hbreak : atLineBreak (key ++ t) = false := by
    rw [hkey, List.cons_append, atLineBreak.eq_def]
    split
    · next heq => exact absurd (List.cons.inj heq).1 (hc '\n' rfl)
    · next heq => exact absurd (List.cons.inj heq).1 (hc '\r' rfl)
    · rfl
  simp only [lineEnd?, h.skipBlanks_append, if_neg hhead]
  simp [h.ne_nil, hbreak]

/-- A byte order mark is no character of a bare key. -/
theorem document?_append (t : Text) : document? (key ++ t) = entries? (key ++ t) := by
  obtain ⟨c, more, rfl, hc⟩ := h.exists_cons
  rw [List.cons_append, document?.eq_def]
  split
  · next heq => exact absurd (List.cons.inj heq).1 (hc '\ufeff' rfl)
  · rfl

theorem key?_equals (t : Text) : key? (key ++ (" = ".toList ++ t)) = some (key, " = ".toList ++ t) :=
  h.key?_append (by simp; decide)

theorem entry?_of_value? {t after rest : Text} {v : Value} (hvalue : value? (skipBlanks t) = some (v, after))
    (hend : lineEnd? after = some rest) : entry? (key ++ (" = ".toList ++ t)) = some ((key, v), rest) := by
  have hequals : skipBlanks (" = ".toList ++ t) = '=' :: ' ' :: t := rfl
  have hblank : skipBlanks (' ' :: t) = skipBlanks t := rfl
  simp only [ entry?, h.skipBlanks_append, h.key?_equals, hequals, hblank, hvalue, hend, Option.map_some]

theorem key_of_entry? {t rest : Text} {entry : Text × Value}
    (hread : entry? (key ++ (" = ".toList ++ t)) = some (entry, rest)) : entry.1 = key := by
  rw [ entry?, h.skipBlanks_append, h.key?_equals] at hread
  simp only at hread
  split at hread
  · split at hread
    · cases hread
    · obtain ⟨_, -, heq⟩ := Option.map_eq_some_iff.1 hread
      exact congrArg (·.1.1) heq.symm
  · cases hread

theorem entries?_of_entry? {t rest : Text} {entry : Text × Value} (hentry : entry? (key ++ t) = some (entry, rest)) :
    entries? (key ++ t) = if rest.length < (key ++ t).length then (entries? rest).map (entry :: ·) else none := by
  have hne : key ++ t ≠ [] := by simp [h.ne_nil]
  rw [entries?.eq_def, if_neg hne]
  simp [h.lineEnd?_append, hentry]

theorem entries?_eq_none_of_entry? {t : Text} (hentry : entry? (key ++ t) = none) : entries? (key ++ t) = none := by
  have hne : key ++ t ≠ [] := by simp [h.ne_nil]
  rw [entries?.eq_def, if_neg hne]
  simp [h.lineEnd?_append, hentry]

/-- Whatever text follows a key and its equals sign, a document that starts so is read with that key first,
    if it is read at all. -/
theorem exists_entry_of_entries? {t : Text} {entries : List (Text × Value)}
    (hread : entries? (key ++ (" = ".toList ++ t)) = some entries) :
    ∃ v more, entries = (key, v) :: more := by
  -- The value may take in lines below it, as a list or a string of several lines does; the key is read before.
  cases hentry : entry? (key ++ (" = ".toList ++ t)) with
  | none =>
    rw [h.entries?_eq_none_of_entry? hentry] at hread
    cases hread
  | some found =>
    obtain ⟨⟨first, v⟩, rest⟩ := found
    obtain rfl : first = key := h.key_of_entry? hentry
    rw [h.entries?_of_entry? hentry, Option.ite_none_right_eq_some] at hread
    obtain ⟨more, -, hentries⟩ := Option.map_eq_some_iff.1 hread.2
    exact ⟨v, more, hentries.symm⟩

/-- A written line is read back in front of what the lines below it hold. -/
theorem entries?_line (e : Escaping) (v : Value) (rest : Text) :
    entries? (line key (e.valueText v) ++ rest) = (entries? rest).map ((key, v) :: ·) := by
  have hvalue : value? (skipBlanks (e.valueText v ++ '\n' :: rest)) = some (v, '\n' :: rest) := by
    rw [e.skipBlanks_valueText]
    exact e.value?_valueText v (by simp)
  have hend : lineEnd? ('\n' :: rest) = some rest := rfl
  have hlength : rest.length < (key ++ (" = ".toList ++ (e.valueText v ++ '\n' :: rest))).length := by
    simp only [List.length_append, List.length_cons]
    omega
  rw [line_append, h.entries?_of_entry? (h.entry?_of_value? hvalue hend), if_pos hlength]

end IsBareKey

end ApiGuide.Toml
