import ApiGuide.Proofs.Json.Grammar
import ApiGuide.Proofs.Text.Numbers
import Mathlib.Tactic.SplitIfs

/-!
The layout of a value spells the value.
-/

namespace ApiGuide.JsonValue

open Text Toml

theorem hexDigit?_hexDigit : ∀ d < 16, hexDigit? (hexDigit d) = some d := by
  decide

theorem isUnit_low {n : Nat} (h : n < 0x100) :
    IsUnit n ['0', '0', hexDigit (n / 16), hexDigit (n % 16)] := by
  refine ⟨_, _, _, _, 0, 0, n / 16, n % 16, rfl, rfl, rfl, ?_, ?_, by omega⟩
  · exact hexDigit?_hexDigit _ (by omega)
  · exact hexDigit?_hexDigit _ (by omega)

theorem spellsChar_escapeChar (c : Char) : SpellsChar c (escapeChar c) := by
  unfold escapeChar
  split_ifs with hquote hbackslash hb ht hn hf hr hcontrol
  · exact hquote ▸ .short (by decide)
  · exact hbackslash ▸ .short (by decide)
  · exact hb ▸ .short (by decide)
  · exact ht ▸ .short (by decide)
  · exact hn ▸ .short (by decide)
  · exact hf ▸ .short (by decide)
  · exact hr ▸ .short (by decide)
  · exact .unit (isUnit_low (by omega))
  · exact .plain (by simp [isPlain, hquote, hbackslash]; omega)

theorem spellsString_stringText (s : Text) : SpellsString s (stringText s) := by
  refine ⟨s.flatMap escapeChar, rfl, ?_⟩
  induction s with
  | nil => rfl
  | cons c s ih => exact ⟨escapeChar c, s.flatMap escapeChar, rfl, spellsChar_escapeChar c, ih⟩

theorem spellsCount_ofNat (n : Nat) : SpellsCount n (ofNat n) := by
  refine ⟨ofNat_ne_nil n, fun c hc => isDigit_of_mem_ofNat hc, ?_, digitsValue_ofNat n⟩
  intro hhead
  rw [eq_zero_of_head?_ofNat hhead]
  rfl

theorem allSpace_newline (depth : Nat) : AllSpace (newline depth) := by
  intro c hc
  rcases List.mem_cons.1 hc with rfl | hblank
  · rfl
  · rw [List.eq_of_mem_replicate hblank]
    rfl

theorem allSpace_nil : AllSpace [] := by
  simp [AllSpace]

/-- Parts with a comma and a line break before each but the first spell several parts, if each is
    spelled with any white space around it. -/
theorem several_separated {α : Type} {spelling : α → Text → Prop} {lay : α → Text} {part : α} {parts : List α}
    {depth : Nat} {left right : Text} (hleft : AllSpace left) (hright : AllSpace right)
    (hparts : ∀ p ∈ part :: parts, ∀ left right, AllSpace left → AllSpace right →
      spelling p (left ++ lay p ++ right)) :
    Several ((part :: parts).map spelling)
      (left ++ lay part ++ parts.flatMap (fun p => ',' :: newline depth ++ lay p) ++ right) := by
  induction parts generalizing part left with
  | nil => simpa [Several] using hparts part (by simp) left right hleft hright
  | cons next parts ih =>
    refine ⟨left ++ lay part,
      newline depth ++ lay next ++ parts.flatMap (fun p => ',' :: newline depth ++ lay p) ++ right, ?_, ?_, ?_⟩
    · simp
    · simpa using hparts part (by simp) left [] hleft allSpace_nil
    · exact ih (allSpace_newline depth) fun p hp => hparts p (List.mem_cons_of_mem _ hp)

theorem layoutItems_eq_flatMap (depth : Nat) (items : List JsonValue) :
    layoutItems depth items = items.flatMap fun item => ',' :: newline depth ++ layout depth item := by
  induction items with
  | nil => rw [layoutItems, List.flatMap_nil]
  | cons item items ih => rw [layoutItems, ih, List.flatMap_cons]

theorem layoutFields_eq_flatMap (depth : Nat) (fields : List (Text × JsonValue)) :
    layoutFields depth fields = fields.flatMap fun field => ',' :: newline depth ++ layoutField depth field := by
  induction fields with
  | nil => rw [layoutFields, List.flatMap_nil]
  | cons field fields ih => rw [layoutFields, ih, List.flatMap_cons]

theorem keyed_layoutField {depth : Nat} {field : Text × JsonValue} {left right : Text}
    (hleft : AllSpace left) (hright : AllSpace right) (hvalue : Spells field.2 (layout depth field.2)) :
    Keyed field.1 (Spells field.2) (left ++ layoutField depth field ++ right) := by
  obtain ⟨key, value⟩ := field
  refine ⟨left ++ stringText key, ' ' :: layout depth value ++ right, ?_, ?_, ?_⟩
  · simp [layoutField]
  · exact ⟨left, stringText key, [], by simp, hleft, allSpace_nil, spellsString_stringText key⟩
  · exact ⟨[' '], layout depth value, right, rfl, by simp [AllSpace, isSpace], hright, hvalue⟩

theorem spells_layout_array {items : List JsonValue}
    (hitems : ∀ item ∈ items, ∀ depth, Spells item (layout depth item)) (depth : Nat) :
    Spells (.array items) (layout depth (.array items)) := by
  rw [Spells, itemSpellings_eq_map]
  cases items with
  | nil => exact ⟨[], by rw [layout]; rfl, allSpace_nil⟩
  | cons item items =>
    rw [layout, layoutItems_eq_flatMap]
    refine ⟨newline (depth + 1) ++ layout (depth + 1) item
      ++ items.flatMap (fun i => ',' :: newline (depth + 1) ++ layout (depth + 1) i) ++ newline depth,
      by simp, ?_⟩
    apply several_separated (allSpace_newline _) (allSpace_newline _)
    intro i hi left right hleft hright
    exact ⟨left, layout (depth + 1) i, right, rfl, hleft, hright, hitems i hi _⟩

theorem spells_layout_object {fields : List (Text × JsonValue)}
    (hfields : ∀ field ∈ fields, ∀ depth, Spells field.2 (layout depth field.2)) (depth : Nat) :
    Spells (.object fields) (layout depth (.object fields)) := by
  rw [Spells, fieldSpellings_eq_map]
  cases fields with
  | nil => exact ⟨[], by rw [layout]; rfl, allSpace_nil⟩
  | cons field fields =>
    rw [layout, layoutFields_eq_flatMap]
    refine ⟨newline (depth + 1) ++ layoutField (depth + 1) field
      ++ fields.flatMap (fun f => ',' :: newline (depth + 1) ++ layoutField (depth + 1) f) ++ newline depth,
      by simp, ?_⟩
    apply several_separated (allSpace_newline _) (allSpace_newline _)
    intro f hf left right hleft hright
    exact keyed_layoutField hleft hright (hfields f hf _)

/-- The layout of a value at any depth spells the value. -/
theorem spells_layout (v : JsonValue) (depth : Nat) : Spells v (layout depth v) := by
  induction v using induction_parts generalizing depth with
  | null => rw [Spells, layout]
  | boolean b => cases b <;> simp [Spells, layout]
  | number n =>
    rw [Spells, layout]
    exact spellsCount_ofNat n
  | string s =>
    rw [Spells, layout]
    exact spellsString_stringText s
  | array items ih => exact spells_layout_array ih depth
  | object fields ih => exact spells_layout_object ih depth

/-- A value as a document of its own is one, also with a line break at its end. -/
theorem isDocument_toText (v : JsonValue) : IsDocument v (v.toText ++ ['\n']) :=
  ⟨[], v.toText, ['\n'], rfl, allSpace_nil, by simp [AllSpace, isSpace], spells_layout v 0⟩

end ApiGuide.JsonValue
