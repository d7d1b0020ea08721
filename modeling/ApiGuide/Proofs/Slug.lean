import ApiGuide.Feature
import ApiGuide.Proofs.Text.Blanks
import Mathlib

/-!
The language of slugs, and making a slug as a retraction onto it.

Lower case comes first, and beyond ASCII it may give other letters, and more of them, than went in.
What counts for a slug is only that no capital is left: then each character is one of a slug or
becomes a hyphen. Runs of hyphens are collapsed before the ends are trimmed, and trimming cannot
bring two hyphens together.
-/

namespace ApiGuide

namespace Text

theorem isUpper_iff {c : Char} : c.isUpper = true ↔ 'A'.toNat ≤ c.toNat ∧ c.toNat ≤ 'Z'.toNat := by
  rw [Char.isUpper, decide_eq_true_iff]
  rfl

theorem isUpper_eq_false_of_lt {c : Char} (h : 'Z'.toNat < c.toNat) : c.isUpper = false := by
  rw [← Bool.not_eq_true, isUpper_iff]
  omega

/-- The lower case letters of the table lie beyond the capitals of ASCII, also the few that are ASCII
    letters themselves. -/
theorem lt_of_mem_lowercaseRuns : ∀ run ∈ lowercaseRuns, 'Z'.toNat < run.lower := by
  decide +kernel

theorem isUpper_of_mem_lowerChar {c d : Char} (h : d ∈ lowerChar c) : d.isUpper = false := by
  rw [lowerChar] at h
  split at h
  · obtain rfl := List.mem_singleton.1 h
    exact Char.isUpper_toLower_eq_false c
  · next hascii =>
    split at h
    · simp only [List.mem_cons, List.not_mem_nil, or_false] at h
      rcases h with rfl | rfl <;> decide
    · split at h
      · next code hcode =>
        obtain rfl := List.mem_singleton.1 h
        obtain ⟨run, hrun, hlower⟩ := List.exists_of_findSome?_eq_some hcode
        have hlt := lt_of_mem_lowercaseRuns run hrun
        rw [LowercaseRun.lower?] at hlower
        split at hlower
        · cases hlower
          rw [← Bool.not_eq_true, isUpper_iff, Char.toNat_ofNat (_ + _)]
          have ha : 0 < 'A'.toNat := by decide
          split <;> omega
        · cases hlower
      · obtain rfl := List.mem_singleton.1 h
        apply isUpper_eq_false_of_lt
        have hz : 'Z'.toNat < 0x80 := by decide
        omega

/-- No ASCII capital is left in lower case. -/
theorem isUpper_of_mem_lower {t : Text} {d : Char} (h : d ∈ lower t) : d.isUpper = false := by
  suffices hafter : ∀ before, d ∈ lowerAfter before t → d.isUpper = false from hafter [] h
  clear h
  induction t with
  | nil => simp [lowerAfter]
  | cons c t ih =>
    intro before h
    rw [lowerAfter, List.mem_append] at h
    rcases h with hlowered | hrest
    · split at hlowered
      · obtain rfl := List.mem_singleton.1 hlowered
        split <;> decide
      · exact isUpper_of_mem_lowerChar hlowered
    · exact ih (c :: before) hrest

theorem lower_eq_self {t : Text} (h : ∀ c ∈ t, c.toNat < 0x80 ∧ c.isUpper = false) : lower t = t := by
  suffices hafter : ∀ before, lowerAfter before t = t from hafter []
  induction t with
  | nil => simp [lowerAfter]
  | cons c t ih =>
    intro before
    obtain ⟨⟨hascii, hupper⟩, hrest⟩ := List.forall_mem_cons.1 h
    have hsigma : c ≠ 'Σ' := by
      rintro rfl
      revert hascii
      decide
    have hlower : c.toLower = c := Char.toLower_eq_of_not_isUpper (by simp [hupper])
    rw [lowerAfter, if_neg hsigma, lowerChar, if_pos hascii, hlower, ih hrest]
    rfl

end Text

namespace Slug

open Text

/-- A character of a slug: a lower case ASCII letter, a digit, a dot, an underscore or a hyphen. -/
def isSlugChar (c : Char) : Bool :=
  c.isLower || c.isDigit || c == '.' || c == '_' || c == '-'

/-- A slug holds characters of slugs only, no hyphen follows another, and none stands on either
    end. The empty text is a slug. -/
structure IsSlug (t : Text) : Prop where
  chars : ∀ c ∈ t, isSlugChar c = true
  single_hyphens : t.IsChain fun c d => ¬(c = '-' ∧ d = '-')
  first : t.head? ≠ some '-'
  last : t.getLast? ≠ some '-'

theorem isSlugChar_slugChar {c : Char} (h : c.isUpper = false) : isSlugChar (slugChar c) = true := by
  rw [slugChar]
  split
  · next hkept =>
    simp only [isKept, Char.isAlphanum, Char.isAlpha, h, Bool.false_or, Bool.or_eq_true] at hkept
    simp only [isSlugChar, Bool.or_eq_true]
    tauto
  · rfl

theorem slugChar_eq_self {c : Char} (h : isSlugChar c = true) : slugChar c = c := by
  rw [slugChar, if_pos]
  simp only [isSlugChar, Bool.or_eq_true] at h
  simp only [isKept, Char.isAlphanum, Char.isAlpha, Bool.or_eq_true]
  tauto

/-- Lower case leaves the characters of slugs alone. -/
theorem ascii_of_isSlugChar {c : Char} (h : isSlugChar c = true) : c.toNat < 0x80 ∧ c.isUpper = false := by
  simp only [isSlugChar, Bool.or_eq_true, beq_iff_eq] at h
  obtain (((hlower | hdigit) | rfl) | rfl) | rfl := h
  · simp only [Char.isLower, Bool.and_eq_true, decide_eq_true_eq, UInt32.le_iff_toNat_le] at hlower
    have hlow : 'Z'.toNat < c.toNat := Nat.lt_of_lt_of_le (by decide) hlower.1
    exact ⟨Nat.lt_of_le_of_lt hlower.2 (by decide), isUpper_eq_false_of_lt hlow⟩
  · simp only [Char.isDigit, Bool.and_eq_true, decide_eq_true_eq, UInt32.le_iff_toNat_le] at hdigit
    have hhigh : c.toNat < 'A'.toNat := Nat.lt_of_le_of_lt hdigit.2 (by decide)
    refine ⟨Nat.lt_of_le_of_lt hdigit.2 (by decide), ?_⟩
    rw [← Bool.not_eq_true, isUpper_iff]
    omega
  all_goals decide

theorem collapse_sublist (t : Text) : (collapse t).Sublist t := by
  fun_induction collapse t with
  | case1 => exact .slnil
  | case2 c t _ ih => exact ih.cons c
  | case3 c t _ ih => exact ih.cons_cons c

theorem head?_collapse (t : Text) : (collapse t).head? = t.head? := by
  fun_induction collapse t with
  | case1 => rfl
  | case2 c t hrun ih =>
    rw [ih, hrun.2, hrun.1]
    rfl
  | case3 c t _ _ => rfl

theorem isChain_collapse (t : Text) : (collapse t).IsChain fun c d => ¬(c = '-' ∧ d = '-') := by
  fun_induction collapse t with
  | case1 => exact .nil
  | case2 c t _ ih => exact ih
  | case3 c t hrun ih =>
    refine List.isChain_cons.2 ⟨?_, ih⟩
    rintro d hd ⟨hc, rfl⟩
    rw [head?_collapse] at hd
    exact hrun ⟨hc, hd⟩

theorem collapse_eq_self {t : Text} (h : t.IsChain fun c d => ¬(c = '-' ∧ d = '-')) : collapse t = t := by
  fun_induction collapse t with
  | case1 => rfl
  | case2 c t hrun _ => exact absurd ⟨hrun.1, rfl⟩ ((List.isChain_cons.1 h).1 '-' hrun.2)
  | case3 c t _ ih => rw [ih (List.isChain_cons.1 h).2]

theorem trimHyphens_sublist (t : Text) : (trimHyphens t).Sublist t :=
  (dropEndWhile_sublist _ _).trans (List.dropWhile_sublist _)

theorem isChain_trimHyphens {t : Text} (h : t.IsChain fun c d => ¬(c = '-' ∧ d = '-')) :
    (trimHyphens t).IsChain fun c d => ¬(c = '-' ∧ d = '-') := by
  have hstart := h.suffix (List.dropWhile_suffix (· == '-'))
  rw [← dropEndWhile_append_end (· == '-') (t.dropWhile (· == '-'))] at hstart
  exact (List.isChain_append.1 hstart).1

theorem head?_trimHyphens (t : Text) : (trimHyphens t).head? ≠ some '-' := by
  intro h
  have hnot := List.head?_dropWhile_not (· == '-') t
  rw [Option.mem_def.1 (head?_dropEndWhile h)] at hnot
  cases hnot

theorem getLast?_trimHyphens (t : Text) : (trimHyphens t).getLast? ≠ some '-' := by
  intro h
  have hnot := getLast?_dropEndWhile (· == '-') (t.dropWhile (· == '-')) '-' h
  cases hnot

theorem isSlugChar_of_mem_ofName {name : Text} {c : Char} (h : c ∈ ofName name) : isSlugChar c = true := by
  -- Trimming and collapsing only drop characters, so each is the slug character of one in lower case.
  have hcollapsed := (trimHyphens_sublist _).mem h
  obtain ⟨d, hd, rfl⟩ := List.mem_map.1 ((collapse_sublist _).mem hcollapsed)
  exact isSlugChar_slugChar (isUpper_of_mem_lower hd)

/-- Every name has a slug. -/
theorem isSlug_ofName (name : Text) : IsSlug (ofName name) where
  chars _ hc := isSlugChar_of_mem_ofName hc
  single_hyphens := isChain_trimHyphens (isChain_collapse _)
  first := head?_trimHyphens _
  last := getLast?_trimHyphens _

/-- A slug is the slug of itself. -/
theorem ofName_eq_self {t : Text} (h : IsSlug t) : ofName t = t := by
  have hlower : lower t = t := lower_eq_self fun c hc => ascii_of_isSlugChar (h.chars c hc)
  have hmap : t.map slugChar = t := by
    rw [List.map_congr_left fun c hc => slugChar_eq_self (h.chars c hc), List.map_id']
  have hstart : t.dropWhile (· == '-') = t := by
    rw [dropWhile_eq_self_iff_head?]
    intro c hc
    rw [beq_eq_false_iff_ne]
    rintro rfl
    exact h.first hc
  rw [ofName, hlower, hmap, collapse_eq_self h.single_hyphens, trimHyphens, hstart,
    dropEndWhile_eq_self_iff_getLast?]
  intro c hc
  rw [beq_eq_false_iff_ne]
  rintro rfl
  exact h.last hc

/-- Making a slug is a retraction onto the language of slugs: every name is taken into it, every slug
    stays as it is, so that a second time changes nothing, and the page of every feature has a slash
    and such a slug as its path. -/
theorem ofName_retraction :
    (∀ name, IsSlug (ofName name)) ∧ (∀ t, IsSlug t → ofName t = t) ∧
    (∀ name, ofName (ofName name) = ofName name) ∧
    ∀ f : Feature, ∃ slug, IsSlug slug ∧ slug = ofName f.name ∧ f.guidePath = '/' :: slug :=
  ⟨isSlug_ofName, fun _ => ofName_eq_self, fun name => ofName_eq_self (isSlug_ofName name),
    fun f => ⟨_, isSlug_ofName f.name, rfl, rfl⟩⟩

/-- A slug with all kinds of characters is its own slug, and that of a name with the kelvin sign, the
    dotted capital i and runs of other signs. -/
theorem ofName_kelvinUnits :
    IsSlug "k_2.i-units".toList ∧ ofName "k_2.i-units".toList = "k_2.i-units".toList ∧
    ofName "[\u212a_2.\u0130 --Units]".toList = "k_2.i-units".toList := by
  have hslug : IsSlug "k_2.i-units".toList :=
    ⟨List.all_eq_true.1 (by decide), by decide, by decide, by decide⟩
  exact ⟨hslug, ofName_retraction.2.1 _ hslug, by decide +kernel⟩

end Slug

end ApiGuide
