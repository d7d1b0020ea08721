import ApiGuide.Parse
import ApiGuide.Proofs.Text.Blanks
import ApiGuide.Proofs.Text.Lines

/-!
The prose of a class is its block without two stretches: the class marker with the rest of its line,
and the visibility keyword.

Both are the leftmost of their kind. The visibility is looked for in what is left of the block, where
the text before the marker and the text after it stand together.
-/

namespace ApiGuide

open Text Marker

namespace Marker

/-- Nothing is read at the positions before the cut, counted from the front of the text. -/
theorem cut?_eq_some_iff_first {α : Type} {here? : Text → Option (α × Text)} {t rest : Text} {value : α} :
    cut? here? t = some (value, rest) ↔
      ∃ before tail after, t = before ++ tail ∧ here? tail = some (value, after) ∧
        rest = before ++ after ∧ ∀ p q, t = p ++ q → p.length < before.length → here? q = none := by
  rw [cut?_eq_some_iff]
  constructor
  · rintro ⟨before, tail, after, rfl, hread, rfl, hfirst⟩
    refine ⟨before, tail, after, rfl, hread, rfl, ?_⟩
    intro p q hpq hlt
    obtain ⟨more, rfl, rfl⟩ | ⟨more, rfl, -⟩ := List.append_eq_append_iff.1 hpq.symm
    · exact hfirst p more rfl (by rintro rfl; simp at hlt)
    · rw [List.length_append] at hlt
      omega
  · rintro ⟨before, tail, after, rfl, hread, rfl, hfirst⟩
    refine ⟨before, tail, after, rfl, hread, rfl, ?_⟩
    rintro p q rfl hq
    have hlt := List.length_pos_iff.2 hq
    exact hfirst p (q ++ tail) (by simp) (by simp; omega)

theorem lineAfter?_eq_some_iff {keyword t line rest : Text} :
    lineAfter? keyword t = some (line, rest) ↔
      ∃ b c more, t = keyword ++ b :: c :: more ∧ isBlank b = true ∧ c ≠ '\n' ∧
        line = firstLine (b :: c :: more) ∧ rest = fromLineBreak (b :: c :: more) := by
  rw [lineAfter?]
  constructor
  · intro h
    split at h
    · next b c more hafter =>
      split at h
      · next hblank =>
        cases h
        exact ⟨b, c, more, eq_append_of_after? hafter, hblank.1, hblank.2, rfl, rfl⟩
      · cases h
    · cases h
  · rintro ⟨b, c, more, rfl, hb, hc, rfl, rfl⟩
    rw [after?_append]
    exact if_pos ⟨hb, hc⟩

theorem name?_eq_some_iff {keywords : List Text} {t name rest : Text} :
    name? keywords t = some (name, rest) ↔
      ∃ line, cut? (fun u => keywords.findSome? (lineAfter? · u)) t = some (line, rest) ∧
        trim line ≠ [] ∧ name = trim line := by
  rw [name?]
  cases cut? (fun u => keywords.findSome? (lineAfter? · u)) t with
  | none => simp
  | some found =>
    obtain ⟨line, after⟩ := found
    by_cases hempty : trim line = []
    · simp only [hempty, if_true, reduceCtorEq, false_iff]
      rintro ⟨_, heq, hne, -⟩
      cases heq
      exact hne hempty
    · simp only [hempty, if_false, Option.some.injEq, Prod.mk.injEq]
      constructor
      · rintro ⟨rfl, rfl⟩
        exact ⟨line, ⟨rfl, rfl⟩, hempty, rfl⟩
      · rintro ⟨_, ⟨rfl, rfl⟩, -, rfl⟩
        exact ⟨rfl, rfl⟩

end Marker

/-- A class marker with a name starts the text: the keyword, a blank and one more character of the
    line. -/
def StartsClassMarker (t : Text) : Prop :=
  ∃ b c rest, t = "@class".toList ++ b :: c :: rest ∧ isBlank b = true ∧ c ≠ '\n'

/-- The block has its leftmost class marker after `before`: the keyword, all blanks that follow it and
    the rest of the line. -/
structure ClassMarkerIn (block before blanks line after : Text) : Prop where
  block_eq : block = before ++ ("@class".toList ++ blanks ++ line) ++ after
  blanks_ne_nil : blanks ≠ []
  blanks_blank : allBlank blanks = true
  line_start : ∀ c ∈ line.head?, isBlank c = false
  one_line : '\n' ∉ line
  after_break : ∀ c ∈ after.head?, c = '\n'
  first : ∀ p q, block = p ++ q → p.length < before.length → ¬ StartsClassMarker q

/-- The text starts with the keyword of a visibility, which is not the start of a longer word. -/
def StartsVisibility (v : Visibility) (t : Text) : Prop :=
  ∃ after, t = '@' :: v.keyword ++ after ∧ atWordEnd after = true

/-- The leftmost visibility keyword of the text is that of `v`, and stands between `before` and
    `after`. -/
structure VisibilityIn (t : Text) (v : Visibility) (before after : Text) : Prop where
  text_eq : t = before ++ ('@' :: v.keyword) ++ after
  word_end : atWordEnd after = true
  first : ∀ p q w, t = p ++ q → p.length < before.length → ¬ StartsVisibility w q

namespace Marker

theorem not_startsClassMarker_iff {t : Text} :
    ["@class".toList].findSome? (lineAfter? · t) = none ↔ ¬ StartsClassMarker t := by
  rw [List.findSome?_singleton, Option.eq_none_iff_forall_ne_some]
  constructor
  · rintro h ⟨b, c, rest, ht, hb, hc⟩
    exact h _ (lineAfter?_eq_some_iff.2 ⟨b, c, rest, ht, hb, hc, rfl, rfl⟩)
  · rintro h ⟨line, rest⟩ hread
    obtain ⟨b, c, more, ht, hb, hc, -, -⟩ := lineAfter?_eq_some_iff.1 hread
    exact h ⟨b, c, more, ht, hb, hc⟩

theorem trim_append_of_allBlank {blanks : Text} (h : allBlank blanks = true) (t : Text) :
    trim (blanks ++ t) = trim t := by
  have hspace : ∀ c ∈ blanks, isWhitespace c = true := fun c hc =>
    isWhitespace_of_isBlank (List.all_eq_true.1 h c hc)
  rw [trim, trimStart, List.dropWhile_append_of_pos hspace, ← trimStart, ← trim]

/-- The rest of the line after a class marker: blanks, and then a line that starts with none. -/
theorem classMarkerIn_of_line {block before after : Text} {b c : Char} {more : Text}
    (hblock : block = before ++ ("@class".toList ++ b :: c :: more)) (hb : isBlank b = true)
    (hafter : after = fromLineBreak (b :: c :: more))
    (hfirst : ∀ p q, block = p ++ q → p.length < before.length → ¬ StartsClassMarker q) :
    ClassMarkerIn block before (indent (firstLine (b :: c :: more)))
      (skipBlanks (firstLine (b :: c :: more))) after := by
  have hne : b ≠ '\n' := by
    rintro rfl
    cases hb
  have hline := indent_append_skipBlanks (firstLine (b :: c :: more))
  refine ⟨?_, ?_, allBlank_indent _, ?_, ?_, ?_, hfirst⟩
  · rw [hblock, hafter, List.append_assoc "@class".toList, hline, List.append_assoc before,
      List.append_assoc "@class".toList, firstLine_append_fromLineBreak]
  · rw [firstLine, List.takeWhile_cons_of_pos (by simpa using hne), indent, List.takeWhile_cons_of_pos hb]
    exact List.cons_ne_nil _ _
  · intro d hd
    have hskip := List.head?_dropWhile_not isBlank (firstLine (b :: c :: more))
    rw [← skipBlanks, Option.mem_def.1 hd] at hskip
    exact hskip
  · intro hmem
    exact break_not_mem_firstLine _ ((List.dropWhile_sublist isBlank).mem hmem)
  · intro d hd
    have hstop := List.head?_dropWhile_not (· != '\n') (b :: c :: more)
    rw [hafter, fromLineBreak, Option.mem_def] at hd
    rw [hd] at hstop
    simpa using hstop

/-- A class marker whose line has a name is read, up to the end of its line. -/
theorem lineAfter?_of_classMarkerIn {block before blanks line after : Text}
    (h : ClassMarkerIn block before blanks line after) (hline : line ≠ []) :
    lineAfter? "@class".toList ("@class".toList ++ (blanks ++ line ++ after)) =
      some (blanks ++ line, after) := by
  have hbreak : '\n' ∉ blanks ++ line := by
    simp [break_not_mem_of_allBlank h.blanks_blank, h.one_line]
  obtain ⟨hfirst, hrest⟩ : firstLine (blanks ++ line ++ after) = blanks ++ line ∧
      fromLineBreak (blanks ++ line ++ after) = after := by
    apply takeWhile_append_of_boundary
    · intro c hc
      have hne : c ≠ '\n' := fun heq => hbreak (heq ▸ hc)
      simpa using hne
    · intro c hc
      simp [h.after_break c hc]
  obtain ⟨b, bs, rfl⟩ := List.exists_cons_of_ne_nil h.blanks_ne_nil
  have hb : isBlank b = true := List.all_eq_true.1 h.blanks_blank b (by simp)
  obtain ⟨c, more, hmore⟩ : ∃ c more, bs ++ line = c :: more := List.exists_cons_of_ne_nil (by simp [hline])
  have hc : c ≠ '\n' := by
    rintro rfl
    exact hbreak (by simp [hmore])
  rw [lineAfter?_eq_some_iff]
  refine ⟨b, c, more ++ after, ?_, hb, hc, ?_, ?_⟩
  all_goals
    rw [← List.cons_append, ← List.cons_append, ← hmore]
    simp_all

theorem className?_eq_some_iff {block name rest : Text} :
    className? block = some (name, rest) ↔
      ∃ before blanks line after, ClassMarkerIn block before blanks line after ∧ trim line ≠ [] ∧
        name = trim line ∧ rest = before ++ after := by
  simp only [className?, name?_eq_some_iff, cut?_eq_some_iff_first, not_startsClassMarker_iff]
  constructor
  · rintro ⟨_, ⟨before, tail, after, hblock, hread, rfl, hfirst⟩, hne, rfl⟩
    rw [List.findSome?_singleton, lineAfter?_eq_some_iff] at hread
    obtain ⟨b, c, more, rfl, hb, -, rfl, hafter⟩ := hread
    rw [← indent_append_skipBlanks (firstLine (b :: c :: more)), trim_append_of_allBlank (allBlank_indent _)]
      at hne ⊢
    exact ⟨before, _, _, after, classMarkerIn_of_line hblock hb hafter hfirst, hne, rfl, rfl⟩
  · rintro ⟨before, blanks, line, after, hmarker, hne, rfl, rfl⟩
    have hline : line ≠ [] := by
      rintro rfl
      exact hne rfl
    refine ⟨blanks ++ line, ⟨before, "@class".toList ++ (blanks ++ line ++ after), after, ?_, ?_, rfl,
      hmarker.first⟩, ?_⟩
    · rw [hmarker.block_eq]
      simp
    · rw [List.findSome?_singleton]
      exact lineAfter?_of_classMarkerIn hmarker hline
    · rw [trim_append_of_allBlank hmarker.blanks_blank]
      exact ⟨hne, rfl⟩

theorem visibilityHere?_eq_some_iff {t rest : Text} {v : Visibility} :
    visibilityHere? t = some (v, rest) ↔ t = '@' :: v.keyword ++ rest ∧ atWordEnd rest = true := by
  constructor
  · intro h
    obtain ⟨w, -, hw⟩ := List.exists_of_findSome?_eq_some h
    obtain ⟨after, hkeyword, heq⟩ := Option.map_eq_some_iff.1 hw
    cases heq
    exact keyword?_eq_some_iff.1 hkeyword
  · rintro ⟨rfl, hend⟩
    have hread : keyword? ('@' :: v.keyword) ('@' :: v.keyword ++ rest) = some rest :=
      keyword?_eq_some_iff.2 ⟨rfl, hend⟩
    rw [visibilityHere?, Visibility.all]
    -- No keyword is the start of another, so those that are tried before fail.
    cases v with
    | stable => simp only [List.findSome?_cons, hread, Option.map_some]
    | experimental =>
      have hstable : keyword? ('@' :: Visibility.stable.keyword)
          ('@' :: Visibility.experimental.keyword ++ rest) = none := rfl
      simp only [List.findSome?_cons, hstable, hread, Option.map_none, Option.map_some]
    | internal =>
      have hstable : keyword? ('@' :: Visibility.stable.keyword)
          ('@' :: Visibility.internal.keyword ++ rest) = none := rfl
      have hexperimental : keyword? ('@' :: Visibility.experimental.keyword)
          ('@' :: Visibility.internal.keyword ++ rest) = none := rfl
      simp only [List.findSome?_cons, hstable, hexperimental, hread, Option.map_none, Option.map_some]

theorem visibilityHere?_eq_none_iff {t : Text} :
    visibilityHere? t = none ↔ ∀ v, ¬ StartsVisibility v t := by
  rw [Option.eq_none_iff_forall_ne_some]
  constructor
  · rintro h v ⟨after, ht, hend⟩
    exact h (v, after) (visibilityHere?_eq_some_iff.2 ⟨ht, hend⟩)
  · rintro h ⟨v, after⟩ hread
    exact h v ⟨after, visibilityHere?_eq_some_iff.1 hread⟩

theorem visibility?_eq_some_iff {t rest : Text} {v : Visibility} :
    visibility? t = some (v, rest) ↔ ∃ before after, VisibilityIn t v before after ∧ rest = before ++ after := by
  simp only [visibility?, cut?_eq_some_iff_first, visibilityHere?_eq_some_iff, visibilityHere?_eq_none_iff]
  constructor
  · rintro ⟨before, _, after, rfl, ⟨rfl, hend⟩, hrest, hfirst⟩
    exact ⟨before, after, ⟨(List.append_assoc ..).symm, hend, fun p q w hpq hlt => hfirst p q hpq hlt w⟩, hrest⟩
  · rintro ⟨before, after, h, hrest⟩
    refine ⟨before, '@' :: v.keyword ++ after, after, ?_, ⟨rfl, h.word_end⟩, hrest, ?_⟩
    · rw [h.text_eq, List.append_assoc]
    · exact fun p q hpq hlt w => h.first p q w hpq hlt

/-- What is taken as the visibility of a text, and what is left of it. -/
theorem takeVisibility_eq_iff {t rest : Text} {v : Visibility} :
    takeVisibility t = (v, rest) ↔
      ((∀ p q w, t = p ++ q → ¬ StartsVisibility w q) ∧ v = .stable ∧ rest = t) ∨
      ∃ before after, VisibilityIn t v before after ∧ rest = before ++ after := by
  have hnone : visibility? t = none ↔ ∀ p q w, t = p ++ q → ¬ StartsVisibility w q := by
    simp only [visibility?, cut?_eq_none_iff, visibilityHere?_eq_none_iff]
    exact ⟨fun h p q w hpq => h p q hpq w, fun h p q hpq w => h p q w hpq⟩
  rw [← hnone, ← visibility?_eq_some_iff, takeVisibility]
  cases visibility? t with
  | none => simp [eq_comm]
  | some found => simp

end Marker

theorem ClassDoc.parse?_eq_some_iff {block : Text} {c : ClassDoc} :
    ClassDoc.parse? block = some c ↔
      ∃ rest, className? block = some (c.name, rest) ∧ takeVisibility rest = (c.visibility, c.prose) ∧
        c.functions = [] := by
  rw [ClassDoc.parse?]
  cases className? block with
  | none => simp
  | some found =>
    obtain ⟨name, rest⟩ := found
    constructor
    · intro h
      cases h
      exact ⟨rest, rfl, rfl, rfl⟩
    · rintro ⟨_, heq, htake, hfunctions⟩
      cases heq
      simp only [htake, ← hfunctions]

/-- A class is read from a block exactly when the line of its leftmost class marker has a name. The
    block is then `before`, the marker and `after`. The class has the visibility of the leftmost
    visibility keyword in `before ++ after`, and this text without that keyword as its prose; without a
    keyword it is for everyone, and nothing more is cut out. -/
theorem ClassDoc.parse?_eq_some_iff_cuts {block : Text} {c : ClassDoc} :
    ClassDoc.parse? block = some c ↔
      ∃ before blanks line after, ClassMarkerIn block before blanks line after ∧
        trim line ≠ [] ∧ c.name = trim line ∧ c.functions = [] ∧
        (((∀ p q v, before ++ after = p ++ q → ¬ StartsVisibility v q) ∧
            c.visibility = .stable ∧ c.prose = before ++ after) ∨
          ∃ before' after', VisibilityIn (before ++ after) c.visibility before' after' ∧
            c.prose = before' ++ after') := by
  rw [ClassDoc.parse?_eq_some_iff]
  constructor
  · rintro ⟨rest, hread, htake, hfunctions⟩
    obtain ⟨before, blanks, line, after, hmarker, hne, hname, rfl⟩ := className?_eq_some_iff.1 hread
    exact ⟨before, blanks, line, after, hmarker, hne, hname, hfunctions, takeVisibility_eq_iff.1 htake⟩
  · rintro ⟨before, blanks, line, after, hmarker, hne, hname, hfunctions, hvisibility⟩
    have hread := className?_eq_some_iff.2 ⟨before, blanks, line, after, hmarker, hne, hname, rfl⟩
    exact ⟨before ++ after, hread, takeVisibility_eq_iff.2 hvisibility, hfunctions⟩

end ApiGuide
