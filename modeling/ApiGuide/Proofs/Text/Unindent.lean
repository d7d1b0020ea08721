import ApiGuide.Proofs.Text.Blanks
import ApiGuide.Proofs.Text.Lines
import ApiGuide.Text.Unindent
import Mathlib.Data.List.DropRight

/-!
Unindenting undoes a common indent of all lines, and has nothing more to do on its own results.

What it leaves starts with a character that is no blank, so a second time the width is zero. A text of
blank lines stands apart: no line is left of it, but no lines are joined to the empty text, which has
one line again.
-/

namespace ApiGuide.Text

theorem outdent_append {run : Text} (h : allBlank run) (width : Nat) (line : Text) :
    outdent (run.length + width) (run ++ line) = outdent width line := by
  rw [outdent, outdent, allBlank_append h, indent_append h, List.length_append, Nat.add_min_add_left,
    List.drop_length_add_append]

/-- Lines moved to the right together are moved back together. -/
theorem unindentLines_map_append {run : Text} (h : allBlank run) (ls : List Text) :
    unindentLines (ls.map (run ++ ·)) = unindentLines ls := by
  have hblank : allBlank ∘ (run ++ ·) = allBlank := funext (allBlank_append h)
  rw [unindentLines, unindentLines, List.dropWhile_map, hblank]
  cases ls.dropWhile allBlank with
  | nil => rfl
  | cons first rest =>
    have hout : (outdent (indent (run ++ first)).length ∘ (run ++ ·)) = outdent (indent first).length := by
      funext line
      rw [indent_append h, List.length_append]
      exact outdent_append h _ line
    simp only [List.map_cons]
    rw [← List.map_cons, ← List.map_cons, ← List.map_cons, List.map_map, hout]

/-- A blank line at the end is dropped again. -/
theorem unindentLines_concat_blank {blank : Text} (h : allBlank blank) (ls : List Text) :
    unindentLines (ls ++ [blank]) = unindentLines ls := by
  rw [unindentLines, unindentLines, List.dropWhile_append]
  cases ls.dropWhile allBlank with
  | nil => simp [h]
  | cons first rest =>
    have hout : outdent (indent first).length blank = [] := by rw [outdent, if_pos h]
    simp [hout, List.dropWhile_cons, allBlank]

/-- Lines as unindenting leaves them. The first starts with a character that is no blank, the last is
    not blank, and no line has blanks only, unless it is empty. -/
structure Flush (ls : List Text) : Prop where
  first : ∀ line ∈ ls.head?, ∃ c ∈ line.head?, isBlank c = false
  last : ∀ line ∈ ls.getLast?, allBlank line = false
  blank_eq_nil : ∀ line ∈ ls, allBlank line → line = []

/-- A text as unindenting leaves it: it is empty or its lines are flush. -/
def IsUnindented (t : Text) : Prop :=
  t = [] ∨ Flush (splitOn '\n' t)

/-- A text as unindenting leaves it behind a marker: a line that starts with no blank, and under it an
    unindented text. -/
def IsHanging (t : Text) : Prop :=
  ∃ first rest, '\n' ∉ first ∧ t = first ++ '\n' :: rest ∧ (∀ c ∈ first.head?, isBlank c = false) ∧
    IsUnindented rest

theorem allBlank_outdent (width : Nat) (line : Text) : allBlank (outdent width line) = allBlank line := by
  rw [outdent]
  split
  · next hblank => rw [hblank, allBlank, List.all_nil]
  · have hfront : allBlank ((indent line).drop (min (indent line).length width)) := by
      rw [allBlank, List.all_eq_true]
      exact fun c hc => List.all_eq_true.1 (allBlank_indent line) c (List.mem_of_mem_drop hc)
    have hdrop : line.drop (min (indent line).length width) =
        (indent line).drop (min (indent line).length width) ++ skipBlanks line := by
      rw [← List.drop_append_of_le_length (Nat.min_le_left ..), indent_append_skipBlanks]
    rw [hdrop, allBlank_append hfront, ← allBlank_append (allBlank_indent line), indent_append_skipBlanks]

theorem outdent_eq_nil_of_allBlank {width : Nat} {line : Text} (h : allBlank (outdent width line)) :
    outdent width line = [] := by
  rw [allBlank_outdent] at h
  rw [outdent, if_pos h]

theorem outdent_zero {line : Text} (h : allBlank line → line = []) : outdent 0 line = line := by
  rw [outdent]
  split
  · next hblank => exact (h hblank).symm
  · rw [Nat.min_zero, List.drop_zero]

/-- By its own indent a line is moved to the left margin. -/
theorem outdent_indent {line : Text} (h : allBlank line = false) :
    outdent (indent line).length line = skipBlanks line := by
  have hdrop : (indent line ++ skipBlanks line).drop (indent line).length = skipBlanks line :=
    List.drop_append_length
  rw [indent_append_skipBlanks] at hdrop
  rw [outdent, h, if_neg Bool.false_ne_true, Nat.min_self, hdrop]

theorem exists_head?_skipBlanks {line : Text} (h : allBlank line = false) :
    ∃ c ∈ (skipBlanks line).head?, isBlank c = false := by
  obtain ⟨c, hc, hblank⟩ := List.all_eq_false.1 h
  have hne : skipBlanks line ≠ [] := by
    rw [skipBlanks, ne_eq, List.dropWhile_eq_nil_iff]
    exact fun hall => hblank (hall c hc)
  exact ⟨(skipBlanks line).head hne, List.head_mem_head? hne, List.head_dropWhile_not isBlank hne⟩

/-- A line at the left margin has no indent. -/
theorem indent_of_head? {line : Text} (h : ∃ c ∈ line.head?, isBlank c = false) :
    allBlank line = false ∧ indent line = [] := by
  obtain ⟨c, hc, hblank⟩ := h
  obtain ⟨more, rfl⟩ := List.head?_eq_some_iff.1 hc
  exact ⟨by rw [allBlank, List.all_cons, hblank, Bool.false_and],
    List.takeWhile_cons_of_neg (by rw [hblank]; exact Bool.false_ne_true)⟩

/-- The width is taken from the first line that is not blank. -/
theorem unindentLines_of_dropWhile {ls rest : List Text} {first : Text}
    (h : ls.dropWhile allBlank = first :: rest) :
    unindentLines ls = ((first :: rest).map (outdent (indent first).length)).rdropWhile allBlank := by
  rw [unindentLines, h]
  rfl

/-- Nothing is left of blank lines, and else there is a first line that is not blank. -/
theorem unindentLines_cases (ls : List Text) :
    unindentLines ls = [] ∨
      ∃ first rest, ls.dropWhile allBlank = first :: rest ∧ allBlank first = false ∧
        unindentLines ls = ((first :: rest).map (outdent (indent first).length)).rdropWhile allBlank := by
  cases hdrop : ls.dropWhile allBlank with
  | nil => exact .inl (by rw [unindentLines, hdrop])
  | cons first rest =>
    have hfirst := List.head?_dropWhile_not allBlank ls
    rw [hdrop] at hfirst
    exact .inr ⟨first, rest, rfl, hfirst, unindentLines_of_dropWhile hdrop⟩

theorem exists_outdent_of_mem_unindentLines {ls : List Text} {line : Text} (h : line ∈ unindentLines ls) :
    ∃ width, ∃ l ∈ ls, outdent width l = line := by
  obtain hnil | ⟨first, rest, hdrop, -, heq⟩ := unindentLines_cases ls
  · simp [hnil] at h
  · rw [heq] at h
    obtain ⟨l, hl, rfl⟩ := List.mem_map.1 ((List.rdropWhile_prefix ..).subset h)
    rw [← hdrop] at hl
    exact ⟨_, l, (List.dropWhile_sublist _).subset hl, rfl⟩

theorem break_not_mem_of_mem_unindentLines {ls : List Text} (hls : ∀ l ∈ ls, '\n' ∉ l) {line : Text}
    (h : line ∈ unindentLines ls) : '\n' ∉ line := by
  obtain ⟨width, l, hl, rfl⟩ := exists_outdent_of_mem_unindentLines h
  rw [outdent]
  split
  · exact List.not_mem_nil
  · exact fun hmem => hls l hl (List.mem_of_mem_drop hmem)

theorem flush_unindentLines (ls : List Text) : Flush (unindentLines ls) := by
  refine ⟨fun line hline => ?_, fun line hline => ?_, fun line hline hblank => ?_⟩
  · obtain hnil | ⟨first, rest, -, hfirst, heq⟩ := unindentLines_cases ls
    · simp [hnil] at hline
    · obtain ⟨dropped, happend⟩ := List.rdropWhile_prefix allBlank
        ((first :: rest).map (outdent (indent first).length))
      have hhead := List.mem_head?_append_of_mem_head? (t := dropped) hline
      rw [heq, happend, List.map_cons, outdent_indent hfirst] at hhead
      obtain rfl : skipBlanks first = line := by simpa using hhead
      exact exists_head?_skipBlanks hfirst
  · obtain hnil | ⟨first, rest, -, -, heq⟩ := unindentLines_cases ls
    · simp [hnil] at hline
    · obtain ⟨hne, rfl⟩ := List.mem_getLast?_eq_getLast hline
      rw [← Bool.not_eq_true]
      simp only [heq] at hne ⊢
      exact List.rdropWhile_last_not allBlank _ hne
  · obtain ⟨width, l, -, rfl⟩ := exists_outdent_of_mem_unindentLines hline
    exact outdent_eq_nil_of_allBlank hblank

/-- Flush lines stay as they are: the width is zero, and there is nothing to drop on either end. -/
theorem unindentLines_of_flush {ls : List Text} (h : Flush ls) : unindentLines ls = ls := by
  cases ls with
  | nil => rfl
  | cons first rest =>
    obtain ⟨hfirst, hindent⟩ := indent_of_head? (h.first first rfl)
    have hdrop : (first :: rest).dropWhile allBlank = first :: rest :=
      List.dropWhile_cons_of_neg (by rw [hfirst]; exact Bool.false_ne_true)
    have hlines : (first :: rest).map (outdent 0) = first :: rest :=
      (List.map_congr_left fun line hline => outdent_zero (h.blank_eq_nil line hline)).trans (List.map_id _)
    rw [unindentLines_of_dropWhile hdrop, hindent, List.length_nil, hlines, List.rdropWhile_eq_self_iff]
    intro hne
    rw [h.last _ (List.getLast_mem_getLast? hne)]
    exact Bool.false_ne_true

theorem isUnindented_unindent (t : Text) : IsUnindented (unindent t) := by
  have hlines : ∀ line ∈ unindentLines (splitOn '\n' t), '\n' ∉ line := fun line =>
    break_not_mem_of_mem_unindentLines fun _ => not_mem_of_mem_splitOn
  rw [unindent]
  cases hleft : unindentLines (splitOn '\n' t) with
  | nil => exact .inl rfl
  | cons first rest =>
    right
    rw [hleft] at hlines
    rw [splitOn_joinWith hlines (List.cons_ne_nil first rest), ← hleft]
    exact flush_unindentLines _

theorem unindent_of_isUnindented {t : Text} (h : IsUnindented t) : unindent t = t := by
  obtain rfl | hflush := h
  · rfl
  · rw [unindent, unindentLines_of_flush hflush, splitOn_eq_list_splitOn, joinWith, List.intercalate_splitOn]

/-- The unindented texts are the texts that unindenting leaves alone. -/
theorem unindent_eq_self_iff {t : Text} : unindent t = t ↔ IsUnindented t := by
  refine ⟨fun h => ?_, unindent_of_isUnindented⟩
  rw [← h]
  exact isUnindented_unindent t

theorem unindentHanging_line {first : Text} (h : '\n' ∉ first) (rest : Text) :
    unindentHanging (first ++ '\n' :: rest) = skipBlanks first ++ '\n' :: unindent rest := by
  rw [unindentHanging, splitOn_append_mark h, unindent]

theorem isHanging_unindentHanging (t : Text) : IsHanging (unindentHanging t) := by
  obtain ⟨first, rest, hfirst, heq⟩ : ∃ first rest, '\n' ∉ first ∧
      unindentHanging t = skipBlanks first ++ '\n' :: unindent rest := by
    obtain hno | ⟨first, rest, hfirst, rfl⟩ := exists_first_line t
    · exact ⟨t, [], hno, by rw [unindentHanging, splitOn_eq_list_splitOn, List.splitOn_eq_singleton hno]; rfl⟩
    · exact ⟨first, rest, hfirst, unindentHanging_line hfirst rest⟩
  refine ⟨skipBlanks first, unindent rest, ?_, heq, ?_, isUnindented_unindent rest⟩
  · exact fun hmem => hfirst ((List.dropWhile_sublist isBlank).mem hmem)
  · exact dropWhile_eq_self_iff_head?.1 (List.dropWhile_idempotent isBlank first)

theorem unindentHanging_of_isHanging {t : Text} (h : IsHanging t) : unindentHanging t = t := by
  obtain ⟨first, rest, hfirst, rfl, hmargin, hrest⟩ := h
  rw [unindentHanging_line hfirst, unindent_of_isUnindented hrest, skipBlanks,
    dropWhile_eq_self_iff_head?.2 hmargin]

/-- Unindenting is a retraction onto the unindented texts: it makes every text one, and leaves exactly
    these alone. So a second time it changes nothing, and neither does unindenting behind a marker. -/
theorem unindent_retraction (t : Text) :
    IsUnindented (unindent t) ∧ (unindent t = t ↔ IsUnindented t) ∧
      unindent (unindent t) = unindent t ∧
      unindentHanging (unindentHanging t) = unindentHanging t :=
  ⟨isUnindented_unindent t, unindent_eq_self_iff, unindent_of_isUnindented (isUnindented_unindent t),
    unindentHanging_of_isHanging (isHanging_unindentHanging t)⟩

end ApiGuide.Text
