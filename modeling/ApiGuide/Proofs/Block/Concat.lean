import ApiGuide.Proofs.Block.Layout

/-!
Blocks of texts that are put one after the other.

A text is closed when it ends between two lines and outside of any block that was begun. The scan
then leaves it as it entered it, so what follows is scanned as if it stood alone.
-/

namespace ApiGuide.Block

open Text

/-- The text ends in a line break, if it is not empty, and has no begin line outside of its blocks.
    Gaps never have one, so this is said of the tail. -/
structure Closed (source : Text) : Prop where
  ends : source = [] ∨ source.getLast? = some '\n'
  tail_free : ∃ parts tail, LaidOut (normalizeLineBreaks source) parts tail ∧
    ∀ line ∈ lines tail, ¬ IsBeginLine line

theorem wholeLines_of_getLast? {t : Text} (h : t = [] ∨ t.getLast? = some '\n') : WholeLines t := by
  obtain hno | ⟨u, v, hu, rfl⟩ := exists_first_line t
  · rcases h with rfl | hlast
    · exact .nil
    · exact absurd (List.mem_of_getLast? hlast) hno
  · refine .cons hu (wholeLines_of_getLast? ?_)
    rcases h with hnil | hlast
    · simp at hnil
    · cases v with
      | nil => exact .inl rfl
      | cons c v => exact .inr (by simpa using hlast)
termination_by t.length

/-- A line without the carriage return at its end, if it has one. -/
def withoutReturn (line : Text) : Text :=
  if line.getLast? = some '\r' then line.dropLast else line

theorem withoutReturn_cons_cons (c d : Char) (line : Text) :
    withoutReturn (c :: d :: line) = c :: withoutReturn (d :: line) := by
  rw [withoutReturn, withoutReturn, List.getLast?_cons_cons]
  split <;> rfl

theorem break_not_mem_withoutReturn {line : Text} (h : '\n' ∉ line) : '\n' ∉ withoutReturn line := by
  rw [withoutReturn]
  split
  · exact fun hmem => h (List.dropLast_subset _ hmem)
  · exact h

theorem normalizeLineBreaks_cons {c : Char} (h : c ≠ '\r') (t : Text) :
    normalizeLineBreaks (c :: t) = c :: normalizeLineBreaks t := by
  cases t with
  | nil => rfl
  | cons d t => rw [normalizeLineBreaks, if_neg fun hpair => h hpair.1]

/-- Line breaks are normalized line by line. -/
theorem normalizeLineBreaks_line {line : Text} (h : '\n' ∉ line) (t : Text) :
    normalizeLineBreaks (line ++ '\n' :: t) = withoutReturn line ++ '\n' :: normalizeLineBreaks t := by
  induction line with
  | nil => exact normalizeLineBreaks_cons (by decide) t
  | cons c line ih =>
    cases line with
    | nil =>
      rw [List.cons_append, List.nil_append]
      by_cases hc : c = '\r'
      · rw [normalizeLineBreaks, if_pos ⟨hc, rfl⟩, hc]
        rfl
      · rw [normalizeLineBreaks_cons hc, normalizeLineBreaks_cons (by decide)]
        simp [withoutReturn, hc]
    | cons d line =>
      simp only [List.mem_cons, not_or] at h
      have hrest := ih (by simpa using h.2)
      rw [List.cons_append] at hrest
      rw [List.cons_append, List.cons_append, normalizeLineBreaks,
        if_neg (fun hpair => h.2.1 hpair.2.symm), hrest, withoutReturn_cons_cons, List.cons_append]

/-- A pair of carriage return and line feed never reaches over the end of whole lines. -/
theorem normalizeLineBreaks_append {a : Text} (h : WholeLines a) (b : Text) :
    normalizeLineBreaks (a ++ b) = normalizeLineBreaks a ++ normalizeLineBreaks b := by
  induction h with
  | nil => rfl
  | cons hu _ ih =>
    rw [List.append_assoc, List.cons_append, normalizeLineBreaks_line hu, normalizeLineBreaks_line hu, ih,
      List.append_assoc, List.cons_append]

theorem wholeLines_normalizeLineBreaks {t : Text} (h : WholeLines t) :
    WholeLines (normalizeLineBreaks t) := by
  induction h with
  | nil => exact .nil
  | cons hu _ ih =>
    rw [normalizeLineBreaks_line hu]
    exact .cons (break_not_mem_withoutReturn hu) ih

/-- After a layout whose tail begins no block, the scan goes on outside of blocks. -/
theorem LaidOut.scan_append {t tail : Text} {parts : List Part} (h : LaidOut t parts tail)
    (htail : ∀ line ∈ lines tail, ¬ IsBeginLine line) (more : List Text) :
    scan none (lines t ++ more) = (parts.map fun p => lines p.content) ++ scan none more := by
  induction parts generalizing t with
  | nil =>
    obtain ⟨rfl, -⟩ := h
    exact scan_none_append_of_no_begin (fun l hl => not_isBegin_iff.2 (htail l hl)) more
  | cons p parts ih =>
    obtain ⟨rest, rfl, hp, hrest⟩ := h
    rw [hp.lines_append, List.append_assoc, List.cons_append, List.append_assoc, List.cons_append,
      scan_none_append (fun l hl => not_isBegin_iff.2 (hp.gap_free l hl)) (isBegin_iff.2 hp.opening_begins),
      scan_some_append (fun l hl => not_isEnd_iff.2 (hp.content_free l hl)) (isEnd_iff.2 hp.closing_ends),
      ih hrest, List.nil_append, List.map_cons, List.cons_append]

theorem Closed.texts_append {a : Text} (h : Closed a) (b : Text) :
    texts (a ++ b) = texts a ++ texts b := by
  have hwhole := wholeLines_of_getLast? h.ends
  obtain ⟨parts, tail, hlayout, htail⟩ := h.tail_free
  have hscan : scan none (lines (normalizeLineBreaks (a ++ b))) =
      scan none (lines (normalizeLineBreaks a)) ++ scan none (lines (normalizeLineBreaks b)) := by
    rw [normalizeLineBreaks_append hwhole, (wholeLines_normalizeLineBreaks hwhole).lines_append,
      hlayout.scan_append htail, hlayout.scan_eq]
  rw [texts, texts, texts, contents, hscan, List.map_append, List.map_append]
  rfl

/-- Closed texts one after the other have the blocks of each, in order. -/
theorem texts_flatten {sources : List Text} (h : ∀ source ∈ sources, Closed source) :
    texts sources.flatten = sources.flatMap texts := by
  induction sources with
  | nil => rfl
  | cons source rest ih =>
    rw [List.flatten_cons, (h source (by simp)).texts_append, List.flatMap_cons,
      ih fun s hs => h s (by simp [hs])]

/-- One block with code around it, as far as it can be checked by reading it. -/
theorem closed_of_part {source : Text} (p : Part) (tail : Text)
    (hends : source.getLast? = some '\n') (htext : normalizeLineBreaks source = p.text ++ tail)
    (hwhole : ∀ t ∈ [p.gap, p.content, p.closing], t = [] ∨ t.getLast? = some '\n')
    (hlines : (lines p.gap).all (!isBegin ·) ∧ isBegin p.opening ∧ (lines p.content).all (!isEnd ·) ∧
      isEnd p.closing ∧ (lines tail).all (!isBegin ·)) : Closed source := by
  obtain ⟨hgap, hopening, hcontent, hclosing, htail⟩ := hlines
  have htailFree : ∀ line ∈ lines tail, ¬ IsBeginLine line := by
    intro line hmem
    exact not_isBegin_iff.1 (by simpa using List.all_eq_true.1 htail line hmem)
  refine ⟨.inr hends, [p], tail, ⟨tail, htext, ?_, rfl, ?_⟩, htailFree⟩
  · exact {
      gap_whole := wholeLines_of_getLast? (hwhole _ (by simp))
      gap_free := fun line hmem => not_isBegin_iff.1 (by simpa using List.all_eq_true.1 hgap line hmem)
      opening_begins := isBegin_iff.1 hopening
      content_whole := wholeLines_of_getLast? (hwhole _ (by simp))
      content_free := fun line hmem => not_isEnd_iff.1 (by simpa using List.all_eq_true.1 hcontent line hmem)
      closing_ends := isEnd_iff.1 hclosing
      closing_whole := .inl (wholeLines_of_getLast? (hwhole _ (by simp))) }
  · intro before line after hcut hline
    exact absurd hline (htailFree line (by simp [hcut]))

end ApiGuide.Block
