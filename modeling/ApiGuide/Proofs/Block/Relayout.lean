import ApiGuide.Pass
import ApiGuide.Proofs.Block.Concat
import ApiGuide.Proofs.Block.Decomposition
import ApiGuide.Proofs.Text.Unindent

/-!
The layout of a source does not matter: neither a common indent of all its lines nor the way its
line breaks are written changes a block.
-/

namespace ApiGuide.Block

open Text

/-- The text with the same indent in front of every line. -/
def indented (w t : Text) : Text :=
  ((lines t).map (w ++ ·)).flatten

/-- The text with the chosen line breaks, counted from 0, written as carriage return and line feed. -/
def withReturns (chosen : Nat → Bool) : Text → Text
  | [] => []
  | c :: t =>
    if c = '\n' then
      if chosen 0 then '\r' :: '\n' :: withReturns (fun i => chosen (i + 1)) t
      else '\n' :: withReturns (fun i => chosen (i + 1)) t
    else c :: withReturns chosen t

theorem return_not_mem_of_allBlank {blanks : Text} (h : allBlank blanks) : '\r' ∉ blanks := by
  intro hmem
  cases List.all_eq_true.1 h '\r' hmem

theorem normalizeLineBreaks_of_no_return {t : Text} (h : '\r' ∉ t) : normalizeLineBreaks t = t := by
  induction t with
  | nil => rfl
  | cons c t ih =>
    simp only [List.mem_cons, not_or] at h
    rw [normalizeLineBreaks_cons (Ne.symm h.1), ih h.2]

/-- A text without carriage returns comes back from any choice of line breaks. -/
theorem normalizeLineBreaks_withReturns {t : Text} (h : '\r' ∉ t) (chosen : Nat → Bool) (rest : Text) :
    normalizeLineBreaks (withReturns chosen t ++ rest) = t ++ normalizeLineBreaks rest := by
  induction t generalizing chosen with
  | nil => rfl
  | cons c t ih =>
    simp only [List.mem_cons, not_or] at h
    rw [withReturns]
    split
    · next hc =>
      rw [hc]
      split
      · rw [List.cons_append, List.cons_append, normalizeLineBreaks, if_pos ⟨rfl, rfl⟩, ih h.2,
          List.cons_append]
      · rw [List.cons_append, normalizeLineBreaks_cons (by decide), ih h.2, List.cons_append]
    · rw [List.cons_append, normalizeLineBreaks_cons (Ne.symm h.1), ih h.2, List.cons_append]

theorem indented_line {u : Text} (h : '\n' ∉ u) (w t : Text) :
    indented w (u ++ '\n' :: t) = w ++ u ++ '\n' :: indented w t := by
  rw [indented, lines_append_break h]
  simp [indented]

theorem lines_indented {w : Text} (hw : allBlank w) (t : Text) :
    lines (indented w t) = (lines t).map (w ++ ·) := by
  have hwb := break_not_mem_of_allBlank hw
  obtain hno | ⟨u, v, hu, rfl⟩ := exists_first_line t
  · cases t with
    | nil => rfl
    | cons c t =>
      have hline : '\n' ∉ w ++ c :: t := by simpa [hwb] using hno
      rw [indented, lines_of_no_break hno (by simp), List.map_singleton, List.flatten_singleton,
        lines_of_no_break hline (by simp)]
  · have hline : '\n' ∉ w ++ u := by simp [hwb, hu]
    rw [indented_line hu, lines_append_break hline, lines_indented hw v, lines_append_break hu]
    simp
termination_by t.length

theorem return_not_mem_indented {w t : Text} (hw : allBlank w) (ht : '\r' ∉ t) : '\r' ∉ indented w t := by
  intro hmem
  obtain ⟨line', hline', hr⟩ := List.mem_flatten.1 hmem
  obtain ⟨line, hline, rfl⟩ := List.mem_map.1 hline'
  rcases List.mem_append.1 hr with hr | hr
  · exact return_not_mem_of_allBlank hw hr
  · apply ht
    rw [← lines_flatten t]
    exact List.mem_flatten.2 ⟨line, hline, hr⟩

theorem isBegin_append {w : Text} (hw : allBlank w) (line : Text) : isBegin (w ++ line) = isBegin line := by
  rw [isBegin, isBegin, afterMark?, afterMark?, skipBlanks_append hw]

theorem isEnd_append {w : Text} (hw : allBlank w) (line : Text) : isEnd (w ++ line) = isEnd line := by
  rw [isEnd, isEnd, afterMark?, afterMark?, skipBlanks_append hw]

/-- An indent of all lines is an indent of the lines inside of the blocks. -/
theorem scan_map_append {w : Text} (hw : allBlank w) (opened : Option (List Text)) (ls : List Text) :
    scan (opened.map (List.map (w ++ ·))) (ls.map (w ++ ·)) = (scan opened ls).map (List.map (w ++ ·)) := by
  fun_induction scan opened ls with
  | case1 opened => cases opened <;> rfl
  | case2 line rest hbegin ih =>
    rw [List.map_cons, Option.map_none, scan, isBegin_append hw, if_pos hbegin]
    exact ih
  | case3 line rest hbegin ih =>
    rw [List.map_cons, Option.map_none, scan, isBegin_append hw, if_neg hbegin]
    exact ih
  | case4 content line rest hend ih =>
    rw [List.map_cons, Option.map_some, scan, isEnd_append hw, if_pos hend, List.map_cons]
    exact congrArg _ ih
  | case5 content line rest hend ih =>
    rw [List.map_cons, Option.map_some, scan, isEnd_append hw, if_neg hend, ← ih]
    simp

/-- Whole lines are unindented to the same text, whatever their common indent is. -/
theorem unindent_indented {w t : Text} (hw : allBlank w) (ht : WholeLines t) :
    unindent (indented w t) = unindent t := by
  have hpieces : ∃ pieces, splitOn '\n' t = pieces ++ [[]] ∧
      splitOn '\n' (indented w t) = pieces.map (w ++ ·) ++ [[]] := by
    induction ht with
    | nil => exact ⟨[], rfl, rfl⟩
    | @cons u t hu _ ih =>
      obtain ⟨pieces, hsplit, hindented⟩ := ih
      have hline : '\n' ∉ w ++ u := by simp [break_not_mem_of_allBlank hw, hu]
      refine ⟨u :: pieces, ?_, ?_⟩
      · rw [splitOn_append_mark hu, hsplit, List.cons_append]
      · rw [indented_line hu, splitOn_append_mark hline, hindented, List.map_cons, List.cons_append]
  obtain ⟨pieces, hsplit, hindented⟩ := hpieces
  rw [unindent, unindent, hsplit, hindented, unindentLines_concat_blank rfl, unindentLines_concat_blank rfl,
    unindentLines_map_append hw]

theorem isEnd_append_blanks {u blanks : Text} (hu : '\n' ∉ u) (hblanks : allBlank blanks) :
    isEnd (u ++ blanks) = isEnd u := by
  have hbreak : '\n' ∉ u ++ blanks := by simp [hu, break_not_mem_of_allBlank hblanks]
  have hmark (t : Text) (ht : '\n' ∉ t) : isEnd t = true ↔ MarkLine "###".toList [] t := by
    rw [isEnd_iff]
    refine ⟨fun h => h.resolve_left ?_, .inr⟩
    rintro ⟨left, right, -, -, rfl⟩
    simp at ht
  rw [Bool.eq_iff_iff, hmark _ hbreak, hmark _ hu]
  constructor
  · rintro ⟨left, right, hleft, hright, heq⟩
    rw [List.append_nil] at heq
    obtain ⟨mid, hmid, rfl⟩ | ⟨mid, rfl, rfl⟩ := List.append_eq_append_iff.1 heq
    · -- The blanks would reach into the mark, which does not end in one.
      cases hlast : mid.getLast? with
      | none =>
        obtain rfl := List.getLast?_eq_none_iff.1 hlast
        exact ⟨left, [], hleft, rfl, by simpa using hmid.symm⟩
      | some c =>
        have hc : c = '#' := by
          have hends := congrArg List.getLast? hmid
          simpa [hlast] using hends.symm
        have hblank := List.all_eq_true.1 hblanks c (by simp [List.mem_of_getLast? hlast])
        rw [hc] at hblank
        cases hblank
    · rw [allBlank, List.all_append, Bool.and_eq_true] at hright
      exact ⟨left, mid, hleft, hright.1, by simp⟩
  · rintro ⟨left, right, hleft, hright, rfl⟩
    refine ⟨left, right ++ blanks, hleft, ?_, by simp⟩
    rw [allBlank_append hright]
    exact hblanks

theorem scan_lines_of_no_break {u : Text} (h : '\n' ∉ u) (opened : Option (List Text)) :
    scan opened (lines u) = if isEnd u then opened.toList else [] := by
  cases u with
  | nil => cases opened <;> rfl
  | cons c u =>
    rw [lines_of_no_break h (by simp)]
    cases opened with
    | none =>
      rw [scan]
      split <;> simp [scan]
    | some content =>
      rw [scan]
      split <;> simp [scan, *]

/-- Blanks at the end of a text belong to no block. -/
theorem scan_lines_append_blanks {blanks : Text} (h : allBlank blanks) (opened : Option (List Text))
    (t : Text) : scan opened (lines (t ++ blanks)) = scan opened (lines t) := by
  obtain hno | ⟨u, v, hu, rfl⟩ := exists_first_line t
  · have hbreak : '\n' ∉ t ++ blanks := by simp [hno, break_not_mem_of_allBlank h]
    rw [scan_lines_of_no_break hbreak, scan_lines_of_no_break hno, isEnd_append_blanks hno h]
  · rw [List.append_assoc, List.cons_append, lines_append_break hu, lines_append_break hu]
    cases opened with
    | none =>
      rw [scan, scan, scan_lines_append_blanks h (some []) v, scan_lines_append_blanks h none v]
    | some content =>
      rw [scan, scan, scan_lines_append_blanks h none v, scan_lines_append_blanks h (some (content ++ _)) v]
termination_by t.length

theorem LaidOut.content_whole {t tail : Text} {parts : List Part} (h : LaidOut t parts tail) :
    ∀ p ∈ parts, WholeLines p.content := by
  induction parts generalizing t with
  | nil => simp
  | cons q parts ih =>
    obtain ⟨rest, -, hq, hrest⟩ := h
    intro p hp
    rcases List.mem_cons.1 hp with rfl | hp
    · exact hq.content_whole
    · exact ih hrest p hp

theorem texts_relaid {t w blanks : Text} (ht : '\r' ∉ t) (hw : allBlank w) (hblanks : allBlank blanks)
    (chosen : Nat → Bool) : texts (withReturns chosen (indented w t) ++ blanks) = texts t := by
  obtain ⟨parts, tail, hlayout⟩ := exists_laidOut t
  have hscan : scan none (lines (normalizeLineBreaks (withReturns chosen (indented w t) ++ blanks))) =
      parts.map fun p => (lines p.content).map (w ++ ·) := by
    rw [normalizeLineBreaks_withReturns (return_not_mem_indented hw ht),
      normalizeLineBreaks_of_no_return (return_not_mem_of_allBlank hblanks), scan_lines_append_blanks hblanks,
      lines_indented hw]
    refine (scan_map_append hw none (lines t)).trans ?_
    rw [hlayout.scan_eq, List.map_map]
    rfl
  rw [texts, texts, contents, contents, hscan, normalizeLineBreaks_of_no_return ht, hlayout.scan_eq]
  simp only [List.map_map]
  apply List.map_congr_left
  intro p hp
  have hcontent := unindent_indented hw (hlayout.content_whole p hp)
  rw [indented] at hcontent
  simpa using hcontent

/-- A source without carriage returns has the same blocks, and is read alike by every pass, when the
    same blanks are put in front of all its lines and any of its line breaks are written with a
    carriage return. Blanks may also follow the last line break, as in front of an empty last line. -/
theorem readSource_relaid (t w : Text) (chosen : Nat → Bool) (ht : '\r' ∉ t) (hw : allBlank w) :
    ∀ ending ∈ [[], w],
      texts (withReturns chosen (indented w t) ++ ending) = texts t ∧
      ∀ p : Pass, p.readSource (withReturns chosen (indented w t) ++ ending) = p.readSource t := by
  intro ending hmem
  have hending : allBlank ending := by
    rcases List.mem_cons.1 hmem with rfl | hmem
    · rfl
    · rwa [List.mem_singleton.1 hmem]
  have htexts := texts_relaid ht hw hending chosen
  refine ⟨htexts, fun p => ?_⟩
  rw [Pass.readSource, htexts, Pass.readSource]

/-- A block with a blank line, a line deeper and a line shallower than its first line. -/
def unevenSource : Text :=
  "x\n ###*\n\t\ta\n\n   b\n c\n###\ny".toList

theorem readSource_relaid_unevenSource :
    '\r' ∉ unevenSource ∧ allBlank "\t ".toList ∧
    withReturns (· % 2 == 1) (indented "\t ".toList unevenSource) =
      "\t x\n\t  ###*\r\n\t \t\ta\n\t \r\n\t    b\n\t  c\r\n\t ###\n\t y".toList ∧
    texts unevenSource = ["a\n\n b\nc".toList] ∧
    texts (withReturns (· % 2 == 1) (indented "\t ".toList unevenSource)) = texts unevenSource ∧
    ∀ p : Pass, p.readSource (withReturns (· % 2 == 1) (indented "\t ".toList unevenSource)) =
      p.readSource unevenSource := by
  have hreturn : '\r' ∉ unevenSource := by decide
  have hblank : allBlank "\t ".toList := by decide
  have hread := readSource_relaid unevenSource "\t ".toList (· % 2 == 1) hreturn hblank [] (by simp)
  rw [List.append_nil] at hread
  exact ⟨hreturn, hblank, by decide, by decide, hread⟩

end ApiGuide.Block
