import ApiGuide.Block
import ApiGuide.Proofs.Text.Blanks
import ApiGuide.Proofs.Text.Lines

/-!
The layout of a source text: gaps, blocks and a tail.

Every text has exactly one layout, and the scan finds the contents of its blocks. All facts are about
lists of lines; texts come in only where lines are put together.
-/

namespace ApiGuide.Block

open Text

/-- The line holds only the mark between blanks, and then its ending. -/
def MarkLine (mark ending line : Text) : Prop :=
  ∃ left right, allBlank left ∧ allBlank right ∧ line = left ++ mark ++ right ++ ending

/-- The line holds only `###*`, and its line break. -/
def IsBeginLine (line : Text) : Prop :=
  MarkLine "###*".toList ['\n'] line

/-- The line holds only `###`, and its line break if it has one. -/
def IsEndLine (line : Text) : Prop :=
  MarkLine "###".toList ['\n'] line ∨ MarkLine "###".toList [] line

/-- A block as it stands in a text, with the gap before it. -/
@[ext]
structure Part where
  gap : Text
  opening : Text
  content : Text
  closing : Text

/-- The text of a gap and a block. -/
def Part.text (p : Part) : Text :=
  p.gap ++ p.opening ++ p.content ++ p.closing

/-- What makes a gap and a block where `rest` follows: the gap has whole lines and none of them
    begins a block, the content has whole lines and none of them ends it, and the line break of the
    end line may be missing only if nothing follows. -/
structure Part.Fits (p : Part) (rest : Text) : Prop where
  gap_whole : WholeLines p.gap
  gap_free : ∀ line ∈ lines p.gap, ¬ IsBeginLine line
  opening_begins : IsBeginLine p.opening
  content_whole : WholeLines p.content
  content_free : ∀ line ∈ lines p.content, ¬ IsEndLine line
  closing_ends : IsEndLine p.closing
  closing_whole : WholeLines p.closing ∨ rest = []

/-- No line that begins a block is followed by a line that ends one. -/
def NoBlock (t : Text) : Prop :=
  ∀ before line after, lines t = before ++ line :: after → IsBeginLine line →
    ∀ later ∈ after, ¬ IsEndLine later

/-- The text is the parts one after the other and then the tail. -/
def LaidOut (t : Text) : List Part → Text → Prop
  | [], tail => t = tail ∧ NoBlock tail
  | p :: parts, tail => ∃ rest, t = p.text ++ rest ∧ p.Fits rest ∧ LaidOut rest parts tail

theorem markLine_iff {mark : Text} (hmark : ∀ t, skipBlanks (mark ++ t) = mark ++ t) {ending : Text}
    (hending : skipBlanks ending = ending) {line : Text} :
    MarkLine mark ending line ↔ ∃ rest, afterMark? mark line = some rest ∧ skipBlanks rest = ending := by
  constructor
  · rintro ⟨left, right, hleft, hright, rfl⟩
    refine ⟨right ++ ending, ?_, by rw [skipBlanks_append hright, hending]⟩
    rw [afterMark?, List.append_assoc, List.append_assoc, skipBlanks_append hleft, hmark, after?_append]
  · rintro ⟨rest, hafter, rfl⟩
    have hline := eq_append_of_after? hafter
    refine ⟨indent line, indent rest, allBlank_indent line, allBlank_indent rest, ?_⟩
    rw [List.append_assoc, indent_append_skipBlanks, List.append_assoc, ← hline, indent_append_skipBlanks]

theorem isBegin_iff {line : Text} : isBegin line = true ↔ IsBeginLine line := by
  rw [IsBeginLine, markLine_iff (fun _ => rfl) rfl, isBegin]
  split <;> simp_all

theorem isEnd_iff {line : Text} : isEnd line = true ↔ IsEndLine line := by
  rw [IsEndLine, markLine_iff (fun _ => rfl) rfl, markLine_iff (fun _ => rfl) rfl, isEnd]
  split <;> simp_all

theorem IsBeginLine.lines_append {line : Text} (h : IsBeginLine line) (rest : Text) :
    lines (line ++ rest) = line :: lines rest := by
  obtain ⟨left, right, hleft, hright, rfl⟩ := h
  have hno : '\n' ∉ left ++ "###*".toList ++ right := by
    simp [break_not_mem_of_allBlank hleft, break_not_mem_of_allBlank hright]
  rw [List.append_assoc, List.singleton_append, lines_append_break hno]

theorem IsEndLine.lines_append {line rest : Text} (h : IsEndLine line)
    (hwhole : WholeLines line ∨ rest = []) : lines (line ++ rest) = line :: lines rest := by
  obtain ⟨left, right, hleft, hright, rfl⟩ | ⟨left, right, hleft, hright, rfl⟩ := h
  all_goals
    have hno : '\n' ∉ left ++ "###".toList ++ right := by
      simp [break_not_mem_of_allBlank hleft, break_not_mem_of_allBlank hright]
  · rw [List.append_assoc, List.singleton_append, lines_append_break hno]
  · rw [List.append_nil] at hwhole ⊢
    rcases hwhole with hwhole | rfl
    · exact absurd (hwhole.break_mem (by simp)) hno
    · rw [List.append_nil, lines_of_no_break hno (by simp)]
      rfl

/-- The lines of a part stand one after the other, and the rest starts a line of its own. -/
theorem Part.Fits.lines_append {p : Part} {rest : Text} (h : p.Fits rest) :
    lines (p.text ++ rest) =
      lines p.gap ++ p.opening :: (lines p.content ++ p.closing :: lines rest) := by
  rw [Part.text, List.append_assoc, List.append_assoc, List.append_assoc, h.gap_whole.lines_append,
    h.opening_begins.lines_append, h.content_whole.lines_append,
    h.closing_ends.lines_append h.closing_whole]

theorem scan_none_append_of_no_begin {gap : List Text} (h : ∀ line ∈ gap, isBegin line = false)
    (more : List Text) : scan none (gap ++ more) = scan none more := by
  induction gap with
  | nil => rfl
  | cons line gap ih =>
    rw [List.cons_append, scan, h line (by simp)]
    exact ih fun l hl => h l (by simp [hl])

theorem scan_none_of_no_begin {ls : List Text} (h : ∀ line ∈ ls, isBegin line = false) :
    scan none ls = [] := by
  have hscan := scan_none_append_of_no_begin h []
  rwa [List.append_nil] at hscan

theorem scan_some_of_no_end {ls : List Text} (h : ∀ line ∈ ls, isEnd line = false) (opened : List Text) :
    scan (some opened) ls = [] := by
  induction ls generalizing opened with
  | nil => rfl
  | cons line rest ih =>
    rw [scan, h line (by simp)]
    exact ih (fun l hl => h l (by simp [hl])) _

theorem scan_none_append {gap : List Text} (h : ∀ line ∈ gap, isBegin line = false) {opening : Text}
    (hopening : isBegin opening = true) (rest : List Text) :
    scan none (gap ++ opening :: rest) = scan (some []) rest := by
  rw [scan_none_append_of_no_begin h, scan, if_pos hopening]

theorem scan_some_append {content : List Text} (h : ∀ line ∈ content, isEnd line = false)
    {closing : Text} (hclosing : isEnd closing = true) (opened rest : List Text) :
    scan (some opened) (content ++ closing :: rest) = (opened ++ content) :: scan none rest := by
  induction content generalizing opened with
  | nil => rw [List.nil_append, scan, if_pos hclosing, List.append_nil]
  | cons line content ih =>
    rw [List.cons_append, scan, h line (by simp)]
    have hrest := ih (fun l hl => h l (by simp [hl])) (opened ++ [line])
    simpa using hrest

theorem not_isBegin_iff {line : Text} : isBegin line = false ↔ ¬ IsBeginLine line := by
  rw [← isBegin_iff, Bool.not_eq_true]

theorem not_isEnd_iff {line : Text} : isEnd line = false ↔ ¬ IsEndLine line := by
  rw [← isEnd_iff, Bool.not_eq_true]

theorem scan_of_fits {p : Part} {rest : Text} (h : p.Fits rest) :
    scan none (lines (p.text ++ rest)) = lines p.content :: scan none (lines rest) := by
  have hgap : ∀ line ∈ lines p.gap, isBegin line = false := fun l hl => not_isBegin_iff.2 (h.gap_free l hl)
  have hcontent : ∀ line ∈ lines p.content, isEnd line = false := fun l hl =>
    not_isEnd_iff.2 (h.content_free l hl)
  rw [h.lines_append, scan_none_append hgap (isBegin_iff.2 h.opening_begins),
    scan_some_append hcontent (isEnd_iff.2 h.closing_ends), List.nil_append]

theorem scan_of_noBlock {t : Text} (h : NoBlock t) : scan none (lines t) = [] := by
  cases hfind : (lines t).find? isBegin with
  | none =>
    apply scan_none_of_no_begin
    simpa using hfind
  | some line =>
    obtain ⟨hline, before, after, hlines, hbefore⟩ := List.find?_eq_some_iff_append.1 hfind
    have hafter := h before line after hlines (isBegin_iff.1 hline)
    rw [hlines, scan_none_append (by simpa using hbefore) hline]
    exact scan_some_of_no_end (fun l hl => not_isEnd_iff.2 (hafter l hl)) []

/-- The scan finds the contents of any layout. -/
theorem LaidOut.scan_eq {t tail : Text} {parts : List Part} (h : LaidOut t parts tail) :
    scan none (lines t) = parts.map fun p => lines p.content := by
  induction parts generalizing t with
  | nil =>
    obtain ⟨rfl, hnone⟩ := h
    exact scan_of_noBlock hnone
  | cons p parts ih =>
    obtain ⟨rest, rfl, hp, hrest⟩ := h
    rw [scan_of_fits hp, ih hrest, List.map_cons]

end ApiGuide.Block
