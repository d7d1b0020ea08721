import ApiGuide.Text.Basic
import Mathlib.Data.List.Basic

/-!
Lines and pieces of texts that are put together from parts.
-/

namespace ApiGuide.Text

/-- The pieces are those of the list operation, whose laws then carry over. -/
theorem splitOn_eq_list_splitOn (mark : Char) (t : Text) : splitOn mark t = List.splitOn mark t := by
  induction t with
  | nil => rfl
  | cons c t ih =>
    rw [splitOn, List.splitOn_cons_eq_if_modifyHead, ih]
    simp

theorem splitOn_joinWith {mark : Char} {pieces : List Text} (hmark : ∀ piece ∈ pieces, mark ∉ piece)
    (hne : pieces ≠ []) : splitOn mark (joinWith [mark] pieces) = pieces := by
  rw [splitOn_eq_list_splitOn]
  exact List.splitOn_intercalate mark hmark hne

theorem not_mem_of_mem_splitOn {mark : Char} {t piece : Text} (h : piece ∈ splitOn mark t) :
    mark ∉ piece := by
  induction t generalizing piece with
  | nil =>
    obtain rfl : piece = [] := by simpa [splitOn] using h
    simp
  | cons c t ih =>
    rw [splitOn] at h
    split at h
    · rcases List.mem_cons.1 h with rfl | hmem
      · simp
      · exact ih hmem
    · next hc =>
      cases hsplit : splitOn mark t with
      | nil => simp [hsplit] at h
      | cons first rest =>
        simp only [hsplit, List.modifyHead_cons, List.mem_cons] at h
        rcases h with rfl | hmem
        · have hfirst : mark ∉ first := ih (by simp [hsplit])
          simp [hfirst, Ne.symm hc]
        · exact ih (by simp [hsplit, hmem])

theorem splitOn_append_mark {mark : Char} {piece : Text} (h : mark ∉ piece) (t : Text) :
    splitOn mark (piece ++ mark :: t) = piece :: splitOn mark t := by
  induction piece with
  | nil => simp [splitOn]
  | cons c piece ih =>
    simp only [List.mem_cons, not_or] at h
    rw [List.cons_append, splitOn, if_neg (Ne.symm h.1), ih h.2]
    rfl

theorem joinWith_cons (mark : Char) (piece : Text) (rest : List Text) :
    joinWith [mark] (piece :: rest) = piece ++ (rest.map (mark :: ·)).flatten := by
  induction rest generalizing piece with
  | nil => simp [joinWith]
  | cons next rest ih =>
    have hrest := ih next
    rw [joinWith] at hrest
    rw [joinWith, List.intercalate_cons_cons, hrest]
    simp

/-- A piece stands between two marks, or between a mark and an end of the text, and holds none. -/
theorem mem_splitOn_iff {mark : Char} {t piece : Text} :
    piece ∈ splitOn mark t ↔ mark ∉ piece ∧ ∃ before after, t = before ++ (piece ++ after) ∧
      (∀ c ∈ before.getLast?, c = mark) ∧ ∀ c ∈ after.head?, c = mark := by
  constructor
  · intro h
    refine ⟨not_mem_of_mem_splitOn h, ?_⟩
    obtain ⟨pre, post, hsplit⟩ := List.append_of_mem h
    have ht : t = joinWith [mark] (pre ++ piece :: post) := by
      rw [← hsplit, splitOn_eq_list_splitOn, joinWith, List.intercalate_splitOn]
    have hafter : ∀ c ∈ (post.map (mark :: ·)).flatten.head?, c = mark := by
      cases post <;> simp
    cases pre with
    | nil => exact ⟨[], _, by rw [ht, List.nil_append, joinWith_cons, List.nil_append], by simp, hafter⟩
    | cons first pre =>
      refine ⟨joinWith [mark] (first :: pre) ++ [mark], _, ?_, by simp, hafter⟩
      rw [ht, List.cons_append, joinWith_cons, joinWith_cons]
      simp
  · rintro ⟨hmark, before, after, rfl, hbefore, hafter⟩
    have hmem : piece ∈ splitOn mark (piece ++ after) := by
      cases after with
      | nil => simp [splitOn_eq_list_splitOn, List.splitOn_eq_singleton hmark]
      | cons c after =>
        obtain rfl : c = mark := hafter c (by simp)
        simp [splitOn_append_mark hmark]
    obtain rfl | ⟨front, c, rfl⟩ := before.eq_nil_or_concat
    · exact hmem
    · obtain rfl : c = mark := hbefore c (by simp)
      rw [List.concat_eq_append, List.append_assoc, List.singleton_append, splitOn_eq_list_splitOn,
        List.splitOn_append_cons_self, List.mem_append, ← splitOn_eq_list_splitOn, ← splitOn_eq_list_splitOn]
      exact .inr hmem

theorem getLast?_joinWith {mark : Char} {pieces : List Text} (h : ∀ t ∈ pieces, t ≠ []) :
    (joinWith [mark] pieces).getLast? = pieces.getLast?.bind (·.getLast?) := by
  induction pieces with
  | nil => rfl
  | cons t rest ih =>
    cases rest with
    | nil => simp [joinWith]
    | cons u rest =>
      have hne : joinWith [mark] (u :: rest) ≠ [] := by
        rw [joinWith_cons]
        simp [h u (by simp)]
      have hrest := ih fun v hv => h v (by simp [hv])
      rw [joinWith] at hne hrest
      rw [joinWith, List.intercalate_cons_cons, List.getLast?_append_of_ne_nil _ hne, hrest]
      simp

theorem not_mem_joinWith {mark c : Char} {pieces : List Text} (hmark : c ≠ mark)
    (h : ∀ t ∈ pieces, c ∉ t) : c ∉ joinWith [mark] pieces := by
  cases pieces with
  | nil => simp [joinWith]
  | cons t rest =>
    rw [joinWith_cons]
    simp only [List.mem_append, List.mem_flatten, List.mem_map, not_or]
    refine ⟨h t (by simp), ?_⟩
    rintro ⟨u, ⟨v, hv, rfl⟩, hc⟩
    rcases List.mem_cons.1 hc with rfl | hc
    · exact hmark rfl
    · exact h v (by simp [hv]) hc

/-- A text made of whole lines: each of its lines ends in a line break. -/
inductive WholeLines : Text → Prop
  | nil : WholeLines []
  | cons {u t : Text} : '\n' ∉ u → WholeLines t → WholeLines (u ++ '\n' :: t)

theorem wholeLines_line {u : Text} (h : '\n' ∉ u) : WholeLines (u ++ ['\n']) :=
  .cons h .nil

theorem WholeLines.append {a b : Text} (ha : WholeLines a) (hb : WholeLines b) : WholeLines (a ++ b) := by
  induction ha with
  | nil => exact hb
  | cons hu _ ih => simpa using WholeLines.cons hu ih

theorem WholeLines.break_mem {t : Text} (h : WholeLines t) (hne : t ≠ []) : '\n' ∈ t := by
  cases h with
  | nil => exact absurd rfl hne
  | cons _ _ => simp

theorem lines_injective {s t : Text} (h : lines s = lines t) : s = t := by
  rw [← lines_flatten s, h, lines_flatten]

theorem lines_append_break {u : Text} (h : '\n' ∉ u) (t : Text) :
    lines (u ++ '\n' :: t) = (u ++ ['\n']) :: lines t := by
  induction u with
  | nil => simp [lines]
  | cons c u ih =>
    simp only [List.mem_cons, not_or] at h
    rw [List.cons_append, lines, if_neg (Ne.symm h.1), ih h.2]
    rfl

theorem lines_flatMap_break {pieces : List Text} (h : ∀ piece ∈ pieces, '\n' ∉ piece) :
    lines (pieces.flatMap (· ++ ['\n'])) = pieces.map (· ++ ['\n']) := by
  induction pieces with
  | nil => rfl
  | cons piece rest ih =>
    have hrest := ih fun next hnext => h next (List.mem_cons_of_mem piece hnext)
    rw [List.flatMap_cons, List.append_assoc, List.singleton_append,
      lines_append_break (h piece List.mem_cons_self), hrest, List.map_cons]

theorem lines_of_no_break {u : Text} (h : '\n' ∉ u) (hne : u ≠ []) : lines u = [u] := by
  induction u with
  | nil => exact absurd rfl hne
  | cons c u ih =>
    simp only [List.mem_cons, not_or] at h
    rw [lines, if_neg (Ne.symm h.1)]
    cases u with
    | nil => rfl
    | cons d u => rw [ih h.2 (by simp)]

/-- Lines never run over the end of a text made of whole lines. -/
theorem WholeLines.lines_append {a : Text} (h : WholeLines a) (b : Text) :
    lines (a ++ b) = lines a ++ lines b := by
  induction h with
  | nil => rfl
  | cons hu _ ih =>
    rw [List.append_assoc, List.cons_append, lines_append_break hu, lines_append_break hu, ih]
    rfl

/-- A text starts with a line that ends in a line break, or has no line break at all. -/
theorem exists_first_line (t : Text) : '\n' ∉ t ∨ ∃ u v, '\n' ∉ u ∧ t = u ++ '\n' :: v := by
  by_cases hmem : '\n' ∈ t
  · obtain ⟨u, v, ht, hu⟩ := List.eq_append_cons_of_mem hmem
    exact .inr ⟨u, v, hu, ht⟩
  · exact .inl hmem

/-- Cutting the lines of a text at one of them cuts the text between whole lines. -/
theorem lines_eq_append_cons {t line : Text} {before after : List Text}
    (h : lines t = before ++ line :: after) :
    t = before.flatten ++ line ++ after.flatten ∧ WholeLines before.flatten ∧
      lines before.flatten = before ∧ lines after.flatten = after ∧
      (WholeLines line ∨ after = []) := by
  have ht : t = before.flatten ++ line ++ after.flatten := by
    rw [← lines_flatten t, h]
    simp
  refine ⟨ht, ?_⟩
  -- The induction is over the lines in front, each of which takes a line off the text.
  clear ht
  induction before generalizing t with
  | nil =>
    refine ⟨.nil, rfl, ?_⟩
    obtain hno | ⟨u, v, hu, rfl⟩ := exists_first_line t
    · cases t with
      | nil => simp [lines] at h
      | cons c t =>
        rw [lines_of_no_break hno (by simp)] at h
        obtain ⟨-, rfl⟩ : c :: t = line ∧ [] = after := by simpa using h
        exact ⟨rfl, .inr rfl⟩
    · rw [lines_append_break hu] at h
      obtain ⟨rfl, rfl⟩ : u ++ ['\n'] = line ∧ lines v = after := by simpa using h
      exact ⟨by simp, .inl (wholeLines_line hu)⟩
  | cons b before ih =>
    obtain hno | ⟨u, v, hu, rfl⟩ := exists_first_line t
    · cases t with
      | nil => simp [lines] at h
      | cons c t =>
        rw [lines_of_no_break hno (by simp)] at h
        simp at h
    · rw [lines_append_break hu] at h
      obtain ⟨rfl, hv⟩ : u ++ ['\n'] = b ∧ lines v = before ++ line :: after := by simpa using h
      obtain ⟨hwhole, hbefore, hrest⟩ := ih hv
      refine ⟨(wholeLines_line hu).append hwhole, ?_, hrest⟩
      rw [List.flatten_cons, (wholeLines_line hu).lines_append, hbefore, lines_append_break hu]
      rfl

/-- The longest run of characters of a class ends where a text without them goes on. -/
theorem takeWhile_append_of_boundary {p : Char → Bool} {name rest : Text} (hname : ∀ c ∈ name, p c = true)
    (hrest : ∀ c ∈ rest.head?, p c = false) :
    (name ++ rest).takeWhile p = name ∧ (name ++ rest).dropWhile p = rest := by
  rw [List.takeWhile_append_of_pos hname, List.dropWhile_append_of_pos hname]
  cases rest with
  | nil => simp
  | cons c rest => simp [hrest c (by simp)]

theorem takeWhile_run_append {c : Char} {rest : Text} (h : rest.head? ≠ some c) (n : Nat) :
    (List.replicate n c ++ rest).takeWhile (· == c) = List.replicate n c ∧
      (List.replicate n c ++ rest).dropWhile (· == c) = rest := by
  apply takeWhile_append_of_boundary
  · intro d hd
    simp [List.eq_of_mem_replicate hd]
  · intro d hd
    rw [beq_eq_false_iff_ne]
    rintro rfl
    exact h hd

/-- A text starts with a run of a character, which may be empty. -/
theorem exists_run_append (c : Char) (t : Text) :
    ∃ n rest, t = List.replicate n c ++ rest ∧ rest.head? ≠ some c := by
  induction t with
  | nil => exact ⟨0, [], rfl, by simp⟩
  | cons d t ih =>
    by_cases hd : d = c
    · obtain ⟨n, rest, rfl, hrest⟩ := ih
      exact ⟨n + 1, rest, by rw [hd, List.replicate_succ, List.cons_append], hrest⟩
    · exact ⟨0, d :: t, rfl, by simpa using hd⟩

theorem run_append_unique {c : Char} {m n : Nat} {s t : Text} (hs : s.head? ≠ some c)
    (ht : t.head? ≠ some c) (h : List.replicate m c ++ s = List.replicate n c ++ t) : m = n ∧ s = t := by
  obtain ⟨htakeS, hdropS⟩ := takeWhile_run_append hs m
  obtain ⟨htakeT, hdropT⟩ := takeWhile_run_append ht n
  rw [h, htakeT] at htakeS
  rw [h, hdropT] at hdropS
  exact ⟨by simpa using (congrArg List.length htakeS).symm, hdropS.symm⟩

/-- What a text starts with is on its first line if it has no line break. -/
theorem exists_append_of_no_break {p rest u v : Text} (hp : '\n' ∉ p) (h : p ++ rest = u ++ '\n' :: v) :
    ∃ more, u = p ++ more := by
  obtain ⟨more, hu, -⟩ | ⟨beyond, hp', hv⟩ := List.append_eq_append_iff.1 h
  · exact ⟨more, hu⟩
  · cases beyond with
    | nil => exact ⟨[], by simpa using hp'.symm⟩
    | cons c beyond =>
      obtain ⟨rfl, -⟩ : '\n' = c ∧ v = beyond ++ rest := by simpa using hv
      exact absurd (by simp [hp']) hp

theorem not_mem_takeWhile_ne (c : Char) (t : Text) : c ∉ t.takeWhile (· != c) := by
  intro hmem
  have hnot := List.all_eq_true.1 List.all_takeWhile c hmem
  simp at hnot

theorem break_not_mem_firstLine (t : Text) : '\n' ∉ firstLine t :=
  not_mem_takeWhile_ne '\n' t

theorem line_of_no_break {u : Text} (h : '\n' ∉ u) : firstLine u = u ∧ fromLineBreak u = [] := by
  have hline : ∀ c ∈ u, (c != '\n') = true := by
    intro c hc
    have hne : c ≠ '\n' := fun heq => h (heq ▸ hc)
    simpa using hne
  have hend : ∀ c ∈ ([] : Text).head?, (c != '\n') = false := by simp
  simpa [firstLine, fromLineBreak] using takeWhile_append_of_boundary hline hend

theorem line_append_break {u : Text} (h : '\n' ∉ u) (t : Text) :
    firstLine (u ++ '\n' :: t) = u ∧ fromLineBreak (u ++ '\n' :: t) = '\n' :: t := by
  apply takeWhile_append_of_boundary
  · intro c hc
    have hne : c ≠ '\n' := fun heq => h (heq ▸ hc)
    simpa using hne
  · simp

end ApiGuide.Text
