import ApiGuide.Text.Whitespace

/-!
Blanks and white space at the ends of a text.
-/

namespace ApiGuide.Text

theorem skipBlanks_append {blanks : Text} (h : allBlank blanks) (t : Text) :
    skipBlanks (blanks ++ t) = skipBlanks t :=
  List.dropWhile_append_of_pos (by simpa [allBlank] using h)

theorem indent_append {blanks : Text} (h : allBlank blanks) (t : Text) :
    indent (blanks ++ t) = blanks ++ indent t :=
  List.takeWhile_append_of_pos (by simpa [allBlank] using h)

theorem allBlank_append {blanks : Text} (h : allBlank blanks) (t : Text) :
    allBlank (blanks ++ t) = allBlank t := by
  rw [allBlank, List.all_append, ← allBlank, h, Bool.true_and, ← allBlank]

theorem indent_append_skipBlanks (t : Text) : indent t ++ skipBlanks t = t :=
  List.takeWhile_append_dropWhile

theorem allBlank_indent (t : Text) : allBlank (indent t) :=
  List.all_takeWhile

theorem break_not_mem_of_allBlank {blanks : Text} (h : allBlank blanks) : '\n' ∉ blanks := by
  intro hmem
  have hblank := List.all_eq_true.1 h '\n' hmem
  cases hblank

theorem isBlank_eq_false_of_isWhitespace {c : Char} (h : isWhitespace c = false) : isBlank c = false := by
  rw [← Bool.not_eq_true]
  intro hblank
  rw [isWhitespace_of_isBlank hblank] at h
  cases h

theorem ne_break_of_isWhitespace {c : Char} (h : isWhitespace c = false) : c ≠ '\n' := by
  rintro rfl
  have hbreak : isWhitespace '\n' = true := by decide
  rw [hbreak] at h
  cases h

theorem dropWhile_eq_self_iff_head? {p : Char → Bool} {t : Text} :
    t.dropWhile p = t ↔ ∀ c ∈ t.head?, p c = false := by
  cases t with
  | nil => simp
  | cons c t =>
    rw [List.dropWhile_cons]
    constructor
    · intro h d hd
      obtain rfl : c = d := by simpa using hd
      cases hp : p c with
      | false => rfl
      | true =>
        rw [if_pos hp] at h
        have hlength := congrArg List.length h
        have hle := (List.dropWhile_suffix (l := t) p).length_le
        rw [List.length_cons] at hlength
        omega
    · intro h
      rw [h c (by simp)]
      rfl

theorem dropEndWhile_eq_self_iff_getLast? {p : Char → Bool} {t : Text} :
    dropEndWhile p t = t ↔ ∀ c ∈ t.getLast?, p c = false := by
  rw [dropEndWhile, List.reverse_eq_iff, dropWhile_eq_self_iff_head?, List.head?_reverse]

/-- A text is trimmed when no white space stands on either end. -/
theorem trim_eq_self_iff {t : Text} :
    trim t = t ↔ (∀ c ∈ t.head?, isWhitespace c = false) ∧ ∀ c ∈ t.getLast?, isWhitespace c = false := by
  rw [← dropWhile_eq_self_iff_head?, ← dropEndWhile_eq_self_iff_getLast?]
  constructor
  · intro h
    have hend : (trim t).length ≤ (trimStart t).length := by
      have hle := (List.dropWhile_suffix (l := (trimStart t).reverse) isWhitespace).length_le
      simpa [trim, trimEnd, dropEndWhile] using hle
    have hstart : trimStart t = t := by
      apply (List.dropWhile_suffix (l := t) isWhitespace).eq_of_length_le
      rw [h] at hend
      exact hend
    refine ⟨hstart, ?_⟩
    rw [trim, hstart] at h
    exact h
  · rintro ⟨hstart, hend⟩
    rw [trim, trimStart, hstart]
    exact hend

/-- White space in front of a trimmed text is all that trimming takes away. -/
theorem trim_append_of_trimmed {space t : Text} (hspace : ∀ c ∈ space, isWhitespace c = true)
    (ht : trim t = t) : trim (space ++ t) = t := by
  rw [trim, trimStart, List.dropWhile_append_of_pos hspace]
  exact ht

theorem isWhitespace_head?_trimStart (t : Text) : ∀ c ∈ (trimStart t).head?, isWhitespace c = false := by
  intro c hc
  have hnot := List.head?_dropWhile_not isWhitespace t
  rw [← trimStart, Option.mem_def.1 hc] at hnot
  exact hnot

theorem dropEndWhile_append_end (p : Char → Bool) (t : Text) :
    dropEndWhile p t ++ (t.reverse.takeWhile p).reverse = t := by
  rw [dropEndWhile, ← List.reverse_append, List.takeWhile_append_dropWhile, List.reverse_reverse]

theorem getLast?_dropEndWhile (p : Char → Bool) (t : Text) :
    ∀ c ∈ (dropEndWhile p t).getLast?, p c = false := by
  intro c hc
  have hnot := List.head?_dropWhile_not p t.reverse
  rw [dropEndWhile, List.getLast?_reverse] at hc
  rw [Option.mem_def.1 hc] at hnot
  exact hnot

/-- What is dropped on the end leaves the first character alone, unless nothing is left. -/
theorem head?_dropEndWhile {p : Char → Bool} {t : Text} {c : Char} (h : c ∈ (dropEndWhile p t).head?) :
    c ∈ t.head? := by
  rw [← dropEndWhile_append_end p t, List.head?_append]
  exact Option.mem_def.2 (Option.or_eq_some_iff.2 (.inl h))

theorem dropEndWhile_sublist (p : Char → Bool) (t : Text) : (dropEndWhile p t).Sublist t := by
  have hsublist := List.sublist_append_left (dropEndWhile p t) (t.reverse.takeWhile p).reverse
  rwa [dropEndWhile_append_end] at hsublist

/-- Trimming takes characters away on the ends only. -/
theorem mem_of_mem_trim {c : Char} {t : Text} (h : c ∈ trim t) : c ∈ t := by
  have hstart : c ∈ trimStart t := (dropEndWhile_sublist isWhitespace (trimStart t)).mem h
  exact (List.dropWhile_sublist isWhitespace).mem hstart

theorem trim_eq_nil_iff {t : Text} : trim t = [] ↔ ∀ c ∈ t, isWhitespace c = true := by
  constructor
  · intro h
    have hend := dropEndWhile_append_end isWhitespace (trimStart t)
    rw [← trimEnd, ← trim, h, List.nil_append] at hend
    have hspace : ∀ c ∈ trimStart t, isWhitespace c = true := by
      intro c hc
      rw [← hend, List.mem_reverse] at hc
      exact List.all_eq_true.1 List.all_takeWhile c hc
    intro c hc
    rw [← List.takeWhile_append_dropWhile (p := isWhitespace) (l := t), List.mem_append] at hc
    exact hc.elim (List.all_eq_true.1 List.all_takeWhile c) (hspace c)
  · intro h
    have hstart : (t ++ []).dropWhile isWhitespace = [] := List.dropWhile_append_of_pos h
    rw [List.append_nil] at hstart
    rw [trim, trimStart, hstart]
    rfl

/-- White space around a trimmed text is all that trimming takes away. -/
theorem trim_between {before t after : Text} (hbefore : ∀ c ∈ before, isWhitespace c = true)
    (hafter : ∀ c ∈ after, isWhitespace c = true) (ht : trim t = t) : trim (before ++ (t ++ after)) = t := by
  cases t with
  | nil =>
    rw [trim_eq_nil_iff]
    intro c hc
    exact (List.mem_append.1 hc).elim (hbefore c) (hafter c)
  | cons c t =>
    obtain ⟨hfirst, hlast⟩ := trim_eq_self_iff.1 ht
    have hstart : trimStart (c :: t ++ after) = c :: t ++ after := dropWhile_eq_self_iff_head?.2 hfirst
    have hend : trimEnd (c :: t ++ after) = trimEnd (c :: t) := by
      rw [trimEnd, dropEndWhile, List.reverse_append, List.dropWhile_append_of_pos (by simpa using hafter),
        ← dropEndWhile, ← trimEnd]
    rw [trim, trimStart, List.dropWhile_append_of_pos hbefore, ← trimStart, hstart, hend]
    exact dropEndWhile_eq_self_iff_getLast?.2 hlast

/-- What was trimmed is trimmed. -/
@[simp]
theorem trim_trim (t : Text) : trim (trim t) = trim t := by
  rw [trim_eq_self_iff]
  refine ⟨?_, getLast?_dropEndWhile isWhitespace (trimStart t)⟩
  exact fun c hc => isWhitespace_head?_trimStart t c (head?_dropEndWhile hc)

end ApiGuide.Text
