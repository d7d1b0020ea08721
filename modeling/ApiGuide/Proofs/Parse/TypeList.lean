import ApiGuide.Proofs.Parse.ParamText

/-!
What the type list of a parameter can hold.

The list is trimmed as a whole by white space of any kind, but around its pipes only blanks are
dropped. So a type is never empty and has no blank on either end; other white space stays where it
stands next to a pipe, as a line break does when the braces go over several lines.
-/

namespace ApiGuide

open Text Marker

namespace Text

/-- The first character that blanks on the ends leave is the first that is no blank. -/
theorem mem_head?_stripped_iff {t : Text} {c : Char} :
    c ∈ (dropEndWhile isBlank (skipBlanks t)).head? ↔
      isBlank c = false ∧ ∃ blanks rest, allBlank blanks ∧ t = blanks ++ c :: rest := by
  constructor
  · intro h
    have hc := head?_dropEndWhile h
    have hblank := List.head?_dropWhile_not isBlank t
    rw [← skipBlanks, Option.mem_def.1 hc] at hblank
    obtain ⟨rest, hrest⟩ := List.head?_eq_some_iff.1 hc
    exact ⟨hblank, indent t, rest, allBlank_indent t, by rw [← hrest, indent_append_skipBlanks]⟩
  · rintro ⟨hc, blanks, rest, hblanks, rfl⟩
    have hskip : skipBlanks (blanks ++ c :: rest) = c :: rest := by
      rw [skipBlanks_append hblanks, skipBlanks, List.dropWhile_cons_of_neg (by simp [hc])]
    have hne : dropEndWhile isBlank (c :: rest) ≠ [] := by
      intro hnil
      have hend := dropEndWhile_append_end isBlank (c :: rest)
      rw [hnil, List.nil_append] at hend
      have hmem : c ∈ (c :: rest).reverse.takeWhile isBlank := by
        rw [← List.mem_reverse, hend]
        exact List.mem_cons_self
      have hblank := List.all_eq_true.1 List.all_takeWhile c hmem
      rw [hc] at hblank
      cases hblank
    obtain ⟨d, more, hd⟩ := List.exists_cons_of_ne_nil hne
    have hhead : d ∈ (c :: rest).head? := head?_dropEndWhile (p := isBlank) (by simp [hd])
    obtain rfl : c = d := by simpa using hhead
    rw [hskip, hd]
    rfl

/-- The last character that blanks on the ends leave is the last that is no blank. -/
theorem mem_getLast?_stripped_iff {t : Text} {c : Char} :
    c ∈ (dropEndWhile isBlank (skipBlanks t)).getLast? ↔
      isBlank c = false ∧ ∃ rest blanks, allBlank blanks ∧ t = rest ++ c :: blanks := by
  constructor
  · intro h
    obtain ⟨rest, hrest⟩ := List.getLast?_eq_some_iff.1 h
    have hend := dropEndWhile_append_end isBlank (skipBlanks t)
    rw [hrest] at hend
    refine ⟨getLast?_dropEndWhile isBlank (skipBlanks t) c h, indent t ++ rest,
      ((skipBlanks t).reverse.takeWhile isBlank).reverse, ?_, ?_⟩
    · rw [allBlank, List.all_reverse]
      exact List.all_takeWhile
    · calc
        t = indent t ++ skipBlanks t := (indent_append_skipBlanks t).symm
        _ = indent t ++ (rest ++ [c] ++ ((skipBlanks t).reverse.takeWhile isBlank).reverse) := by rw [hend]
        _ = indent t ++ rest ++ c :: ((skipBlanks t).reverse.takeWhile isBlank).reverse := by simp
  · rintro ⟨hc, rest, blanks, hblanks, rfl⟩
    have hskip : skipBlanks (rest ++ c :: blanks) = skipBlanks rest ++ c :: blanks := by
      rw [skipBlanks, skipBlanks, List.dropWhile_append, List.dropWhile_cons_of_neg (by simp [hc])]
      split
      · next hempty => rw [List.isEmpty_iff.1 hempty, List.nil_append]
      · rfl
    have hdrop : dropEndWhile isBlank (skipBlanks rest ++ c :: blanks) = skipBlanks rest ++ [c] := by
      have hall : ∀ d ∈ blanks.reverse, isBlank d = true := fun d hd =>
        List.all_eq_true.1 hblanks d (List.mem_reverse.1 hd)
      rw [dropEndWhile, List.reverse_append, List.reverse_cons, List.append_assoc,
        List.dropWhile_append_of_pos hall, List.singleton_append,
        List.dropWhile_cons_of_neg (by simp [hc])]
      simp
    rw [hskip, hdrop]
    simp

/-- Blanks in front of a trimmed text would be gone, so a character that only blanks precede is its
    first. -/
theorem not_space_of_trim_front {t blanks rest : Text} {c : Char} (ht : trim t = blanks ++ c :: rest)
    (hblanks : allBlank blanks) : isWhitespace c = false := by
  obtain ⟨hfirst, -⟩ := trim_eq_self_iff.1 (trim_trim t)
  cases blanks with
  | nil => exact hfirst c (by simp [ht])
  | cons b blanks =>
    have hnot := hfirst b (by simp [ht])
    rw [isWhitespace_of_isBlank (List.all_eq_true.1 hblanks b (by simp))] at hnot
    cases hnot

theorem not_space_of_trim_end {t rest blanks : Text} {c : Char} (ht : trim t = rest ++ c :: blanks)
    (hblanks : allBlank blanks) : isWhitespace c = false := by
  obtain ⟨-, hlast⟩ := trim_eq_self_iff.1 (trim_trim t)
  obtain rfl | ⟨blanks, b, rfl⟩ := blanks.eq_nil_or_concat
  · exact hlast c (by simp [ht])
  · have hnot := hlast b (by simp [ht, List.getLast?_cons])
    rw [isWhitespace_of_isBlank (List.all_eq_true.1 hblanks b (by simp))] at hnot
    cases hnot

end Text

/-- The braces at the front of the text, after white space, hold `body`. -/
def InBraces (t body : Text) : Prop :=
  ∃ space rest, (∀ c ∈ space, isWhitespace c = true) ∧
    t = space ++ '\x7b' :: (body ++ '\x7d' :: rest) ∧ body ≠ [] ∧ '\x7d' ∉ body

/-- A pipe of the text has white space that is no blank next to it, on either side and possibly with
    blanks between. -/
def SpacedPipe (t : Text) : Prop :=
  ∃ before blanks c after, allBlank blanks ∧ isWhitespace c = true ∧ isBlank c = false ∧
    (t = before ++ '|' :: (blanks ++ c :: after) ∨ t = before ++ c :: (blanks ++ '|' :: after))

namespace Marker

theorem mem_typeList_iff {t type : Text} :
    type ∈ typeList t ↔
      type ≠ [] ∧ ∃ piece ∈ splitOn '|' (trim t), dropEndWhile isBlank (skipBlanks piece) = type := by
  simp [typeList, and_comm]

theorem pipe_not_mem_of_allBlank {blanks : Text} (h : allBlank blanks) : '|' ∉ blanks := by
  intro hmem
  have hblank := List.all_eq_true.1 h '|' hmem
  cases hblank

theorem exists_untrimmed {t piece : Text} {c : Char} (hpiece : piece ∈ splitOn '|' (trim t))
    (hc : c ∈ (dropEndWhile isBlank (skipBlanks piece)).head? ∨
      c ∈ (dropEndWhile isBlank (skipBlanks piece)).getLast?)
    (hspace : isWhitespace c = true) : ∃ type ∈ typeList t, trim type ≠ type := by
  refine ⟨_, mem_typeList_iff.2 ⟨?_, piece, hpiece, rfl⟩, ?_⟩
  · intro hnil
    rw [hnil] at hc
    simp at hc
  · intro htrim
    obtain ⟨hfirst, hlast⟩ := trim_eq_self_iff.1 htrim
    have hnot : isWhitespace c = false := hc.elim (hfirst c) (hlast c)
    rw [hspace] at hnot
    cases hnot

/-- White space that is no blank stays on the front of a type if a pipe and blanks come before it. -/
theorem exists_type_of_space_after {t before blanks after : Text} {c : Char}
    (ht : trim t = before ++ '|' :: (blanks ++ c :: after)) (hblanks : allBlank blanks)
    (hspace : isWhitespace c = true) (hc : isBlank c = false) : ∃ type ∈ typeList t, trim type ≠ type := by
  have hpipe : c ≠ '|' := by
    rintro rfl
    cases hspace
  have hpiece : blanks ++ c :: after.takeWhile (· != '|') ∈ splitOn '|' (trim t) := by
    refine mem_splitOn_iff.2 ⟨?_, before ++ ['|'], after.dropWhile (· != '|'), ?_, by simp, ?_⟩
    · simp [pipe_not_mem_of_allBlank hblanks, Ne.symm hpipe, not_mem_takeWhile_ne '|' after]
    · simp [ht]
    · intro d hd
      have hstop := List.head?_dropWhile_not (· != '|') after
      rw [Option.mem_def.1 hd] at hstop
      simpa using hstop
  have hhead := mem_head?_stripped_iff.2 ⟨hc, blanks, after.takeWhile (· != '|'), hblanks, rfl⟩
  exact exists_untrimmed hpiece (.inl hhead) hspace

/-- White space that is no blank stays on the end of a type if blanks and a pipe come after it. -/
theorem exists_type_of_space_before {t before blanks after : Text} {c : Char}
    (ht : trim t = before ++ c :: (blanks ++ '|' :: after)) (hblanks : allBlank blanks)
    (hspace : isWhitespace c = true) (hc : isBlank c = false) : ∃ type ∈ typeList t, trim type ≠ type := by
  have hpipe : c ≠ '|' := by
    rintro rfl
    cases hspace
  have hpiece : (before.reverse.takeWhile (· != '|')).reverse ++ c :: blanks ∈ splitOn '|' (trim t) := by
    refine mem_splitOn_iff.2 ⟨?_, dropEndWhile (· != '|') before, '|' :: after, ?_, ?_, by simp⟩
    · simp [pipe_not_mem_of_allBlank hblanks, Ne.symm hpipe, not_mem_takeWhile_ne '|' before.reverse]
    · rw [ht, List.append_assoc, ← List.append_assoc, dropEndWhile_append_end, List.cons_append]
    · intro d hd
      simpa using getLast?_dropEndWhile (· != '|') before d hd
  have hlast := mem_getLast?_stripped_iff.2
    ⟨hc, (before.reverse.takeWhile (· != '|')).reverse, blanks, hblanks, rfl⟩
  exact exists_untrimmed hpiece (.inr hlast) hspace

/-- The types are trimmed unless a pipe has white space next to it that is no blank. -/
theorem typeList_trimmed_iff {t : Text} :
    (∀ type ∈ typeList t, trim type = type) ↔ ¬ SpacedPipe (trim t) := by
  constructor
  · rintro hclean ⟨before, blanks, c, after, hblanks, hspace, hc, ht⟩
    obtain ⟨type, hmem, hnot⟩ : ∃ type ∈ typeList t, trim type ≠ type := by
      rcases ht with ht | ht
      · exact exists_type_of_space_after ht hblanks hspace hc
      · exact exists_type_of_space_before ht hblanks hspace hc
    exact hnot (hclean type hmem)
  · intro hpipes type hmem
    obtain ⟨-, piece, hpiece, rfl⟩ := mem_typeList_iff.1 hmem
    obtain ⟨-, before, after, ht, hbefore, hafter⟩ := mem_splitOn_iff.1 hpiece
    rw [trim_eq_self_iff]
    -- A piece ends as the trimmed list does, with no white space, or else at a pipe.
    constructor
    · intro c hhead
      obtain ⟨hc, blanks, rest, hblanks, rfl⟩ := mem_head?_stripped_iff.1 hhead
      obtain rfl | ⟨front, d, rfl⟩ := before.eq_nil_or_concat
      · exact not_space_of_trim_front (by simpa using ht) hblanks
      · obtain rfl : d = '|' := hbefore d (by simp)
        rw [← Bool.not_eq_true]
        intro hspace
        exact hpipes ⟨front, blanks, c, rest ++ after, hblanks, hspace, hc, .inl (by simp [ht])⟩
    · intro c hend
      obtain ⟨hc, rest, blanks, hblanks, rfl⟩ := mem_getLast?_stripped_iff.1 hend
      cases after with
      | nil =>
        have hlast : trim t = (before ++ rest) ++ c :: blanks := by simpa using ht
        exact not_space_of_trim_end hlast hblanks
      | cons d after =>
        obtain rfl : d = '|' := hafter d (by simp)
        rw [← Bool.not_eq_true]
        intro hspace
        exact hpipes ⟨before ++ rest, blanks, c, after, hblanks, hspace, hc, .inr (by simp [ht])⟩

/-- A type holds neither of the characters that divide types or end the list, and no blank on its
    ends. -/
theorem wellFormed_of_mem_typeList {t type : Text} (h : type ∈ typeList t) (hbrace : '\x7d' ∉ t) :
    type ≠ [] ∧ '|' ∉ type ∧ '\x7d' ∉ type ∧ (∀ c ∈ type.head?, isBlank c = false) ∧
      ∀ c ∈ type.getLast?, isBlank c = false := by
  obtain ⟨hne, piece, hpiece, rfl⟩ := mem_typeList_iff.1 h
  obtain ⟨hpipe, before, after, ht, -, -⟩ := mem_splitOn_iff.1 hpiece
  have hsublist := (dropEndWhile_sublist isBlank (skipBlanks piece)).trans (List.dropWhile_sublist isBlank)
  refine ⟨hne, fun hmem => hpipe (hsublist.mem hmem), fun hmem => hbrace (mem_of_mem_trim ?_),
    fun c hc => (mem_head?_stripped_iff.1 hc).1, fun c hc => (mem_getLast?_stripped_iff.1 hc).1⟩
  rw [ht]
  simp [hsublist.mem hmem]

theorem takeTypes_of_inBraces {t body : Text} (h : InBraces t body) :
    (takeTypes (trimStart t)).1 = typeList body := by
  obtain ⟨space, rest, hspace, rfl, hne, hbrace⟩ := h
  have htrim : trimStart (space ++ '\x7b' :: (body ++ '\x7d' :: rest)) =
      '\x7b' :: (body ++ '\x7d' :: rest) := by
    rw [trimStart, List.dropWhile_append_of_pos hspace]
    rfl
  rw [htrim, takeTypes_body hne hbrace]

/-- Without braces in front there are no types. -/
theorem takeTypes_cases (t : Text) :
    (∃ body, InBraces t body ∧ (takeTypes (trimStart t)).1 = typeList body) ∨
      (takeTypes (trimStart t)).1 = [] := by
  unfold takeTypes
  split
  · next inside hopen =>
    split
    · next c body rest hsplit =>
      refine .inl ⟨c :: body, ⟨t.takeWhile isWhitespace ++ indent (trimStart t), rest, ?_, ?_, by simp,
        not_mem_of_splitAt? hsplit⟩, rfl⟩
      · intro d hd
        rcases List.mem_append.1 hd with hspace | hblank
        · exact List.all_eq_true.1 List.all_takeWhile d hspace
        · exact isWhitespace_of_isBlank (List.all_eq_true.1 (allBlank_indent _) d hblank)
      · rw [← eq_append_of_splitAt? hsplit, ← hopen, List.append_assoc, indent_append_skipBlanks, trimStart,
          List.takeWhile_append_dropWhile]
    · exact .inr rfl
  · exact .inr rfl

end Marker

theorem ParamDoc.types_of_parse {group block : Text} {p : ParamDoc}
    (h : ParamDoc.parse group block = .ok p) : p.types = (takeTypes (trimStart group)).1 := by
  unfold ParamDoc.parse at h
  dsimp only at h
  split at h
  · cases h
  · cases h
    rfl

/-- The types of a parameter are not empty, hold neither a pipe nor a closing brace and have no blank
    on either end. They have no other white space there either, exactly if none stands next to a pipe
    of the trimmed list. -/
theorem ParamDoc.types_clean_of_parse {group block : Text} {p : ParamDoc}
    (h : ParamDoc.parse group block = .ok p) :
    (∀ type ∈ p.types, type ≠ [] ∧ '|' ∉ type ∧ '\x7d' ∉ type ∧ (∀ c ∈ type.head?, isBlank c = false) ∧
      ∀ c ∈ type.getLast?, isBlank c = false) ∧
    ((∀ type ∈ p.types, trim type = type) ↔ ¬ ∃ body, InBraces group body ∧ SpacedPipe (trim body)) := by
  rw [ParamDoc.types_of_parse h]
  obtain ⟨body, hbody, htypes⟩ | hnone := takeTypes_cases group
  · have hbrace : '\x7d' ∉ body := by
      obtain ⟨_, _, _, _, _, hbrace⟩ := hbody
      exact hbrace
    refine ⟨fun type htype => wellFormed_of_mem_typeList (htypes ▸ htype) hbrace, ?_⟩
    constructor
    · rintro hclean ⟨body', hbody', hpipe⟩
      rw [takeTypes_of_inBraces hbody'] at hclean
      exact typeList_trimmed_iff.1 hclean hpipe
    · intro hpipes
      rw [htypes]
      exact typeList_trimmed_iff.2 fun hpipe => hpipes ⟨body, hbody, hpipe⟩
  · rw [hnone]
    refine ⟨by simp, ?_⟩
    constructor
    · rintro - ⟨body, hbody, hpipe⟩
      have hempty := takeTypes_of_inBraces hbody
      rw [hnone] at hempty
      exact typeList_trimmed_iff.1 (by simp [← hempty]) hpipe
    · simp

/-- A list over two lines is clean as long as the line break stands on its end. -/
theorem ParamDoc.types_clean_breakOnEnd :
    let group := " \x7b String |\tNumber\n  \x7d size".toList
    let p : ParamDoc := ⟨"size".toList, false, none, ["String".toList, "Number".toList], []⟩
    ParamDoc.parse group [] = .ok p ∧ (∀ type ∈ p.types, type ≠ [] ∧ '|' ∉ type ∧ '\x7d' ∉ type) ∧
      ¬ ∃ body, InBraces group body ∧ SpacedPipe (trim body) := by
  intro group p
  have hparse : ParamDoc.parse group [] = .ok p := by decide +kernel
  have hclean : ∀ type ∈ p.types, trim type = type := by decide
  refine ⟨hparse, fun type htype => ?_, (ParamDoc.types_clean_of_parse hparse).2.1 hclean⟩
  obtain ⟨hne, hpipe, hbrace, -, -⟩ := (ParamDoc.types_clean_of_parse hparse).1 type htype
  exact ⟨hne, hpipe, hbrace⟩

/-- A line break after a pipe stays on the front of the type on the next line, in the group that a
    block gives. -/
theorem ParamDoc.types_breakAfterPipe :
    let block := "@param \x7bString|\n  Number\x7d size".toList
    let group := " \x7bString|\n  Number\x7d size".toList
    paramGroup? block = some (group, []) ∧
    ∃ p, ParamDoc.parse group block = .ok p ∧ ∃ type ∈ p.types, trim type ≠ type := by
  intro block group
  have hparse : ParamDoc.parse group block =
      .ok ⟨"size".toList, false, none, ["String".toList, "\n  Number".toList], []⟩ := by
    decide +kernel
  exact ⟨by decide +kernel, _, hparse, "\n  Number".toList, by simp, by decide⟩

end ApiGuide
