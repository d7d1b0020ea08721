import ApiGuide.Proofs.Changelog.Heading

/-!
Every text has exactly one layout as a changelog, and its releases are the sections of that layout.

A layout is an introduction and sections, each with its heading and its body. The body of a section
is the introduction of what follows its heading, which is what the proofs go along.
-/

namespace ApiGuide.Changelog

open Text

/-- A release as it stands in a text. -/
@[ext]
structure Section where
  version : Text
  heading : Text
  body : Text

/-- The text is an introduction and then sections, a heading and a body each. Headings start lines,
    take all line breaks after their underline, and stand nowhere else. -/
structure LaidOut (t intro : Text) (parts : List Section) : Prop where
  text_eq : t = intro ++ parts.flatMap fun part => part.heading ++ part.body
  intro_whole : parts ≠ [] → WholeLines intro
  intro_free : ¬ HasHeading intro
  isHeading : ∀ part ∈ parts, IsHeading part.version part.heading
  body_start : ∀ part ∈ parts, part.body.head? ≠ some '\n'
  body_whole : ∀ part ∈ parts.dropLast, WholeLines part.body
  body_free : ∀ part ∈ parts, ¬ HasHeading part.body

/-- None of the lines starts a heading. -/
def NoHeadingIn (ls : List Text) : Prop :=
  ∀ tail, tail <:+ ls → headingVersion? tail = none

theorem not_hasHeading_iff {t : Text} : ¬ HasHeading t ↔ NoHeadingIn (lines t) := by
  simp only [hasHeading_iff, not_exists, not_and, NoHeadingIn, Option.eq_none_iff_forall_ne_some, ne_eq]
  exact ⟨fun h tail htail version => h tail version htail, fun h tail version htail => h tail htail version⟩

theorem noHeadingIn_cons {line : Text} {rest : List Text} :
    NoHeadingIn (line :: rest) ↔ headingVersion? (line :: rest) = none ∧ NoHeadingIn rest := by
  simp only [NoHeadingIn, List.suffix_cons_iff]
  constructor
  · intro h
    exact ⟨h _ (.inl rfl), fun tail htail => h tail (.inr htail)⟩
  · rintro ⟨hfirst, hrest⟩ tail (rfl | htail)
    · exact hfirst
    · exact hrest tail htail

theorem sections_of_heading {line next version : Text} {rest : List Text}
    (hversion : versionLine? line = some version) (hunder : isUnderline next = true) :
    sections (line :: next :: rest) =
      ([], (version, (sections rest).1.dropWhile (· == ['\n'])) :: (sections rest).2) := by
  rw [sections, hversion, hunder]

theorem sections_of_no_heading {line : Text} {rest : List Text}
    (h : headingVersion? (line :: rest) = none) :
    sections (line :: rest) = (line :: (sections rest).1, (sections rest).2) := by
  cases rest with
  | nil => rfl
  | cons next rest =>
    rw [headingVersion?] at h
    rw [sections]
    split
    · next hversion hunder =>
      rw [if_pos hunder, hversion] at h
      cases h
    · rfl

theorem sections_of_noHeadingIn {ls : List Text} (h : NoHeadingIn ls) : sections ls = (ls, []) := by
  induction ls with
  | nil => rfl
  | cons line rest ih =>
    obtain ⟨hfirst, hrest⟩ := noHeadingIn_cons.1 h
    rw [sections_of_no_heading hfirst, ih hrest]

/-- The lines before a heading go to the text before it: the version line underlines none of them. -/
theorem sections_append {before ls : List Text} {version : Text} (hbefore : NoHeadingIn before)
    (hls : headingVersion? ls = some version) : sections (before ++ ls) = (before, (sections ls).2) := by
  obtain ⟨first, next, rest, rfl, hversion, hunder⟩ := headingVersion?_eq_some_iff.1 hls
  induction before with
  | nil =>
    rw [List.nil_append, sections_of_heading hversion hunder]
  | cons line before ih =>
    obtain ⟨hline, hbefore⟩ := noHeadingIn_cons.1 hbefore
    have hline' : headingVersion? (line :: (before ++ first :: next :: rest)) = none := by
      cases before with
      | nil =>
        rw [List.nil_append, headingVersion?, isUnderline_eq_false_of_versionLine? hversion]
        rfl
      | cons second before => exact hline
    rw [List.cons_append, sections_of_no_heading hline', ih hbefore]

theorem sections_breaks_append (n : Nat) (ls : List Text) :
    sections (List.replicate n ['\n'] ++ ls) = (List.replicate n ['\n'] ++ (sections ls).1, (sections ls).2) := by
  induction n with
  | zero => rfl
  | succ n ih =>
    have hbreak : versionLine? ['\n'] = none := by decide
    have hnone : headingVersion? (['\n'] :: (List.replicate n ['\n'] ++ ls)) = none := by
      cases List.replicate n ['\n'] ++ ls with
      | nil => rfl
      | cons next rest => simp [headingVersion?, hbreak]
    rw [List.replicate_succ, List.cons_append, sections_of_no_heading hnone, ih]
    rfl

theorem dropWhile_breaks_append {body : Text} (h : body.head? ≠ some '\n') (n : Nat) :
    (List.replicate n ['\n'] ++ lines body).dropWhile (· == ['\n']) = lines body := by
  have hbreaks : ∀ line ∈ List.replicate n ['\n'], (line == ['\n']) = true := by
    intro line hline
    simp [List.eq_of_mem_replicate hline]
  rw [List.dropWhile_append_of_pos hbreaks]
  cases hlines : lines body with
  | nil => rfl
  | cons line rest =>
    have hline : line ≠ ['\n'] := by
      rintro rfl
      have hbody := lines_flatten body
      rw [hlines] at hbody
      simp [← hbody] at h
    simp [hline]

theorem laidOut_nil {t intro : Text} : LaidOut t intro [] ↔ t = intro ∧ ¬ HasHeading intro := by
  constructor
  · intro h
    exact ⟨by simpa using h.text_eq, h.intro_free⟩
  · rintro ⟨rfl, hfree⟩
    constructor <;> simp [hfree]

/-- What follows the first heading is laid out with the body of that heading as its introduction. -/
theorem laidOut_cons {t intro : Text} {part : Section} {parts : List Section} :
    LaidOut t intro (part :: parts) ↔
      ∃ rest, t = intro ++ part.heading ++ rest ∧ WholeLines intro ∧ ¬ HasHeading intro ∧
        IsHeading part.version part.heading ∧ part.body.head? ≠ some '\n' ∧
        LaidOut rest part.body parts := by
  constructor
  · intro h
    refine ⟨_, ?_, h.intro_whole (by simp), h.intro_free, h.isHeading part (by simp),
      h.body_start part (by simp), ⟨rfl, ?_, h.body_free part (by simp), ?_, ?_, ?_, ?_⟩⟩
    · rw [h.text_eq]
      simp
    · intro hne
      apply h.body_whole part
      rw [List.dropLast_cons_of_ne_nil hne]
      simp
    · exact fun p hp => h.isHeading p (by simp [hp])
    · exact fun p hp => h.body_start p (by simp [hp])
    · intro p hp
      apply h.body_whole p
      rw [List.dropLast_cons_of_ne_nil (by rintro rfl; simp at hp)]
      simp [hp]
    · exact fun p hp => h.body_free p (by simp [hp])
  · rintro ⟨rest, rfl, hwhole, hfree, hheading, hstart, hrest⟩
    refine ⟨?_, fun _ => hwhole, hfree, ?_, ?_, ?_, ?_⟩
    · rw [hrest.text_eq]
      simp
    · exact List.forall_mem_cons.2 ⟨hheading, hrest.isHeading⟩
    · exact List.forall_mem_cons.2 ⟨hstart, hrest.body_start⟩
    · cases parts with
      | nil => simp
      | cons next parts => exact List.forall_mem_cons.2 ⟨hrest.intro_whole (by simp), hrest.body_whole⟩
    · exact List.forall_mem_cons.2 ⟨hrest.intro_free, hrest.body_free⟩

/-- The reader finds the introduction and the sections of any layout. -/
theorem LaidOut.sections_eq {t intro : Text} {parts : List Section} (h : LaidOut t intro parts) :
    sections (lines t) = (lines intro, parts.map fun part => (part.version, lines part.body)) := by
  induction parts generalizing t intro with
  | nil =>
    obtain ⟨rfl, hfree⟩ := laidOut_nil.1 h
    exact sections_of_noHeadingIn (not_hasHeading_iff.1 hfree)
  | cons part parts ih =>
    obtain ⟨rest, rfl, hwhole, hfree, hheading, hstart, hrest⟩ := laidOut_cons.1 h
    obtain ⟨line, next, n, hversion, hunder, hlines⟩ := hheading.lines_append rest
    have hlater : headingVersion? (line :: next :: (List.replicate n ['\n'] ++ lines rest)) = some part.version :=
      headingVersion?_eq_some_iff.2 ⟨line, next, _, rfl, hversion, hunder⟩
    rw [List.append_assoc, hwhole.lines_append, hlines, sections_append (not_hasHeading_iff.1 hfree) hlater,
      sections_of_heading hversion hunder, sections_breaks_append, ih hrest, dropWhile_breaks_append hstart,
      List.map_cons]

/-- A heading ends where no line break follows. -/
theorem IsHeading.unique {version heading heading' rest rest' : Text} (h : IsHeading version heading)
    (h' : IsHeading version heading') (hrest : rest.head? ≠ some '\n') (hrest' : rest'.head? ≠ some '\n')
    (heq : heading ++ rest = heading' ++ rest') : heading = heading' ∧ rest = rest' := by
  obtain ⟨-, m, n, rfl⟩ := h
  obtain ⟨-, m', n', rfl⟩ := h'
  simp only [List.append_assoc, List.append_cancel_left_eq] at heq
  have hbreak (k : Nat) (t : Text) : (List.replicate (k + 1) '\n' ++ t).head? ≠ some '-' := by
    simp [List.replicate_succ]
  obtain ⟨hm, heq⟩ := run_append_unique (hbreak n rest) (hbreak n' rest') heq
  obtain ⟨hn, rfl⟩ := run_append_unique hrest hrest' heq
  exact ⟨by rw [hm, hn], rfl⟩

theorem LaidOut.head?_ne_break {t intro : Text} {parts : List Section} (h : LaidOut t intro parts)
    (hintro : intro.head? ≠ some '\n') : t.head? ≠ some '\n' := by
  cases intro with
  | cons c intro =>
    rw [h.text_eq]
    simpa using hintro
  | nil =>
    cases parts with
    | nil =>
      obtain ⟨rfl, -⟩ := laidOut_nil.1 h
      simp
    | cons part parts =>
      obtain ⟨rest, rfl, -, -, ⟨hversion, m, n, hheading⟩, -⟩ := laidOut_cons.1 h
      obtain ⟨c, version, hcons, hdigit⟩ := hversion.exists_cons
      have hne : c ≠ '\n' := by
        rintro rfl
        have hbreak : isDecimalDigit '\n' = false := by decide
        rw [hbreak] at hdigit
        cases hdigit
      simpa [hheading, hcons] using hne

theorem LaidOut.unique {t intro intro' : Text} {parts parts' : List Section} (h : LaidOut t intro parts)
    (h' : LaidOut t intro' parts') : intro = intro' ∧ parts = parts' := by
  induction parts generalizing t intro intro' parts' with
  | nil =>
    obtain ⟨hintro, hparts⟩ := Prod.mk.inj (h.sections_eq.symm.trans h'.sections_eq)
    exact ⟨lines_injective hintro, by simpa using hparts.symm⟩
  | cons part parts ih =>
    obtain ⟨hintro, hparts⟩ := Prod.mk.inj (h.sections_eq.symm.trans h'.sections_eq)
    obtain rfl := lines_injective hintro
    cases parts' with
    | nil => simp at hparts
    | cons part' parts' =>
      have hversion : part.version = part'.version := by
        simp only [List.map_cons, List.cons.injEq, Prod.mk.injEq] at hparts
        exact hparts.1.1
      obtain ⟨rest, rfl, -, -, hheading, hstart, hrest⟩ := laidOut_cons.1 h
      obtain ⟨rest', htext, -, -, hheading', hstart', hrest'⟩ := laidOut_cons.1 h'
      rw [List.append_assoc, List.append_assoc, List.append_cancel_left_eq] at htext
      rw [hversion] at hheading
      obtain ⟨hheadings, rfl⟩ := hheading.unique hheading' (hrest.head?_ne_break hstart)
        (hrest'.head?_ne_break hstart') htext
      obtain ⟨hbody, rfl⟩ := ih hrest hrest'
      exact ⟨rfl, by rw [Section.ext hversion hheadings hbody]⟩

theorem exists_first_heading (ls : List Text) :
    NoHeadingIn ls ∨ ∃ before tail version, ls = before ++ tail ∧ NoHeadingIn before ∧
      headingVersion? tail = some version := by
  induction ls with
  | nil =>
    refine .inl fun tail htail => ?_
    rw [List.suffix_nil.1 htail]
    rfl
  | cons line rest ih =>
    cases hline : headingVersion? (line :: rest) with
    | some version =>
      refine .inr ⟨[], line :: rest, version, rfl, fun tail htail => ?_, hline⟩
      rw [List.suffix_nil.1 htail]
      rfl
    | none =>
      obtain hnone | ⟨before, tail, version, rfl, hbefore, htail⟩ := ih
      · exact .inl (noHeadingIn_cons.2 ⟨hline, hnone⟩)
      · refine .inr ⟨line :: before, tail, version, rfl, noHeadingIn_cons.2 ⟨?_, hbefore⟩, htail⟩
        cases before with
        | nil => rfl
        | cons next before => exact hline

theorem exists_laidOut (t : Text) : ∃ intro parts, LaidOut t intro parts := by
  obtain hnone | ⟨before, tail, version, hlines, hbefore, htail⟩ := exists_first_heading (lines t)
  · exact ⟨t, [], laidOut_nil.2 ⟨rfl, not_hasHeading_iff.2 hnone⟩⟩
  · obtain ⟨line, next, after, rfl, hversion, hunder⟩ := headingVersion?_eq_some_iff.1 htail
    obtain ⟨ht, hwhole, hbeforeLines, -, -⟩ := lines_eq_append_cons hlines
    obtain ⟨hversion', rfl⟩ := versionLine?_eq_some_iff.1 hversion
    obtain ⟨m, rfl⟩ := isUnderline_iff.1 hunder
    -- The heading takes all line breaks that follow, so the body starts with none.
    obtain ⟨n, rest, hafter, hrest⟩ := exists_run_append '\n' after.flatten
    have htext : t = before.flatten ++
        (version ++ ['\n'] ++ List.replicate (m + 1) '-' ++ List.replicate (n + 1) '\n') ++ rest := by
      simp [ht, hafter, List.replicate_succ]
    have hshorter : rest.length < t.length := by
      rw [htext]
      simp only [List.length_append, List.length_replicate]
      omega
    obtain ⟨body, parts, hlayout⟩ := exists_laidOut rest
    refine ⟨before.flatten, ⟨version, _, body⟩ :: parts, laidOut_cons.2
      ⟨rest, htext, hwhole, ?_, ⟨hversion', m, n, rfl⟩, ?_, hlayout⟩⟩
    · rw [not_hasHeading_iff, hbeforeLines]
      exact hbefore
    · intro hbody
      apply hrest
      rw [hlayout.text_eq, List.head?_append, hbody]
      rfl
termination_by t.length

/-- A text without its carriage returns has exactly one layout, and the releases are its sections in
    order, with versions and bodies as they stand there and no date looked for. -/
theorem parse_eq_unique_layout (t : Text) :
    ∃ intro parts, LaidOut (t.filter (· != '\r')) intro parts ∧
      parse t = parts.map (fun part => ⟨part.version, part.body, none⟩) ∧
      ∀ intro' parts', LaidOut (t.filter (· != '\r')) intro' parts' → intro' = intro ∧ parts' = parts := by
  obtain ⟨intro, parts, hlayout⟩ := exists_laidOut (t.filter (· != '\r'))
  refine ⟨intro, parts, hlayout, ?_, fun intro' parts' h => h.unique hlayout⟩
  rw [parse, hlayout.sections_eq, List.map_map]
  simp

example : parse "Changes\r\n\r\n1.2.3\r\n-----\r\n\r\nFixes.\r\n1.2.2\r\n-\r\n".toList =
    [⟨"1.2.3".toList, "Fixes.\n".toList, none⟩, ⟨"1.2.2".toList, [], none⟩] := by
  decide +kernel

end ApiGuide.Changelog
