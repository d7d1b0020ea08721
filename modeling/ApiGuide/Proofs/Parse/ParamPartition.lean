import ApiGuide.Proofs.Parse.ParamLoop
import Mathlib.Data.List.TakeWhile

/-!
Taking parameter groups out of a text one by one gives what a single pass over its lines gives.

Each cut puts lines next to each other that were apart, and the next group is looked for from the top
again. The lines that stand before a cut open no group, whatever follows them now, so the search comes
to the line after the cut as if the group had never been there.
-/

namespace ApiGuide

open Text Marker

namespace Marker

/-- A line continues a group: it has the indent of the group and then a blank. -/
def ContinuesGroup (groupIndent line : Text) : Prop :=
  ∃ c rest, line = groupIndent ++ c :: rest ∧ isBlank c = true

/-- One pass over lines from the top. A line that opens a group takes all lines right after it that
    continue the group, and the text of the group is what follows the keyword and then those lines; any
    other line stays outside. -/
inductive Partition : (ls groups outside : List Text) → Prop
  | nil : Partition [] [] []
  | outside {line : Text} {rest groups outside : List Text}
      (hline : ¬ IsParamLine (firstLine line))
      (hrest : Partition rest groups outside) : Partition (line :: rest) groups (line :: outside)
  | group {line groupIndent spec : Text} {deeper rest groups outside : List Text}
      (hline : OpensGroup groupIndent spec (firstLine line))
      (hdeeper : ∀ l ∈ deeper, ContinuesGroup groupIndent (firstLine l))
      (hend : ∀ l ∈ rest.head?, ¬ ContinuesGroup groupIndent (firstLine l))
      (hrest : Partition rest groups outside) :
      Partition (line :: deeper ++ rest) (joinWith ['\n'] (spec :: deeper.map firstLine) :: groups) outside

/-- Cutting the first group out, again and again, until there is none. -/
inductive TakesGroups : (t : Text) → (groups : List Text) → (rest : Text) → Prop
  | done {t : Text} (h : paramGroup? t = none) : TakesGroups t [] t
  | take {t group outside rest : Text} {groups : List Text} (h : paramGroup? t = some (group, outside))
      (hrest : TakesGroups outside groups rest) : TakesGroups t (group :: groups) rest

/-- The break of a line does not matter to whether it continues a group. -/
theorem continuesGroup_iff {groupIndent line : Text} (h : allBlank groupIndent = true) :
    continuesGroup groupIndent line = true ↔ ContinuesGroup groupIndent (firstLine line) := by
  have hbreak := break_not_mem_of_allBlank h
  rw [continuesGroup]
  constructor
  · intro hcontinues
    split at hcontinues
    · next c rest hafter =>
      have hc : c ≠ '\n' := by
        rintro rfl
        cases hcontinues
      have hindent : ∀ d ∈ groupIndent, (d != '\n') = true := by
        intro d hd
        have hne : d ≠ '\n' := fun heq => hbreak (heq ▸ hd)
        simpa using hne
      refine ⟨c, firstLine rest, ?_, hcontinues⟩
      rw [eq_append_of_after? hafter, firstLine, List.takeWhile_append_of_pos hindent,
        List.takeWhile_cons_of_pos (by simpa using hc), ← firstLine]
    · cases hcontinues
  · rintro ⟨c, rest, hline, hc⟩
    rw [← firstLine_append_fromLineBreak line, hline, List.append_assoc, after?_append]
    exact hc

end Marker

/-- Lines after a cut between lines are still the lines of their text. -/
theorem lines_flatten_of_append {t : Text} {before after : List Text} (h : lines t = before ++ after) :
    lines after.flatten = after := by
  rcases List.eq_nil_or_concat' before with rfl | ⟨front, last, rfl⟩
  · rw [List.nil_append] at h
    rw [← h, lines_flatten]
  · rw [List.append_assoc] at h
    obtain ⟨-, -, -, hafter, -⟩ := lines_eq_append_cons h
    exact hafter

/-- Lines that were apart are lines again when what stood between them is cut out. -/
theorem lines_flatten_of_cut {t line : Text} {before deeper rest : List Text}
    (h : lines t = before ++ line :: (deeper ++ rest)) : lines (before ++ rest).flatten = before ++ rest := by
  obtain ⟨-, hwhole, hbefore, -⟩ := lines_eq_append_cons h
  have hsplit : lines t = (before ++ line :: deeper) ++ rest := by rw [h]; simp
  rw [List.flatten_append, hwhole.lines_append, hbefore, lines_flatten_of_append hsplit]

namespace Marker

theorem groupOfLines?_of_opensGroup {line groupIndent spec : Text} {deeper rest : List Text}
    (hline : OpensGroup groupIndent spec (firstLine line))
    (hdeeper : ∀ l ∈ deeper, ContinuesGroup groupIndent (firstLine l))
    (hend : ∀ l ∈ rest.head?, ¬ ContinuesGroup groupIndent (firstLine l)) :
    groupOfLines? (line :: (deeper ++ rest)) =
      some (joinWith ['\n'] (spec :: deeper.map firstLine), rest.flatten) := by
  have hpos : ∀ l ∈ deeper, continuesGroup groupIndent l = true := fun l hl =>
    (continuesGroup_iff hline.indent_blank).2 (hdeeper l hl)
  have hneg : rest.takeWhile (continuesGroup groupIndent) = [] ∧
      rest.dropWhile (continuesGroup groupIndent) = rest := by
    cases rest with
    | nil => exact ⟨rfl, rfl⟩
    | cons l rest =>
      have hl : ¬ continuesGroup groupIndent l = true := fun hcontinues =>
        hend l (by simp) ((continuesGroup_iff hline.indent_blank).1 hcontinues)
      exact ⟨List.takeWhile_cons_of_neg hl, List.dropWhile_cons_of_neg hl⟩
  rw [groupOfLines?, opensGroup?_eq_some_iff.2 hline]
  simp only [List.takeWhile_append_of_pos hpos, List.dropWhile_append_of_pos hpos, hneg.1, hneg.2,
    List.append_nil]

theorem exists_partition (ls : List Text) : ∃ groups outside, Partition ls groups outside := by
  cases ls with
  | nil => exact ⟨[], [], .nil⟩
  | cons line rest =>
    cases hopen : opensGroup? (firstLine line) with
    | none =>
      obtain ⟨groups, outside, hrest⟩ := exists_partition rest
      exact ⟨groups, line :: outside, .outside (opensGroup?_eq_none_iff.1 hopen) hrest⟩
    | some found =>
      obtain ⟨groupIndent, spec⟩ := found
      have hline := opensGroup?_eq_some_iff.1 hopen
      have hiff (l : Text) : continuesGroup groupIndent l = true ↔ ContinuesGroup groupIndent (firstLine l) :=
        continuesGroup_iff hline.indent_blank
      have hlength := (List.dropWhile_suffix (l := rest) (continuesGroup groupIndent)).length_le
      obtain ⟨groups, outside, hrest⟩ := exists_partition (rest.dropWhile (continuesGroup groupIndent))
      have hdeeper : ∀ l ∈ rest.takeWhile (continuesGroup groupIndent),
          ContinuesGroup groupIndent (firstLine l) := fun l hl =>
        (hiff l).1 (List.all_eq_true.1 List.all_takeWhile l hl)
      have hend : ∀ l ∈ (rest.dropWhile (continuesGroup groupIndent)).head?,
          ¬ ContinuesGroup groupIndent (firstLine l) := by
        intro l hl hcontinues
        have hstop := List.head?_dropWhile_not (continuesGroup groupIndent) rest
        rw [Option.mem_def.1 hl] at hstop
        dsimp only at hstop
        rw [(hiff l).2 hcontinues] at hstop
        cases hstop
      have hall := Partition.group hline hdeeper hend hrest
      rw [List.cons_append, List.takeWhile_append_dropWhile] at hall
      exact ⟨_, outside, hall⟩
termination_by ls.length
decreasing_by
  · simp
  · simp only [List.length_cons]
    omega

/-- The groups of the pass are cut out in order. `before` holds the lines that the pass has left behind
    outside of groups. -/
theorem Partition.takesGroups {ls groups outside : List Text} (h : Partition ls groups outside) {t : Text}
    {before : List Text} (hbefore : ∀ line ∈ before, opensGroup? (firstLine line) = none)
    (ht : lines t = before ++ ls) : TakesGroups t groups (before ++ outside).flatten := by
  induction h generalizing t before with
  | nil =>
    rw [List.append_nil] at ht ⊢
    have hnone : paramGroup? t = none := by
      rw [paramGroup?, ht, groupOfLines?_eq_none_iff]
      exact hbefore
    rw [← ht, lines_flatten]
    exact .done hnone
  | @outside line rest groups outside hline _ ih =>
    have hnone := opensGroup?_eq_none_iff.2 hline
    have hmoved : ∀ l ∈ before ++ [line], opensGroup? (firstLine l) = none := by
      intro l hl
      rcases List.mem_append.1 hl with hold | hnew
      · exact hbefore l hold
      · obtain rfl := List.mem_singleton.1 hnew
        exact hnone
    simpa using ih hmoved (by simpa using ht)
  | @group line groupIndent spec deeper rest groups outside hline hdeeper hend _ ih =>
    have hfirst : paramGroup? t =
        some (joinWith ['\n'] (spec :: deeper.map firstLine), (before ++ rest).flatten) := by
      rw [paramGroup?, ht, groupOfLines?_append hbefore, List.cons_append,
        groupOfLines?_of_opensGroup hline hdeeper hend, List.flatten_append]
      rfl
    exact .take hfirst (ih hbefore (lines_flatten_of_cut ht))

theorem TakesGroups.unique {t rest rest' : Text} {groups groups' : List Text} (h : TakesGroups t groups rest)
    (h' : TakesGroups t groups' rest') : groups' = groups ∧ rest' = rest := by
  induction h generalizing groups' rest' with
  | done hnone =>
    cases h' with
    | done _ => exact ⟨rfl, rfl⟩
    | take hsome _ => simp [hnone] at hsome
  | take hsome _ ih =>
    cases h' with
    | done hnone => simp [hnone] at hsome
    | take hsome' hrest' =>
      rw [hsome] at hsome'
      cases hsome'
      obtain ⟨rfl, rfl⟩ := ih hrest'
      exact ⟨rfl, rfl⟩

theorem takesGroups_iff {t : Text} {groups outside : List Text} (h : Partition (lines t) groups outside)
    {groups' : List Text} {rest : Text} :
    TakesGroups t groups' rest ↔ groups' = groups ∧ rest = outside.flatten := by
  have htakes : TakesGroups t groups ([] ++ outside).flatten := h.takesGroups (by simp) rfl
  constructor
  · exact htakes.unique
  · rintro ⟨rfl, rfl⟩
    exact htakes

end Marker

namespace ParamDoc

/-- A group that is refused is shown trimmed, together with its block. -/
theorem parse_eq_error {group block : Text} (h : ∀ p, ParamDoc.parse group block ≠ .ok p) :
    ParamDoc.parse group block = .error (.invalidParam (trim group) block) := by
  have htrim : trim (trimStart group) = trim group := by
    have hstart : trimStart (trimStart group) = trimStart group :=
      dropWhile_eq_self_iff_head?.2 (isWhitespace_head?_trimStart group)
    rw [trim, hstart, ← trim]
  cases hparse : ParamDoc.parse group block with
  | ok p => exact absurd hparse (h p)
  | error e =>
    unfold ParamDoc.parse at hparse
    dsimp only at hparse
    split at hparse
    · cases hparse
      rw [htrim]
    · cases hparse

theorem parseAll_of_error {t group outside block : Text} {e : ParseError}
    (hgroup : paramGroup? t = some (group, outside)) (hparse : ParamDoc.parse group block = .error e) :
    parseAll block t = .error e := by
  rw [parseAll]
  split
  · next hnone => simp [hgroup] at hnone
  · next hsome =>
    rw [hgroup] at hsome
    cases hsome
    rw [hparse]

/-- The loop reads a parameter from each group. -/
theorem parseAll_of_takesGroups {t rest block : Text} {groups : List Text} (h : TakesGroups t groups rest)
    {params : List ParamDoc} (hparams : List.Forall₂ (fun group p => ParamDoc.parse group block = .ok p) groups params) :
    parseAll block t = .ok (params, rest) := by
  induction h generalizing params with
  | done hnone =>
    cases hparams
    exact parseAll_of_none hnone block
  | take hgroup _ ih =>
    cases hparams with
    | cons hparse hparams =>
      rw [parseAll_of_some hgroup hparse, ih hparams]
      rfl

/-- The loop ends at the first group that is refused. -/
theorem parseAll_of_takesGroups_error {t rest block : Text} {before after : List Text} {group : Text}
    (h : TakesGroups t (before ++ group :: after) rest)
    (hbefore : ∀ g ∈ before, ∃ p, ParamDoc.parse g block = .ok p) {e : ParseError}
    (hparse : ParamDoc.parse group block = .error e) : parseAll block t = .error e := by
  induction before generalizing t with
  | nil =>
    cases h with
    | take hgroup _ => exact parseAll_of_error hgroup hparse
  | cons g before ih =>
    cases h with
    | take hgroup hrest =>
      obtain ⟨p, hp⟩ := hbefore g (by simp)
      rw [parseAll_of_some hgroup hp, ih hrest fun g' hg' => hbefore g' (by simp [hg'])]
      rfl

end ParamDoc

namespace FunctionDoc

/-- Every text has a partition into groups and lines outside. Cutting groups out of it comes to an end,
    with exactly these groups in order and the text of the lines outside. The parameters of a function
    are therefore read from the groups of what its name and visibility leave of the block: all of them in
    order, or else the first that is refused is reported, trimmed and with the whole block. -/
theorem params_follow_partition :
    (∀ t, ∃ groups outside, Partition (lines t) groups outside) ∧
    (∀ t groups outside, Partition (lines t) groups outside →
      ∀ groups' rest, TakesGroups t groups' rest ↔ groups' = groups ∧ rest = outside.flatten) ∧
    ∀ block name rest groups outside, functionName? block = some (name, rest) →
      Partition (lines (takeVisibility rest).2) groups outside →
      (∀ params, List.Forall₂ (fun group p => ParamDoc.parse group block = .ok p) groups params →
        FunctionDoc.parse? block = .ok (some
          { name, visibility := (takeVisibility rest).1, params, ujs := (takeUjs outside.flatten).1,
            prose := (takeUjs outside.flatten).2 })) ∧
      ∀ before group after, groups = before ++ group :: after →
        (∀ g ∈ before, ∃ p, ParamDoc.parse g block = .ok p) → (∀ p, ParamDoc.parse group block ≠ .ok p) →
        FunctionDoc.parse? block = .error (.invalidParam (trim group) block) := by
  refine ⟨fun t => exists_partition (lines t), fun t groups outside h groups' rest => takesGroups_iff h, ?_⟩
  intro block name rest groups outside hname hpartition
  have htakes : TakesGroups (takeVisibility rest).2 groups outside.flatten :=
    (takesGroups_iff hpartition).2 ⟨rfl, rfl⟩
  constructor
  · intro params hparams
    rw [FunctionDoc.parse?, hname]
    simp only [ParamDoc.parseAll_of_takesGroups htakes hparams]
  · rintro before group after rfl hbefore hrefused
    rw [FunctionDoc.parse?, hname]
    simp only [ParamDoc.parseAll_of_takesGroups_error htakes hbefore (ParamDoc.parse_eq_error hrefused)]

/-- A parameter with another marker in its prose, and right below it a last one. -/
def nestedMarkers (last : String) : Text :=
  "@method up.visit\n  @param url\n    @param inside\n@param ".toList ++ last.toList

theorem partition_nestedMarkers (last : String) (h : '\n' ∉ last.toList) :
    Partition (lines ("\n  @param url\n    @param inside\n@param ".toList ++ last.toList))
      [" url\n    @param inside".toList, ' ' :: last.toList] [['\n']] := by
  have hlines : lines ("\n  @param url\n    @param inside\n@param ".toList ++ last.toList) =
      [['\n'], "  @param url\n".toList] ++ ["    @param inside\n".toList] ++ lines ("@param ".toList ++ last.toList) := by
    rfl
  have hlast : lines ("@param ".toList ++ last.toList) = ["@param ".toList ++ last.toList] :=
    lines_of_no_break (by simpa using h) (by simp)
  have hfirst : firstLine ("@param ".toList ++ last.toList) = [] ++ "@param".toList ++ ' ' :: last.toList := by
    apply List.takeWhile_eq_self_iff.2
    intro c hc
    have hne : c ≠ '\n' := by
      rintro rfl
      simp [h] at hc
    simpa using hne
  have hopen : OpensGroup "  ".toList " url".toList (firstLine "  @param url\n".toList) :=
    opensGroup?_eq_some_iff.1 rfl
  have hinside : ContinuesGroup "  ".toList (firstLine "    @param inside\n".toList) :=
    (continuesGroup_iff rfl).1 rfl
  have hleft : ¬ ContinuesGroup "  ".toList (firstLine ("@param ".toList ++ last.toList)) := by
    rw [← continuesGroup_iff rfl]
    exact Bool.false_ne_true
  have hopenLast : OpensGroup [] (' ' :: last.toList) (firstLine ("@param ".toList ++ last.toList)) :=
    ⟨hfirst, rfl, by simp [isBlank]⟩
  have hlastGroup : Partition ["@param ".toList ++ last.toList] [' ' :: last.toList] [] := by
    have hsingle : joinWith ['\n'] [' ' :: last.toList] = ' ' :: last.toList := by simp [joinWith]
    have hgroup := Partition.group hopenLast (List.forall_mem_nil _) (by simp) .nil
    rwa [List.map_nil, hsingle] at hgroup
  have hgroup := Partition.group hopen (List.forall_mem_singleton.2 hinside) (by simpa using hleft) hlastGroup
  rw [hlines, hlast]
  exact .outside (opensGroup?_eq_none_iff.1 rfl) hgroup

theorem params_follow_nestedMarkers :
    TakesGroups "\n  @param url\n    @param inside\n@param [mode=x]".toList
      [" url\n    @param inside".toList, " [mode=x]".toList] ['\n'] ∧
    FunctionDoc.parse? (nestedMarkers "[mode=x]") = .ok (some
      { name := "up.visit".toList
        params := [⟨"url".toList, false, none, [], "@param inside".toList⟩,
          ⟨"mode".toList, true, some "x".toList, [], []⟩]
        prose := ['\n'] }) ∧
    FunctionDoc.parse? (nestedMarkers "[mode ") =
      .error (.invalidParam "[mode".toList (nestedMarkers "[mode ")) := by
  obtain ⟨-, htakes, hparams⟩ := params_follow_partition
  have hread := partition_nestedMarkers "[mode=x]" (by decide)
  have hrefused := partition_nestedMarkers "[mode " (by decide)
  refine ⟨(htakes _ _ _ hread _ _).2 ⟨rfl, rfl⟩, ?_, ?_⟩
  · refine (hparams (nestedMarkers "[mode=x]") _ _ _ _ rfl hread).1 _ (.cons ?_ (.cons ?_ .nil))
    · decide +kernel
    · decide +kernel
  · refine (hparams (nestedMarkers "[mode ") _ _ _ _ rfl hrefused).2 [_] _ [] rfl ?_ ?_
    · rw [List.forall_mem_singleton]
      exact ⟨_, rfl⟩
    · intro p hp
      have hnone : (ParamDoc.parse (' ' :: "[mode ".toList) (nestedMarkers "[mode ")).toOption = none := by
        decide +kernel
      rw [hp] at hnone
      cases hnone

end FunctionDoc

end ApiGuide
