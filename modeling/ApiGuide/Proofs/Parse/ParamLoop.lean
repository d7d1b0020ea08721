import ApiGuide.Proofs.Parse.ParamRoundTrip

/-!
Parameter groups in a text, and the loop that takes them out one after the other.
-/

namespace ApiGuide

open Text Marker

/-- A line opens a group: blanks, which are the indent of the group, the keyword, and then the end of
    the line or a blank. -/
structure OpensGroup (groupIndent spec line : Text) : Prop where
  line_eq : line = groupIndent ++ "@param".toList ++ spec
  indent_blank : allBlank groupIndent = true
  spec_start : ∀ c ∈ spec.head?, isBlank c = true

theorem opensGroup?_eq_some_iff {line groupIndent spec : Text} :
    opensGroup? line = some (groupIndent, spec) ↔ OpensGroup groupIndent spec line := by
  rw [opensGroup?]
  constructor
  · intro h
    have hline := indent_append_skipBlanks line
    split at h
    · next hafter =>
      cases h
      rw [eq_append_of_after? hafter, ← List.append_assoc] at hline
      exact ⟨hline.symm, allBlank_indent line, by simp⟩
    · next c rest hafter =>
      rw [eq_append_of_after? hafter, ← List.append_assoc] at hline
      split at h
      · next hblank =>
        cases h
        exact ⟨hline.symm, allBlank_indent line, by simpa using hblank⟩
      · cases h
    · cases h
  · rintro ⟨rfl, hindent, hspec⟩
    have hafter : after? paramKeyword (skipBlanks (groupIndent ++ "@param".toList ++ spec)) = some spec := by
      rw [List.append_assoc, skipBlanks_append hindent]
      exact after?_append paramKeyword spec
    have hleft : indent (groupIndent ++ "@param".toList ++ spec) = groupIndent := by
      rw [List.append_assoc, indent_append hindent]
      exact List.append_nil groupIndent
    rw [hafter, hleft]
    cases spec with
    | nil => rfl
    | cons c spec => simp [hspec c (by simp)]

theorem isSome_opensGroup?_iff {line : Text} : (opensGroup? line).isSome ↔ IsParamLine line := by
  constructor
  · intro h
    obtain ⟨⟨groupIndent, spec⟩, hopen⟩ := Option.isSome_iff_exists.1 h
    have hline := opensGroup?_eq_some_iff.1 hopen
    exact ⟨groupIndent, spec, hline.indent_blank, hline.line_eq, hline.spec_start⟩
  · rintro ⟨groupIndent, spec, hindent, hline, hspec⟩
    rw [opensGroup?_eq_some_iff.2 ⟨hline, hindent, hspec⟩]
    rfl

theorem opensGroup?_eq_none_iff {line : Text} : opensGroup? line = none ↔ ¬ IsParamLine line := by
  rw [← isSome_opensGroup?_iff, Option.not_isSome_iff_eq_none]

theorem groupOfLines?_append {before : List Text}
    (h : ∀ line ∈ before, opensGroup? (firstLine line) = none) (ls : List Text) :
    groupOfLines? (before ++ ls) =
      (groupOfLines? ls).map fun (group, outside) => (group, before.flatten ++ outside) := by
  induction before with
  | nil => simp
  | cons line before ih =>
    rw [List.cons_append, groupOfLines?, h line (by simp), ih fun l hl => h l (by simp [hl])]
    simp [Option.map_map, Function.comp_def]

theorem groupOfLines?_eq_none_iff {ls : List Text} :
    groupOfLines? ls = none ↔ ∀ line ∈ ls, opensGroup? (firstLine line) = none := by
  induction ls with
  | nil => simp [groupOfLines?]
  | cons line rest ih =>
    rw [groupOfLines?]
    cases hopen : opensGroup? (firstLine line) with
    | none => simp [ih, hopen]
    | some found => simp [hopen]

theorem paramGroup?_eq_none_iff {t : Text} :
    paramGroup? t = none ↔ ∀ line ∈ lines t, ¬ IsParamLine (firstLine line) := by
  rw [paramGroup?, groupOfLines?_eq_none_iff]
  simp only [opensGroup?_eq_none_iff]

namespace ParamDoc

theorem parseAll_of_none {t : Text} (h : paramGroup? t = none) (block : Text) :
    parseAll block t = .ok ([], t) := by
  rw [parseAll]
  split
  · rfl
  · next hsome =>
    rw [h] at hsome
    cases hsome

theorem parseAll_of_some {t group outside block : Text} {p : ParamDoc}
    (hgroup : paramGroup? t = some (group, outside)) (hparse : ParamDoc.parse group block = .ok p) :
    parseAll block t = (parseAll block outside).map fun (params, rest) => (p :: params, rest) := by
  rw [parseAll]
  split
  · next hnone =>
    rw [hgroup] at hnone
    cases hnone
  · next g o hsome =>
    rw [hgroup] at hsome
    cases hsome
    rw [hparse]
    dsimp only
    cases parseAll block outside with
    | error e => rfl
    | ok found => rfl

/-- How the loop can end well: without a group it leaves the text as it is, and else it goes on
    outside of the group. -/
theorem parseAll_ok_cases {block t rest : Text} {params : List ParamDoc}
    (h : parseAll block t = .ok (params, rest)) :
    (paramGroup? t = none ∧ params = [] ∧ rest = t) ∨
    ∃ group outside p more, paramGroup? t = some (group, outside) ∧
      parseAll block outside = .ok (more, rest) ∧ params = p :: more := by
  cases hgroup : paramGroup? t with
  | none =>
    rw [parseAll_of_none hgroup] at h
    cases h
    exact .inl ⟨rfl, rfl, rfl⟩
  | some found =>
    obtain ⟨group, outside⟩ := found
    rw [parseAll] at h
    split at h
    · next hnone =>
      rw [hgroup] at hnone
      cases hnone
    · next g o hsome =>
      rw [hgroup] at hsome
      cases hsome
      split at h
      · cases h
      · next p _ =>
        split at h
        · cases h
        · next more last hrest =>
          cases h
          exact .inr ⟨group, outside, p, more, rfl, hrest, rfl⟩

theorem length_le_of_parseAll {block t rest : Text} {params : List ParamDoc}
    (h : parseAll block t = .ok (params, rest)) : rest.length ≤ t.length := by
  obtain ⟨-, -, rfl⟩ | ⟨group, outside, p, more, hgroup, hrest, -⟩ := parseAll_ok_cases h
  · exact Nat.le_refl _
  · have hshorter := length_lt_of_paramGroup? hgroup
    have hle := length_le_of_parseAll hrest
    omega
termination_by t.length

/-- The marker line of a printed parameter, without its line break. -/
def markerLine (p : ParamDoc) : Text :=
  paramKeyword ++ (printTypes p.types ++ ' ' :: p.printName)

theorem Printable.break_not_mem_markerLine {p : ParamDoc} (hp : p.Printable) : '\n' ∉ p.markerLine := by
  have htypes : '\n' ∉ printTypes p.types := by
    rw [printTypes]
    split
    · simp
    · have hno : '\n' ∉ joinWith ['|'] p.types :=
        not_mem_joinWith (by decide) fun t ht => (hp.types t ht).one_line
      simp [hno]
  have hname : '\n' ∉ p.name := fun hmem => ne_break_of_isWhitespace (hp.name_chars _ hmem).1 rfl
  have hprint : '\n' ∉ p.printName := by
    rw [printName]
    split
    · exact hname
    · simp [hname]
    · next d _ hdefault =>
      simp [hname, (hp.default_text d hdefault).break_not_mem]
  have hkeyword : '\n' ∉ paramKeyword := by decide
  simp [markerLine, hkeyword, htypes, hprint]

theorem opensGroup?_markerLine (p : ParamDoc) :
    opensGroup? p.markerLine = some ([], printTypes p.types ++ ' ' :: p.printName) := by
  have hafter : after? paramKeyword (skipBlanks p.markerLine) =
      some (printTypes p.types ++ ' ' :: p.printName) :=
    after?_append paramKeyword _
  obtain ⟨t, ht⟩ : ∃ t, printTypes p.types ++ ' ' :: p.printName = ' ' :: t := by
    rw [printTypes]
    split
    · exact ⟨_, rfl⟩
    · exact ⟨_, rfl⟩
  have hindent : indent p.markerLine = [] := rfl
  rw [opensGroup?, hafter, ht, hindent]
  rfl

/-- A printed parameter is its marker line and the lines of its prose. -/
theorem Printable.lines_print_append {p : ParamDoc} (hp : p.Printable) {run : Text} (hrun : IsIndent run)
    (t : Text) :
    lines (p.print run ++ t) =
      (p.markerLine ++ ['\n']) :: (p.proseLines.map fun line => run ++ line ++ ['\n']) ++ lines t := by
  have hprose (ls : List Text) (hls : ∀ line ∈ ls, '\n' ∉ line) :
      lines ((ls.map fun line => run ++ line ++ ['\n']).flatten ++ t) =
        (ls.map fun line => run ++ line ++ ['\n']) ++ lines t := by
    induction ls with
    | nil => rfl
    | cons line ls ih =>
      have hno : '\n' ∉ run ++ line := by
        simp [break_not_mem_of_allBlank hrun.2, hls line (by simp)]
      simp only [List.map_cons, List.flatten_cons, List.append_assoc (run ++ line), List.cons_append,
        List.nil_append]
      rw [lines_append_break hno, ih fun l hl => hls l (by simp [hl])]
  have htext : p.print run ++ t = p.markerLine ++ '\n' ::
      ((p.proseLines.map fun line => run ++ line ++ ['\n']).flatten ++ t) := by
    simp only [print, markerLine, List.append_assoc, List.cons_append]
  rw [htext, lines_append_break hp.break_not_mem_markerLine,
    hprose _ fun line hline => break_not_mem_of_mem_proseLines hline]
  rfl

end ParamDoc

theorem lines_cons (c : Char) (t : Text) : ∃ line rest, lines (c :: t) = (c :: line) :: rest := by
  rw [lines]
  split
  · exact ⟨_, _, rfl⟩
  · split
    · exact ⟨_, _, rfl⟩
    · exact ⟨_, _, rfl⟩

theorem continuesGroup_nil_cons (c : Char) (line : Text) : continuesGroup [] (c :: line) = isBlank c := rfl

namespace ParamDoc

/-- The first group of a text with a printed parameter in front: the parameter and whatever hangs
    under it. -/
theorem Printable.paramGroup?_print {p : ParamDoc} (hp : p.Printable) {run : Text} (hrun : IsIndent run)
    (t : Text) :
    paramGroup? ('\n' :: '\n' :: (p.print run ++ t)) =
      some (p.groupText run ++
          (((lines t).takeWhile (continuesGroup [])).map fun line => '\n' :: firstLine line).flatten,
        '\n' :: '\n' :: ((lines t).dropWhile (continuesGroup [])).flatten) := by
  have hlines : lines ('\n' :: '\n' :: (p.print run ++ t)) =
      [['\n'], ['\n']] ++ lines (p.print run ++ t) := rfl
  have hopen : opensGroup? (firstLine (p.markerLine ++ ['\n'])) =
      some ([], printTypes p.types ++ ' ' :: p.printName) := by
    rw [(line_append_break hp.break_not_mem_markerLine []).1, opensGroup?_markerLine]
  have hprose : ∀ line ∈ p.proseLines.map (fun line => run ++ line ++ ['\n']),
      continuesGroup [] line = true := by
    intro line hline
    obtain ⟨l, -, rfl⟩ := List.mem_map.1 hline
    obtain ⟨b, blanks, hb⟩ := List.exists_cons_of_ne_nil hrun.1
    have hblank : isBlank b = true := List.all_eq_true.1 hrun.2 b (by simp [hb])
    rw [hb]
    exact hblank
  have hfirst : ((p.proseLines.map fun line => run ++ line ++ ['\n']).map
      fun line => '\n' :: firstLine line).flatten = p.hangingText run := by
    rw [hangingText, List.map_map]
    congr 1
    apply List.map_congr_left
    intro line hline
    have hno : '\n' ∉ run ++ line := by
      simp [break_not_mem_of_allBlank hrun.2, break_not_mem_of_mem_proseLines hline]
    exact congrArg ('\n' :: ·) (line_append_break hno []).1
  have hbreaks : ∀ line ∈ [['\n'], ['\n']], opensGroup? (firstLine line) = none := by
    simp only [List.forall_mem_cons]
    exact ⟨rfl, rfl, by simp⟩
  rw [paramGroup?, hlines, groupOfLines?_append hbreaks, hp.lines_print_append hrun, List.cons_append,
    groupOfLines?, hopen]
  simp only [List.takeWhile_append_of_pos hprose, List.dropWhile_append_of_pos hprose, joinWith_cons,
    Option.map_some, groupText, ← hfirst, List.map_append, List.map_map, List.flatten_append]
  simp [Function.comp_def]

theorem Printable.paramGroup?_print_of_apart {p : ParamDoc} (hp : p.Printable) {run t : Text}
    (hrun : IsIndent run) (ht : ∀ c ∈ t.head?, isBlank c = false) :
    paramGroup? ('\n' :: '\n' :: (p.print run ++ t)) = some (p.groupText run, '\n' :: '\n' :: t) := by
  have hnone : (lines t).takeWhile (continuesGroup []) = [] ∧
      (lines t).dropWhile (continuesGroup []) = lines t := by
    cases t with
    | nil => exact ⟨rfl, rfl⟩
    | cons c t =>
      obtain ⟨line, rest, hlines⟩ := lines_cons c t
      have hc : continuesGroup [] (c :: line) = false := ht c (by simp)
      rw [hlines, List.takeWhile_cons, List.dropWhile_cons, hc]
      exact ⟨rfl, rfl⟩
  rw [hp.paramGroup?_print hrun, hnone.1, hnone.2]
  simp

theorem printAll_cons (run : Nat → Text) (p : ParamDoc) (params : List ParamDoc) :
    printAll run (p :: params) = p.print (run 0) ++ printAll (fun i => run (i + 1)) params := by
  simp [printAll, List.mapIdx_cons]

theorem printAll_concat (run : Nat → Text) (params : List ParamDoc) (p : ParamDoc) :
    printAll run (params ++ [p]) = printAll run params ++ p.print (run params.length) := by
  simp [printAll, List.mapIdx_append]

theorem isBlank_head?_print_append (run : Text) (p : ParamDoc) (t : Text) :
    ∀ c ∈ (p.print run ++ t).head?, isBlank c = false := by
  intro c hc
  obtain rfl : '@' = c := Option.some.inj hc
  rfl

theorem isBlank_head?_printAll_append {run : Nat → Text} {params : List ParamDoc} {tail : Text}
    (htail : ∀ c ∈ tail.head?, isBlank c = false) :
    ∀ c ∈ (printAll run params ++ tail).head?, isBlank c = false := by
  cases params with
  | nil => exact htail
  | cons p params =>
    rw [printAll_cons, List.append_assoc]
    exact isBlank_head?_print_append _ p _

/-- The loop reads printed parameters back and goes on with the text after them. Only the last of
    them could take lines of that text. -/
theorem parseAll_printAll {params : List ParamDoc} (hparams : ∀ p ∈ params, p.Printable) {run : Nat → Text}
    (hrun : ∀ i, IsIndent (run i)) {tail : Text}
    (htail : params ≠ [] → ∀ c ∈ tail.head?, isBlank c = false) (block : Text) :
    parseAll block ('\n' :: '\n' :: (printAll run params ++ tail)) =
      (parseAll block ('\n' :: '\n' :: tail)).map fun (more, rest) => (params ++ more, rest) := by
  induction params generalizing run with
  | nil =>
    have hnone : printAll run [] ++ tail = tail := rfl
    rw [hnone]
    cases parseAll block ('\n' :: '\n' :: tail) <;> rfl
  | cons p params ih =>
    have hp := hparams p (by simp)
    have hnext : ∀ c ∈ (printAll (fun i => run (i + 1)) params ++ tail).head?, isBlank c = false :=
      isBlank_head?_printAll_append (htail (by simp))
    have hgroup := hp.paramGroup?_print_of_apart (hrun 0) hnext
    rw [printAll_cons, List.append_assoc, parseAll_of_some hgroup (parse_groupText hp (hrun 0) block),
      ih (fun q hq => hparams q (by simp [hq])) (fun i => hrun (i + 1)) fun _ => htail (by simp)]
    cases parseAll block ('\n' :: '\n' :: tail) <;> rfl

theorem exists_parseAll_of_printAll {params found : List ParamDoc} (hparams : ∀ p ∈ params, p.Printable)
    {run : Nat → Text} (hrun : ∀ i, IsIndent (run i)) {tail block rest : Text}
    (htail : params ≠ [] → ∀ c ∈ tail.head?, isBlank c = false)
    (h : parseAll block ('\n' :: '\n' :: (printAll run params ++ tail)) = .ok (found, rest)) :
    ∃ more, parseAll block ('\n' :: '\n' :: tail) = .ok (more, rest) ∧ found = params ++ more := by
  rw [parseAll_printAll hparams hrun htail] at h
  cases hlater : parseAll block ('\n' :: '\n' :: tail) with
  | error e =>
    rw [hlater] at h
    cases h
  | ok later =>
    obtain ⟨more, last⟩ := later
    rw [hlater] at h
    obtain ⟨rfl, rfl⟩ : params ++ more = found ∧ last = rest := by simpa [Except.map] using h
    exact ⟨more, rfl, rfl⟩

end ParamDoc

end ApiGuide
