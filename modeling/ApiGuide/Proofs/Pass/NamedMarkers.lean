import ApiGuide.Proofs.Parse.ClassProse
import ApiGuide.Proofs.Pass.Strict

/-!
Which blocks are found to name a class or a function.

A marker is chosen before its name is looked at, and one more character than a blank after the keyword
is enough to choose it. So a keyword with two blanks after it and nothing else on its line is chosen
although it names nothing, and the markers on the lines below are not found any more. With one blank,
or none, such a line is passed over.
-/

namespace ApiGuide

open Text Marker

/-- One of the keywords stands on the line, a blank follows it, and then `rest` up to the end of the
    line. -/
def MarksLine (keywords : List Text) (line rest : Text) : Prop :=
  ∃ keyword ∈ keywords, ∃ before b, firstLine line = before ++ (keyword ++ b :: rest) ∧ isBlank b = true

/-- A marker with a name stands on the line: later on it comes a character that is no white space. -/
def NamesOnLine (keywords : List Text) (line : Text) : Prop :=
  ∃ rest, MarksLine keywords line rest ∧ ∃ c ∈ rest, isWhitespace c = false

/-- A marker without a name stands on the line that is chosen all the same: white space of at least one
    character follows the blank, and nothing else. -/
def HollowOnLine (keywords : List Text) (line : Text) : Prop :=
  ∃ rest, MarksLine keywords line rest ∧ rest ≠ [] ∧ ∀ c ∈ rest, isWhitespace c = true

/-- One of the lines has a marker with a name, and no line before it a hollow one. -/
def NamesFirst (keywords : List Text) (ls : List Text) : Prop :=
  ∃ before line after, ls = before ++ line :: after ∧ NamesOnLine keywords line ∧
    ∀ l ∈ before, ¬ HollowOnLine keywords l

theorem MarksLine.break_not_mem {keywords : List Text} {line rest : Text}
    (h : MarksLine keywords line rest) : '\n' ∉ rest := by
  obtain ⟨keyword, -, before, b, hline, -⟩ := h
  intro hmem
  exact break_not_mem_firstLine line (by simp [hline, hmem])

theorem not_namesFirst_nil (keywords : List Text) : ¬ NamesFirst keywords [] := by
  rintro ⟨before, line, after, h, -⟩
  simp at h

theorem namesFirst_cons {keywords : List Text} {line : Text} {rest : List Text} :
    NamesFirst keywords (line :: rest) ↔
      NamesOnLine keywords line ∨ (¬ HollowOnLine keywords line ∧ NamesFirst keywords rest) := by
  constructor
  · rintro ⟨before, named, after, h, hnamed, hbefore⟩
    cases before with
    | nil =>
      obtain ⟨rfl, rfl⟩ : line = named ∧ rest = after := by simpa using h
      exact .inl hnamed
    | cons first before =>
      obtain ⟨rfl, rfl⟩ : line = first ∧ rest = before ++ named :: after := by simpa using h
      rw [List.forall_mem_cons] at hbefore
      exact .inr ⟨hbefore.1, before, named, after, rfl, hnamed, hbefore.2⟩
  · rintro (hnamed | ⟨hhollow, before, named, after, rfl, hnamed, hbefore⟩)
    · exact ⟨[], line, rest, rfl, hnamed, by simp⟩
    · exact ⟨line :: before, named, after, rfl, hnamed, List.forall_mem_cons.2 ⟨hhollow, hbefore⟩⟩

namespace Marker

section Keywords

variable {keywords : List Text}

/-- The keywords hold no white space. -/
def solid (keywords : List Text) : Bool :=
  keywords.all fun keyword => keyword.all fun c => !isWhitespace c

theorem isWhitespace_of_solid (h : solid keywords) {keyword : Text} {c : Char}
    (hkeyword : keyword ∈ keywords) (hc : c ∈ keyword) : isWhitespace c = false := by
  have hchars := List.all_eq_true.1 h keyword hkeyword
  simpa using List.all_eq_true.1 hchars c hc

theorem isBlank_of_solid (h : solid keywords) : ∀ keyword ∈ keywords, ∀ b ∈ keyword, isBlank b = false :=
  fun _ hkeyword _ hb => isBlank_eq_false_of_isWhitespace (isWhitespace_of_solid h hkeyword hb)

theorem break_not_mem_of_solid (h : solid keywords) : ∀ keyword ∈ keywords, '\n' ∉ keyword :=
  fun _ hkeyword hmem => ne_break_of_isWhitespace (isWhitespace_of_solid h hkeyword hmem) rfl

/-- One of the keywords is at the front of the text, with the rest of its line after it. -/
def lineHere? (keywords : List Text) (t : Text) : Option (Text × Text) :=
  keywords.findSome? (lineAfter? · t)

theorem lineHere?_eq_some {t line rest : Text} (h : lineHere? keywords t = some (line, rest)) :
    ∃ keyword ∈ keywords, ∃ b c more, t = keyword ++ b :: c :: more ∧ isBlank b = true ∧ c ≠ '\n' ∧
      line = firstLine (b :: c :: more) := by
  obtain ⟨keyword, hkeyword, hread⟩ := List.exists_of_findSome?_eq_some h
  obtain ⟨b, c, more, ht, hb, hc, hline, -⟩ := lineAfter?_eq_some_iff.1 hread
  exact ⟨keyword, hkeyword, b, c, more, ht, hb, hc, hline⟩

theorem lineHere?_ne_none {keyword rest : Text} {b : Char} (hkeyword : keyword ∈ keywords)
    (hb : isBlank b = true) (hne : rest ≠ []) (hbreak : '\n' ∉ rest) :
    lineHere? keywords (keyword ++ b :: rest) ≠ none := by
  obtain ⟨c, more, rfl⟩ := List.exists_cons_of_ne_nil hne
  have hc : c ≠ '\n' := by
    rintro rfl
    exact hbreak List.mem_cons_self
  intro hnone
  have hread : lineAfter? keyword (keyword ++ b :: c :: more) = some (_, _) :=
    lineAfter?_eq_some_iff.2 ⟨b, c, more, rfl, hb, hc, rfl, rfl⟩
  rw [List.findSome?_eq_none_iff.1 hnone keyword hkeyword] at hread
  cases hread

theorem lineHere?_nil : lineHere? keywords [] = none := by
  rw [Option.eq_none_iff_forall_ne_some]
  rintro ⟨line, rest⟩ hread
  obtain ⟨keyword, -, b, c, more, ht, -⟩ := lineHere?_eq_some hread
  simp at ht

/-- What is read on a line does not depend on the lines below it. -/
theorem lineAfter?_append_break {keyword u : Text} (hkeyword : '\n' ∉ keyword) (hu : '\n' ∉ u) (v : Text) :
    lineAfter? keyword (u ++ '\n' :: v) =
      (lineAfter? keyword u).map fun (line, rest) => (line, rest ++ '\n' :: v) := by
  cases hread : lineAfter? keyword u with
  | some found =>
    obtain ⟨line, rest⟩ := found
    obtain ⟨b, c, more, rfl, hb, hc, rfl, rfl⟩ := lineAfter?_eq_some_iff.1 hread
    have hline : '\n' ∉ b :: c :: more := fun hmem => hu (List.mem_append_right keyword hmem)
    obtain ⟨hfirst, hafter⟩ := line_append_break hline v
    obtain ⟨hfirst', hafter'⟩ := line_of_no_break hline
    refine lineAfter?_eq_some_iff.2 ⟨b, c, more ++ '\n' :: v, by simp, hb, hc, ?_, ?_⟩
    · rw [hfirst']
      exact hfirst.symm
    · rw [hafter', List.nil_append]
      exact hafter.symm
  | none =>
    rw [Option.map_none, Option.eq_none_iff_forall_ne_some]
    rintro ⟨line, rest⟩ hsome
    obtain ⟨b, c, more, heq, hb, hc, -, -⟩ := lineAfter?_eq_some_iff.1 hsome
    have hbreak : '\n' ∉ keyword ++ [b, c] := by
      have hb' : b ≠ '\n' := by
        rintro rfl
        cases hb
      simp [hkeyword, Ne.symm hb', Ne.symm hc]
    -- A marker is told by the keyword and two characters, which are all on the first line.
    have hstart : (keyword ++ [b, c]) ++ more = u ++ '\n' :: v := by simp [heq]
    obtain ⟨more', rfl⟩ := exists_append_of_no_break hbreak hstart
    rw [lineAfter?_eq_some_iff.2 ⟨b, c, more', by simp, hb, hc, rfl, rfl⟩] at hread
    cases hread

theorem lineHere?_append_break (hkeywords : ∀ keyword ∈ keywords, '\n' ∉ keyword) {u : Text} (hu : '\n' ∉ u)
    (v : Text) : lineHere? keywords (u ++ '\n' :: v) =
      (lineHere? keywords u).map fun (line, rest) => (line, rest ++ '\n' :: v) := by
  induction keywords with
  | nil => rfl
  | cons keyword keywords ih =>
    rw [List.forall_mem_cons] at hkeywords
    have hrest := ih hkeywords.2
    rw [lineHere?] at hrest ⊢
    rw [List.findSome?_cons, lineAfter?_append_break hkeywords.1 hu, hrest, lineHere?, lineHere?,
      List.findSome?_cons]
    cases lineAfter? keyword u <;> rfl

/-- The leftmost marker is on the first line if that line has one, and else further down. -/
theorem cut?_append_break (hkeywords : ∀ keyword ∈ keywords, '\n' ∉ keyword) {u : Text} (hu : '\n' ∉ u)
    (v : Text) : cut? (lineHere? keywords) (u ++ '\n' :: v) =
      ((cut? (lineHere? keywords) u).map fun (line, rest) => (line, rest ++ '\n' :: v)).or
        ((cut? (lineHere? keywords) v).map fun (line, rest) => (line, u ++ '\n' :: rest)) := by
  have hjoint : ∀ p q, u = p ++ q → q ≠ [] → lineHere? keywords (q ++ '\n' :: v) =
      (lineHere? keywords q).map fun (line, rest) => (line, rest ++ '\n' :: v) := by
    rintro p q rfl -
    exact lineHere?_append_break hkeywords (fun hmem => hu (List.mem_append_right p hmem)) v
  have hbreak : lineHere? keywords ('\n' :: v) = none := by
    have hhere := lineHere?_append_break hkeywords (u := []) List.not_mem_nil v
    rwa [lineHere?_nil, Option.map_none, List.nil_append] at hhere
  rw [cut?_append lineHere?_nil hjoint, cut?, hbreak, Option.map_map]
  rfl

theorem name?_isSome_iff {t : Text} : (name? keywords t).isSome ↔
    ∃ found, cut? (lineHere? keywords) t = some found ∧ trim found.1 ≠ [] := by
  rw [Option.isSome_iff_exists]
  constructor
  · rintro ⟨⟨name, rest⟩, h⟩
    obtain ⟨line, hcut, hne, -⟩ := name?_eq_some_iff.1 h
    exact ⟨(line, rest), hcut, hne⟩
  · rintro ⟨⟨line, rest⟩, hcut, hne⟩
    exact ⟨(trim line, rest), name?_eq_some_iff.2 ⟨line, hcut, hne, rfl⟩⟩

/-- Of two markers in a text the line of the first runs on over what the second has after its keyword. -/
theorem mem_line_of_first {before keyword line before' keyword' rest : Text} {b d : Char}
    (h : before ++ (keyword ++ line) = before' ++ (keyword' ++ b :: rest)) (hb : b ∉ keyword)
    (hfirst : before.length ≤ before'.length) (hd : d ∈ rest) : d ∈ line := by
  obtain ⟨between, rfl, htail⟩ : ∃ between, before' = before ++ between ∧
      keyword ++ line = between ++ (keyword' ++ b :: rest) := by
    obtain ⟨between, hbefore, htail⟩ | ⟨between, hbefore, htail⟩ := List.append_eq_append_iff.1 h
    · exact ⟨between, hbefore, htail⟩
    · have hlength := congrArg List.length hbefore
      rw [List.length_append] at hlength
      obtain rfl : between = [] := List.length_eq_zero_iff.1 (by omega)
      exact ⟨[], by simpa using hbefore.symm, by simpa using htail.symm⟩
  have htail' : keyword ++ line = (between ++ keyword') ++ b :: rest := by simpa using htail
  obtain ⟨beyond, -, hline⟩ | ⟨beyond, hkeyword, hrest⟩ := List.append_eq_append_iff.1 htail'
  · simp [hline, hd]
  · cases beyond with
    | nil => simp [← (show b :: rest = line by simpa using hrest), hd]
    | cons e beyond =>
      obtain ⟨rfl, -⟩ : b = e ∧ rest = beyond ++ line := by simpa using hrest
      exact absurd (by simp [hkeyword]) hb

/-- On a line without a marker that is chosen, nothing stands after a keyword and its blank. -/
theorem eq_nil_of_marksLine {l rest : Text} (hcut : cut? (lineHere? keywords) (firstLine l) = none)
    (h : MarksLine keywords l rest) : rest = [] := by
  have hbreak := h.break_not_mem
  obtain ⟨keyword, hkeyword, before, b, hl, hb⟩ := h
  by_contra hne
  exact lineHere?_ne_none hkeyword hb hne hbreak (cut?_eq_none_iff.1 hcut before _ hl)

/-- The marker that is chosen on a line, with the blank and what else follows its keyword. -/
theorem chosen_on_line {l : Text} {found : Text × Text}
    (hcut : cut? (lineHere? keywords) (firstLine l) = some found) :
    ∃ keyword ∈ keywords, ∃ before b rest, firstLine l = before ++ (keyword ++ b :: rest) ∧
      isBlank b = true ∧ rest ≠ [] ∧ found.1 = b :: rest ∧
      ∀ p q, firstLine l = p ++ q → p.length < before.length → lineHere? keywords q = none := by
  obtain ⟨before, tail, after, hl, hread, -, hfirst⟩ := cut?_eq_some_iff_first.1 hcut
  obtain ⟨keyword, hkeyword, b, c, more, rfl, hb, -, hline⟩ := lineHere?_eq_some hread
  have hbreak : '\n' ∉ b :: c :: more := by
    intro hmem
    exact break_not_mem_firstLine l (by simp [hl, hmem])
  rw [(line_of_no_break hbreak).1] at hline
  exact ⟨keyword, hkeyword, before, b, c :: more, hl, hb, by simp, hline, hfirst⟩

/-- What any marker of a line has after its keyword and blank is in what was chosen on the line. -/
theorem mem_chosen_of_marksLine {l rest : Text} {found : Text × Text} {d : Char}
    (hkeywords : ∀ keyword ∈ keywords, ∀ b ∈ keyword, isBlank b = false)
    (hcut : cut? (lineHere? keywords) (firstLine l) = some found)
    (h : MarksLine keywords l rest) (hd : d ∈ rest) : d ∈ found.1 := by
  have hbreak := h.break_not_mem
  obtain ⟨keyword, hkeyword, before, b, chosen, hl, -, -, hfound, hfirst⟩ := chosen_on_line hcut
  obtain ⟨keyword', hkeyword', before', b', hl', hb'⟩ := h
  have hle : before.length ≤ before'.length := by
    by_contra hlt
    have hnone := hfirst before' _ hl' (by omega)
    exact lineHere?_ne_none hkeyword' hb' (List.ne_nil_of_mem hd) hbreak hnone
  have hnot : b' ∉ keyword := by
    intro hmem
    rw [hkeywords keyword hkeyword b' hmem] at hb'
    cases hb'
  rw [hfound]
  exact mem_line_of_first (hl.symm.trans hl') hnot hle hd

/-- A marker is chosen on a line: it has the name if any marker on the line has one, and is hollow
    otherwise. -/
theorem names_or_hollow {l : Text} {found : Text × Text}
    (hkeywords : ∀ keyword ∈ keywords, ∀ b ∈ keyword, isBlank b = false)
    (hcut : cut? (lineHere? keywords) (firstLine l) = some found) :
    (trim found.1 ≠ [] ↔ NamesOnLine keywords l) ∧ (trim found.1 = [] → HollowOnLine keywords l) := by
  obtain ⟨keyword, hkeyword, before, b, rest, hl, hb, hne, hfound, -⟩ := chosen_on_line hcut
  have hmarks : MarksLine keywords l rest := ⟨keyword, hkeyword, before, b, hl, hb⟩
  have hempty : trim found.1 = [] ↔ ∀ d ∈ rest, isWhitespace d = true := by
    rw [hfound, trim_eq_nil_iff, List.forall_mem_cons]
    exact and_iff_right (isWhitespace_of_isBlank hb)
  refine ⟨⟨fun hname => ?_, ?_⟩, fun h => ⟨rest, hmarks, hne, hempty.1 h⟩⟩
  · rw [ne_eq, hempty] at hname
    simp only [not_forall, Bool.not_eq_true] at hname
    obtain ⟨d, hd, hspace⟩ := hname
    exact ⟨rest, hmarks, d, hd, hspace⟩
  · rintro ⟨rest', hmarks', d, hd, hspace⟩ hnil
    have hmem := mem_chosen_of_marksLine hkeywords hcut hmarks' hd
    rw [trim_eq_nil_iff.1 hnil d hmem] at hspace
    cases hspace

theorem cut?_firstLine_eq_none_iff {l : Text}
    (hkeywords : ∀ keyword ∈ keywords, ∀ b ∈ keyword, isBlank b = false) :
    cut? (lineHere? keywords) (firstLine l) = none ↔
      ¬ NamesOnLine keywords l ∧ ¬ HollowOnLine keywords l := by
  constructor
  · intro hcut
    constructor
    · rintro ⟨rest, hmarks, c, hc, -⟩
      simp [eq_nil_of_marksLine hcut hmarks] at hc
    · rintro ⟨rest, hmarks, hne, -⟩
      exact hne (eq_nil_of_marksLine hcut hmarks)
  · rintro ⟨hnames, hhollow⟩
    cases hcut : cut? (lineHere? keywords) (firstLine l) with
    | none => rfl
    | some found =>
      obtain ⟨hiff, hempty⟩ := names_or_hollow hkeywords hcut
      by_cases htrim : trim found.1 = []
      · exact absurd (hempty htrim) hhollow
      · exact absurd (hiff.1 htrim) hnames

theorem name?_firstLine_isSome_iff {l : Text}
    (hkeywords : ∀ keyword ∈ keywords, ∀ b ∈ keyword, isBlank b = false) :
    (name? keywords (firstLine l)).isSome ↔ NamesOnLine keywords l := by
  rw [name?_isSome_iff]
  cases hcut : cut? (lineHere? keywords) (firstLine l) with
  | none => simp [((cut?_firstLine_eq_none_iff hkeywords).1 hcut).1]
  | some found => simp [(names_or_hollow hkeywords hcut).1]

/-- The first line decides whether there is a name, unless no marker is chosen on it. -/
theorem name?_append_break_isSome_iff (hkeywords : ∀ keyword ∈ keywords, '\n' ∉ keyword) {u : Text}
    (hu : '\n' ∉ u) (v : Text) : (name? keywords (u ++ '\n' :: v)).isSome ↔
      (name? keywords u).isSome ∨ (cut? (lineHere? keywords) u = none ∧ (name? keywords v).isSome) := by
  rw [name?_isSome_iff, name?_isSome_iff, name?_isSome_iff, cut?_append_break hkeywords hu]
  cases cut? (lineHere? keywords) u with
  | some found => simp
  | none => simp

/-- A name is found exactly when one of the lines names something, with no hollow marker before it. -/
theorem name?_isSome_iff_namesFirst (hsolid : solid keywords) (t : Text) :
    (name? keywords t).isSome ↔ NamesFirst keywords (lines t) := by
  have hblank := isBlank_of_solid hsolid
  have hbreak := break_not_mem_of_solid hsolid
  -- The induction is over the lines, of which the last may have no line break.
  generalize hlines : lines t = ls
  induction ls generalizing t with
  | nil =>
    obtain rfl : t = [] := lines_injective hlines
    have hnil : cut? (lineHere? keywords) [] = none := lineHere?_nil
    simp [name?_isSome_iff, hnil, not_namesFirst_nil]
  | cons l ls ih =>
    rw [namesFirst_cons]
    obtain hno | ⟨u, v, hu, rfl⟩ := exists_first_line t
    · have hne : t ≠ [] := by
        rintro rfl
        cases hlines
      rw [lines_of_no_break hno hne] at hlines
      obtain ⟨rfl, rfl⟩ : t = l ∧ [] = ls := by simpa using hlines
      have hnames := name?_firstLine_isSome_iff (l := t) hblank
      rw [(line_of_no_break hno).1] at hnames
      simp [hnames, not_namesFirst_nil]
    · rw [lines_append_break hu] at hlines
      obtain ⟨rfl, hrest⟩ : u ++ ['\n'] = l ∧ lines v = ls := by simpa using hlines
      have hnames := name?_firstLine_isSome_iff (l := u ++ ['\n']) hblank
      have hnone := cut?_firstLine_eq_none_iff (l := u ++ ['\n']) hblank
      rw [(line_append_break hu []).1] at hnames hnone
      have hbelow : (name? keywords v).isSome ↔ NamesFirst keywords ls := ih v hrest
      rw [name?_append_break_isSome_iff hbreak hu, hnames, hnone, hbelow]
      tauto

end Keywords

end Marker

namespace Pass

/-- A lenient pass ignores a block in which no name is found, and a function it has no class for. -/
theorem readBlock_eq_ignored_iff {p : Pass} (hlenient : p.strict = false) {block : Text} :
    (p.readBlock block).1 = .ok .ignored ↔ className? block = none ∧
      (functionName? block = none ∨
        p.active = none ∧ ∃ f, FunctionDoc.parse? block = .ok (some f)) := by
  rw [← ClassDoc.parse?_eq_none_iff, ← FunctionDoc.parse?_eq_ok_none_iff, readBlock]
  cases ClassDoc.parse? block with
  | some c => simp
  | none =>
    cases FunctionDoc.parse? block with
    | error e => simp
    | ok found =>
      cases found with
      | none => simp [hlenient]
      | some f => cases p.active <;> simp [hlenient]

/-- A class, or a function, is found in a block exactly when one of the lines has a marker with a name
    and no line before it a hollow marker of the same kind. A lenient pass ignores the blocks in which
    neither is found, and else only a function that it has no class for. -/
theorem names_found_unless_hollow (block : Text) :
    ((className? block).isSome ↔ NamesFirst ["@class".toList] (lines block)) ∧
      ((functionName? block).isSome ↔ NamesFirst ["@method".toList, "@function".toList] (lines block)) ∧
      ∀ p : Pass, p.strict = false →
        ((p.readBlock block).1 = .ok .ignored ↔
          ¬ NamesFirst ["@class".toList] (lines block) ∧
            (¬ NamesFirst ["@method".toList, "@function".toList] (lines block) ∨
              p.active = none ∧ ∃ f, FunctionDoc.parse? block = .ok (some f))) := by
  have hclass : (className? block).isSome ↔ NamesFirst ["@class".toList] (lines block) :=
    name?_isSome_iff_namesFirst (by decide) block
  have hfunction : (functionName? block).isSome ↔
      NamesFirst ["@method".toList, "@function".toList] (lines block) :=
    name?_isSome_iff_namesFirst (by decide) block
  refine ⟨hclass, hfunction, ?_⟩
  intro p hlenient
  rw [readBlock_eq_ignored_iff hlenient, ← hclass, ← hfunction, Option.not_isSome_iff_eq_none,
    Option.not_isSome_iff_eq_none]

/-- A keyword with one blank after it is passed over, and the class on the next line is found. -/
theorem names_found_afterOneBlank : (start false).strict = false ∧
    ((start false).readBlock "@class \n@class up.link".toList).1 ≠ .ok .ignored := by
  have hnamed : NamesOnLine ["@class".toList] "@class up.link".toList :=
    ⟨"up.link".toList, ⟨_, List.mem_singleton_self _, [], ' ', rfl, rfl⟩, 'u', by decide, by decide⟩
  have hhollow : ¬ HollowOnLine ["@class".toList] "@class \n".toList :=
    ((cut?_firstLine_eq_none_iff (isBlank_of_solid (by decide))).1 (by decide)).2
  have hfirst : NamesFirst ["@class".toList] (lines "@class \n@class up.link".toList) :=
    ⟨["@class \n".toList], "@class up.link".toList, [], by decide, hnamed, by simpa using hhollow⟩
  refine ⟨rfl, fun hignored => ?_⟩
  exact (((names_found_unless_hollow _).2.2 (start false) rfl).1 hignored).1 hfirst

/-- With two blanks after the keyword the class on the next line is missed: the block has a class
    marker with a name, and is ignored as one without. -/
theorem name_missed_afterTwoBlanks :
    (∃ line ∈ lines "@class  \n@class up.link".toList, NamesOnLine ["@class".toList] line) ∧
      className? "@class  \n@class up.link".toList = none ∧
      ((start false).readBlock "@class  \n@class up.link".toList).1 = .ok .ignored := by
  refine ⟨⟨"@class up.link".toList, by decide, "up.link".toList, ?_, 'u', by decide, by decide⟩, ?_, ?_⟩
  · exact ⟨_, List.mem_singleton_self _, [], ' ', rfl, rfl⟩
  · decide
  · decide

end Pass

end ApiGuide
