import ApiGuide.Files.Search
import ApiGuide.Proofs.Files.Pattern
import ApiGuide.Proofs.Files.Walk

/-!
What a search finds below a path.

A search follows the path part by part, and comes to where the path leads. The one exception is an
empty part right after dots at the front: there it looks for a name of no characters, and finds none.
-/

namespace ApiGuide.Search

open Text ApiGuide.Path Pattern Folder

variable {tree : Folder}

/-- The search is at the working folder while it passes dots, and puts no dot into the paths. -/
theorem child_dot (name : Text) : child ['.'] name = name :=
  if_pos (by decide)

theorem child_written {parts : List Text} {path : Text} (h : Written parts path) (name : Text) :
    child path name = join path name :=
  if_neg h.components_ne_here

theorem mem_inFolder {α : Type} {path : Text} {find : Folder → List α} {a : α} :
    a ∈ inFolder tree path find ↔ ∃ inside, tree.lookup path = .ok (.folder inside) ∧ a ∈ find inside := by
  rw [inFolder]
  cases hlookup : tree.lookup path with
  | error fault => simp
  | ok entry => cases entry <;> simp

theorem mem_namesIn {f : Folder} {name : Text} : name ∈ namesIn f ↔ ∃ entry, f.get? name = some entry := by
  induction f with
  | empty => simp [namesIn, get?]
  | file n content rest ih =>
    by_cases hn : n = name
    · simp [namesIn, get?, hn]
    · simp [namesIn, get?, hn, Ne.symm hn, ih]
  | folder n inside rest _ ih =>
    by_cases hn : n = name
    · simp [namesIn, get?, hn]
    · simp [namesIn, get?, hn, Ne.symm hn, ih]

/-- A part with a wildcard in it is no part that stays or goes back. -/
theorem ne_of_wild {part : Text} (h : ∃ c ∈ part, IsWild c) : part ≠ [] ∧ part ≠ ['.'] ∧ part ≠ ['.', '.'] := by
  have hnone : ∀ other ∈ [[], ['.'], ['.', '.']], ¬∃ c ∈ other, IsWild c := by simp [IsWild]
  refine ⟨?_, ?_, ?_⟩ <;> rintro rfl <;> exact hnone _ (by simp) h

theorem dots_literal {part : Text} (h : ∃ c ∈ part, IsWild c) : dots (part.map literal) = [] := by
  rw [dots]
  split
  · rw [List.filter_eq_nil_iff]
    intro name hname hfits
    obtain rfl : name = part := fits_literal.1 hfits
    obtain ⟨-, hdot, hdots⟩ := ne_of_wild h
    simp [hdot, hdots] at hname
  · rfl

/-- A step along a part leads nowhere but to the child of that name. -/
theorem follow_child_of_partStep {steps : List Step} {path part found : Text}
    (h : found ∈ follow tree (partStep part :: steps) path) :
    found ∈ follow tree steps (child path part) := by
  rcases partStep_cases part with hstep | ⟨hwild, hstep⟩
  · rw [hstep, follow] at h
    split at h
    · exact h
    · cases h
  · rw [hstep, follow, mem_inFolder] at h
    obtain ⟨inside, -, hfound⟩ := h
    rw [dots_literal hwild, List.flatMap_nil, List.append_nil, List.mem_flatMap] at hfound
    obtain ⟨name, hname, hfound⟩ := hfound
    rw [List.mem_filter, fits_literal] at hname
    exact hname.2 ▸ hfound

/-- A step along a part leads to the child of that name if the walk goes on along the part. -/
theorem follow_partStep_of_child {steps : List Step} {path part found : Text} {p q : Place}
    (hplace : tree.place path = .ok p) (hpart : walk p [part] = .ok q)
    (hchild : tree.leadsTo (child path part) = true) (h : found ∈ follow tree steps (child path part)) :
    found ∈ follow tree (partStep part :: steps) path := by
  obtain ⟨inside, hinside, hwalk⟩ := walk_part_iff.1 hpart
  rcases partStep_cases part with hstep | ⟨hwild, hstep⟩
  · have hfolder : tree.isFolder path = true := isFolder_iff.2 ⟨p, inside, hplace, hinside⟩
    rw [hstep, follow, if_pos ?_]
    · exact h
    · by_cases hspecial : part = ['.'] ∨ part = ['.', '.']
      · exact .inl ⟨hspecial, hfolder⟩
      · exact .inr ⟨hspecial, hchild⟩
  · obtain ⟨hne, hdot, hdots⟩ := ne_of_wild hwild
    have hname : part ∈ namesIn inside := by
      obtain ⟨hstay, -⟩ | ⟨hback, -⟩ | ⟨-, entry, hget, -⟩ := hwalk
      · exact absurd hstay (by simp [hne, hdot])
      · exact absurd hback hdots
      · exact mem_namesIn.2 ⟨entry, hget⟩
    rw [hstep, follow, mem_inFolder]
    refine ⟨inside, lookup_eq_ok_iff.2 ⟨p, hplace, hinside⟩, List.mem_append_left _ ?_⟩
    exact List.mem_flatMap.2 ⟨part, List.mem_filter.2 ⟨hname, fits_literal.2 rfl⟩, h⟩

/-- Below a path: any number of folders, and then names that fit. -/
abbrev belowSteps (tokens : List Token) : List Step :=
  [.anyDepth, .fitting tokens]

theorem mem_follow_below {tokens : List Token} {path found : Text} :
    found ∈ follow tree (belowSteps tokens) path ↔
      ∃ inside name, tree.lookup path = .ok (.folder inside) ∧ (found, name) ∈ below path inside ∧
        Pattern.fits tokens name = true := by
  rw [follow, mem_inFolder]
  · simp [follow, Step.fits]
  · simp

/-- A search along the parts of a path comes to where the joined path leads. -/
theorem mem_follow_parts (hnamed : tree.Named) {tokens : List Token} {parts more : List Text}
    {path found : Text} (hpath : Written parts path) (hmore : ∀ part ∈ more, '/' ∉ part) :
    found ∈ follow tree (more.map partStep ++ belowSteps tokens) path ↔
      found ∈ follow tree (belowSteps tokens) (more.foldl join path) := by
  induction more generalizing parts path with
  | nil => rfl
  | cons part more ih =>
    have hpart : '/' ∉ part := hmore part (by simp)
    have hrest : ∀ part ∈ more, '/' ∉ part := fun other hother => hmore other (by simp [hother])
    have hjoin := hpath.join_part hpart
    rw [List.map_cons, List.cons_append, List.foldl_cons, ← ih hjoin hrest]
    constructor
    · intro h
      rw [← child_written hpath]
      exact follow_child_of_partStep h
    · intro h
      -- What is found is below a folder that the walk along all parts comes to.
      obtain ⟨inside, name, hlookup, -, -⟩ := mem_follow_below.1 ((ih hjoin hrest).1 h)
      obtain ⟨q, hq, -⟩ := lookup_eq_ok_iff.1 hlookup
      obtain ⟨r, hr, -⟩ := (place_foldl_join hnamed hjoin hrest).1 hq
      obtain ⟨p, hp, hwalk⟩ := (place_join hnamed hpath hpart).1 hr
      rw [← child_written hpath] at h hr
      exact follow_partStep_of_child hp hwalk (leadsTo_iff.2 ⟨r, hr⟩) h

/-- A search along the parts of a path from the working folder on. It passes dots at the front, and
    then needs a part that is not empty. -/
theorem mem_follow_path (hnamed : tree.Named) {tokens : List Token} {parts more : List Text}
    {first found : Text} (hparts : parts.dropWhile (· == ['.']) = first :: more)
    (hslash : ∀ part ∈ parts, '/' ∉ part) :
    found ∈ follow tree (parts.map partStep ++ belowSteps tokens) ['.'] ↔
      first ≠ [] ∧ found ∈ follow tree (belowSteps tokens) (more.foldl join first) := by
  have hhere : tree.place ['.'] = .ok tree.start := rfl
  induction parts with
  | nil => cases hparts
  | cons part rest ih =>
    have hrest : ∀ part ∈ rest, '/' ∉ part := fun other hother => hslash other (by simp [hother])
    rw [List.map_cons, List.cons_append]
    by_cases hdot : part = ['.']
    · subst hdot
      rw [List.dropWhile_cons_of_pos (by simp)] at hparts
      refine Iff.trans ?_ (ih hparts hrest)
      constructor
      · intro h
        exact child_dot ['.'] ▸ follow_child_of_partStep h
      · intro h
        exact follow_partStep_of_child hhere rfl rfl (child_dot ['.'] ▸ h)
    · rw [List.dropWhile_cons_of_neg (by simpa using hdot)] at hparts
      obtain ⟨rfl, rfl⟩ := List.cons.inj hparts
      by_cases hne : part = []
      · subst hne
        have hstep : partStep [] = .exactly [] := rfl
        have hlead : tree.leadsTo (child ['.'] []) = false := rfl
        rw [hstep, follow]
        simp [hlead]
      · have hpart : Written [part] part := written_part hne hdot (hslash part (by simp))
        rw [and_iff_right hne, ← mem_follow_parts hnamed hpart hrest]
        constructor
        · intro h
          exact child_dot part ▸ follow_child_of_partStep h
        · intro h
          obtain ⟨inside, name, hlookup, -, -⟩ :=
            mem_follow_below.1 ((mem_follow_parts hnamed hpart hrest).1 h)
          obtain ⟨q, hq, -⟩ := lookup_eq_ok_iff.1 hlookup
          obtain ⟨p, hp, -⟩ := (place_foldl_join hnamed hpart hrest).1 hq
          have hlead : tree.leadsTo (child ['.'] part) = true := leadsTo_iff.2 ⟨p, child_dot part ▸ hp⟩
          exact follow_partStep_of_child hhere ((place_part hnamed hpart).1 hp) hlead (child_dot part ▸ h)

theorem exists_names_of_mem_below {f : Folder} (hf : f.Named) {parts : List Text} {path : Text}
    (hpath : Written parts path) {found name : Text} (h : (found, name) ∈ below path f) :
    ∃ front, found = (front ++ [name]).foldl join path ∧ ∀ n ∈ front ++ [name], IsName n := by
  induction f generalizing parts path with
  | empty => simp [below] at h
  | file n content rest ih =>
    rw [below, List.mem_cons, Prod.mk.injEq, child_written hpath] at h
    rcases h with ⟨rfl, rfl⟩ | h
    · exact ⟨[], rfl, by simpa using hf.1⟩
    · exact ih hf.2 hpath h
  | folder n inside rest ihInside ihRest =>
    rw [below, List.cons_append, List.mem_cons, Prod.mk.injEq, List.mem_append, child_written hpath] at h
    rcases h with ⟨rfl, rfl⟩ | h | h
    · exact ⟨[], rfl, by simpa using hf.1⟩
    · have hjoin := hpath.join_name hf.1.ne_nil hf.1.slash_not_mem
      obtain ⟨front, hfound, hnames⟩ := ihInside hf.2.1 hjoin h
      refine ⟨n :: front, hfound, ?_⟩
      intro other hother
      rcases List.mem_cons.1 hother with rfl | hother
      · exact hf.1
      · exact hnames other hother
    · exact ihRest hf.2.2 hpath h

theorem mem_below_of_get? {f : Folder} {name : Text} {entry : FileEntry} (path : Text)
    (h : f.get? name = some entry) : (child path name, name) ∈ below path f := by
  induction f with
  | empty => simp [get?] at h
  | file n content rest ih =>
    rw [below, List.mem_cons]
    by_cases hn : n = name
    · exact .inl (by rw [hn])
    · exact .inr (ih (by simpa [get?, hn] using h))
  | folder n inside rest _ ih =>
    rw [below, List.cons_append, List.mem_cons, List.mem_append]
    by_cases hn : n = name
    · exact .inl (by rw [hn])
    · exact .inr (.inr (ih (by simpa [get?, hn] using h)))

theorem below_inside_subset {f inside : Folder} {name : Text} (path : Text)
    (h : f.get? name = some (.folder inside)) : below (child path name) inside ⊆ below path f := by
  induction f with
  | empty => simp [get?] at h
  | file n content rest ih =>
    have hn : n ≠ name := by
      rintro rfl
      simp [get?] at h
    exact List.subset_cons_of_subset _ (ih (by simpa [get?, hn] using h))
  | folder n inside' rest _ ih =>
    rw [below, List.cons_append]
    apply List.subset_cons_of_subset
    by_cases hn : n = name
    · obtain rfl : inside' = inside := by simpa [get?, hn] using h
      rw [hn]
      exact List.subset_append_left _ _
    · exact List.subset_append_of_subset_right _ (ih (by simpa [get?, hn] using h))

theorem exists_mem_below_of_fileAt {f : Folder} (hf : f.Named) {parts : List Text} {path : Text}
    (hpath : Written parts path) {names : List Text} (h : f.FileAt names) :
    ∃ name, names.getLast? = some name ∧ (names.foldl join path, name) ∈ below path f := by
  induction h generalizing parts path with
  | @file f name content hget =>
    refine ⟨name, rfl, ?_⟩
    rw [List.foldl_cons, List.foldl_nil, ← child_written hpath]
    exact mem_below_of_get? path hget
  | @folder f inside name names hget hnames ih =>
    obtain ⟨hname, hinside⟩ := hf.of_get? hget
    obtain ⟨last, hlast, hmem⟩ := ih (hinside _ rfl) (hpath.join_name hname.ne_nil hname.slash_not_mem)
    refine ⟨last, ?_, ?_⟩
    · rw [List.getLast?_cons, hlast]
      rfl
    · rw [← child_written hpath] at hmem
      rw [List.foldl_cons, ← child_written hpath]
      exact below_inside_subset path hget hmem

/-- The files among what is below a folder are those that names lead down to. -/
theorem file_below_iff (hnamed : tree.Named) {parts : List Text} {path : Text} (hpath : Written parts path)
    {inside : Folder} (hlookup : tree.lookup path = .ok (.folder inside)) {found name : Text} :
    ((found, name) ∈ below path inside ∧ tree.isFile found = true) ↔
      ∃ names, inside.FileAt names ∧ names.getLast? = some name ∧
        found = joinWith ['/'] (parts ++ names) := by
  obtain ⟨p, hp, hentry⟩ := lookup_eq_ok_iff.1 hlookup
  have hinside : inside.Named := hnamed.of_lookup hlookup
  have hfile {names : List Text} (hnames : ∀ name ∈ names, IsName name) :
      tree.isFile (names.foldl join path) = true ↔ inside.FileAt names := by
    rw [isFile_iff, ← walk_file_iff hentry hnames]
    have hplace {q : Place} := place_foldl_join hnamed hpath (q := q)
      fun name hname => (hnames name hname).slash_not_mem
    simp only [hplace, hp, Except.ok.injEq, exists_eq_left']
  constructor
  · rintro ⟨hmem, hisFile⟩
    obtain ⟨front, rfl, hnames⟩ := exists_names_of_mem_below hinside hpath hmem
    exact ⟨front ++ [name], (hfile hnames).1 hisFile, by simp, hpath.foldl_join_names (by simp) hnames⟩
  · rintro ⟨names, hnames, hlast, rfl⟩
    obtain ⟨last, hlast', hmem⟩ := exists_mem_below_of_fileAt hinside hpath hnames
    obtain rfl : last = name := Option.some.inj (hlast'.symm.trans hlast)
    rw [← hpath.foldl_join_names hnames.ne_nil (hnames.isName hinside)]
    exact ⟨hmem, (hfile (hnames.isName hinside)).2 hnames⟩

/-- The files with an extension at any depth below a path, as a search meets them. -/
def filesBelow (tree : Folder) (base extension : Text) : List Text :=
  (follow tree ((splitOn '/' base).map partStep ++ belowSteps (.anyChars :: ('.' :: extension).map literal))
    ['.']).filter tree.isFile

theorem files_eq_ok {extension : Text} (hext : IsPlain extension) (base : Text) :
    files tree (escape base ++ "/**/*.".toList ++ extension) = .ok (filesBelow tree base extension) := by
  have hlast : (escape base ++ "/**/*.".toList ++ extension).getLast? ≠ some '/' := by
    have hpattern : escape base ++ "/**/*.".toList ++ extension =
        escape base ++ "/**/*".toList ++ '.' :: extension := by
      simp
    rw [hpattern, List.getLast?_append_of_ne_nil _ (by simp)]
    intro hslash
    rcases List.mem_cons.1 (List.mem_of_getLast? hslash) with heq | hmem
    · cases heq
    · exact (hext '/' hmem).1 rfl
  rw [files, steps_below hext]
  simp only [if_neg hlast]
  rfl

/-- A search finds the files that names lead down to from where the path leads, and shows them with
    the parts of the path. It finds none if the path has an empty part right after its dots. -/
theorem mem_filesBelow (hnamed : tree.Named) {base extension : Text} (hbase : LeadsOn base) {found : Text} :
    found ∈ filesBelow tree base extension ↔
      ¬EmptyAfterDots base ∧ ∃ inside names name, tree.lookup base = .ok (.folder inside) ∧
        inside.FileAt names ∧ names.getLast? = some name ∧ '.' :: extension <:+ name ∧
        found = joinWith ['/'] (shownParts base ++ names) := by
  obtain ⟨first, more, hparts, hdot⟩ := hbase.exists_first
  have hempty : EmptyAfterDots base ↔ first = [] := by simp [EmptyAfterDots, hparts]
  rw [filesBelow, List.mem_filter, mem_follow_path hnamed hparts fun part => not_mem_of_mem_splitOn,
    and_assoc, hempty]
  refine and_congr_right fun hfirst => ?_
  have hpath := written_shownParts hparts hfirst hdot
  have hwritten : Written [first] first :=
    written_part hfirst hdot (slash_not_mem_of_dropWhile hparts first (by simp))
  have hlookup {entry : FileEntry} :
      tree.lookup (more.foldl join first) = .ok entry ↔ tree.lookup base = .ok entry := by
    simp only [lookup_eq_ok_iff, place_dropWhile hnamed hbase hparts hwritten]
  rw [mem_follow_below]
  simp only [fits_anyChars]
  constructor
  · rintro ⟨⟨inside, name, hinside, hbelow, hname⟩, hfile⟩
    obtain ⟨names, hnames, hlast, rfl⟩ := (file_below_iff hnamed hpath hinside).1 ⟨hbelow, hfile⟩
    exact ⟨inside, names, name, hlookup.1 hinside, hnames, hlast, hname, rfl⟩
  · rintro ⟨inside, names, name, hinside, hnames, hlast, hname, hfound⟩
    have hfolder := hlookup.2 hinside
    obtain ⟨hbelow, hfile⟩ := (file_below_iff hnamed hpath hfolder).2 ⟨names, hnames, hlast, hfound⟩
    exact ⟨⟨inside, name, hfolder, hbelow, hname⟩, hfile⟩

/-- Files below a path that come at the same place in the order of paths are the same. -/
theorem eq_of_order_filesBelow (hnamed : tree.Named) {base extension extension' : Text} (hbase : LeadsOn base)
    {p q : Text} (hp : p ∈ filesBelow tree base extension) (hq : q ∈ filesBelow tree base extension')
    (horder : Path.order p q = .eq) : p = q := by
  obtain ⟨first, more, hparts, hdot⟩ := hbase.exists_first
  rw [mem_filesBelow hnamed hbase] at hp hq
  obtain ⟨hempty, inside, names, name, hinside, hnames, -, -, rfl⟩ := hp
  obtain ⟨-, inside', names', name', hinside', hnames', -, -, rfl⟩ := hq
  have hfirst : first ≠ [] := by simpa [EmptyAfterDots, hparts] using hempty
  have hpath := written_shownParts hparts hfirst hdot
  have hisName := hnames.isName (hnamed.of_lookup hinside)
  have hisName' := hnames'.isName (hnamed.of_lookup hinside')
  rw [← hpath.foldl_join_names hnames.ne_nil hisName, ← hpath.foldl_join_names hnames'.ne_nil hisName']
    at horder
  rw [hpath.foldl_join_inj hisName hisName' (names_eq_of_order horder)]

end ApiGuide.Search
