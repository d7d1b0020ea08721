import ApiGuide.Files.Folder
import ApiGuide.Proofs.Files.Path

/-!
Walks through a tree of files: what one part of a path does, and where joined paths lead.

Everything is said of walks that arrive. Which fault stops the others depends on how a path is
written, where they arrive does not.
-/

namespace ApiGuide.Folder

open Text ApiGuide.Path

/-- Every name in the folder, at any depth, is one that a folder can hold. -/
def Named : Folder → Prop
  | empty => True
  | file name _ rest => IsName name ∧ rest.Named
  | folder name inside rest => IsName name ∧ inside.Named ∧ rest.Named

instance Named.decidable : (f : Folder) → Decidable f.Named
  | empty => .isTrue trivial
  | file name _ rest =>
    have := Named.decidable rest
    inferInstanceAs (Decidable (IsName name ∧ rest.Named))
  | folder name inside rest =>
    have := Named.decidable inside
    have := Named.decidable rest
    inferInstanceAs (Decidable (IsName name ∧ inside.Named ∧ rest.Named))

/-- The names lead down from the folder to a file. -/
inductive FileAt : Folder → List Text → Prop
  | file {f : Folder} {name : Text} {content : List UInt8} (h : f.get? name = some (.file content)) :
      FileAt f [name]
  | folder {f inside : Folder} {name : Text} {names : List Text} (h : f.get? name = some (.folder inside))
      (hnames : FileAt inside names) : FileAt f (name :: names)

/-- All folders that a place knows have names that folders can hold. -/
structure Place.Named (p : Place) : Prop where
  trail : ∀ step ∈ p.trail, step.2.Named
  entry : ∀ f, p.entry = .folder f → f.Named

theorem Named.of_get? {f : Folder} (h : f.Named) {name : Text} {entry : FileEntry}
    (hget : f.get? name = some entry) : IsName name ∧ ∀ inside, entry = .folder inside → inside.Named := by
  induction f with
  | empty => simp [get?] at hget
  | file n content rest ih =>
    rw [get?] at hget
    split at hget
    · next hn =>
      obtain rfl := Option.some.inj hget
      exact ⟨hn ▸ h.1, by simp⟩
    · exact ih h.2 hget
  | folder n inside rest _ ih =>
    rw [get?] at hget
    split at hget
    · next hn =>
      obtain rfl := Option.some.inj hget
      refine ⟨hn ▸ h.1, ?_⟩
      rintro _ ⟨⟩
      exact h.2.1
    · exact ih h.2.2 hget

/-- What one part of a path does: it needs a folder, and stays there, goes back or goes down. -/
theorem walk_part_iff {p q : Place} {part : Text} :
    walk p [part] = .ok q ↔ ∃ f, p.entry = .folder f ∧
      (((part = [] ∨ part = ['.']) ∧ q = p) ∨
      (part = ['.', '.'] ∧ ∃ name above trail, p.trail = (name, above) :: trail ∧
        q = ⟨trail, .folder above⟩) ∨
      ((part ≠ [] ∧ part ≠ ['.'] ∧ part ≠ ['.', '.']) ∧
        ∃ entry, f.get? part = some entry ∧ q = ⟨(part, f) :: p.trail, entry⟩)) := by
  obtain ⟨trail, entry⟩ := p
  cases entry with
  | file content => simp [walk]
  | folder f =>
    by_cases hstay : part = [] ∨ part = ['.']
    · rcases hstay with rfl | rfl
      · simp only [walk]
        simp [@eq_comm _ q]
      · simp only [walk]
        simp [@eq_comm _ q]
    · have hnil : part ≠ [] := fun h => hstay (.inl h)
      have hdot : part ≠ ['.'] := fun h => hstay (.inr h)
      by_cases hback : part = ['.', '.']
      · subst hback
        cases trail with
        | nil => simp [walk]
        | cons step trail =>
          obtain ⟨name, above⟩ := step
          simp [walk, @eq_comm _ q]
      · cases hget : f.get? part with
        | none => simp [walk, hnil, hdot, hback, hget]
        | some entry => simp [walk, hnil, hdot, hback, hget, @eq_comm _ q]

theorem walk_append {p q : Place} {parts more : List Text} :
    walk p (parts ++ more) = .ok q ↔ ∃ r, walk p parts = .ok r ∧ walk r more = .ok q := by
  fun_induction walk p parts <;> simp_all [walk]

theorem walk_cons {p q : Place} {part : Text} {rest : List Text} :
    walk p (part :: rest) = .ok q ↔ ∃ r, walk p [part] = .ok r ∧ walk r rest = .ok q :=
  @walk_append p q [part] rest

theorem walk_name {p q : Place} {f : Folder} {name : Text} (hname : IsName name)
    (hp : p.entry = .folder f) :
    walk p [name] = .ok q ↔ ∃ entry, f.get? name = some entry ∧ q = ⟨(name, f) :: p.trail, entry⟩ := by
  rw [walk_part_iff]
  simp [hp, hname.ne_nil, hname.ne_dot, hname.ne_dots]

theorem Place.Named.walk_part {p q : Place} {part : Text} (h : p.Named) (hwalk : walk p [part] = .ok q) :
    q.Named ∧ '\x00' ∉ part := by
  obtain ⟨f, hf, ⟨hstay, rfl⟩ | ⟨rfl, name, above, trail, htrail, rfl⟩ | ⟨-, entry, hget, rfl⟩⟩ :=
    walk_part_iff.1 hwalk
  · refine ⟨h, ?_⟩
    rcases hstay with rfl | rfl <;> simp
  · refine ⟨⟨?_, ?_⟩, by simp⟩
    · intro step hstep
      exact h.trail step (by simp [htrail, hstep])
    · rintro _ ⟨⟩
      exact h.trail (name, above) (by simp [htrail])
  · obtain ⟨hname, hinside⟩ := (h.entry f hf).of_get? hget
    refine ⟨⟨?_, hinside⟩, hname.nul_not_mem⟩
    intro step hstep
    rcases List.mem_cons.1 hstep with rfl | hold
    · exact h.entry f hf
    · exact h.trail step hold

theorem Place.Named.walk {p q : Place} {parts : List Text} (h : p.Named) (hwalk : walk p parts = .ok q) :
    q.Named ∧ ∀ part ∈ parts, '\x00' ∉ part := by
  induction parts generalizing p with
  | nil =>
    obtain rfl : p = q := by simpa [Folder.walk] using hwalk
    exact ⟨h, by simp⟩
  | cons part rest ih =>
    obtain ⟨r, hpart, hrest⟩ := walk_cons.1 hwalk
    obtain ⟨hr, hnul⟩ := h.walk_part hpart
    obtain ⟨hq, hnuls⟩ := ih hr hrest
    exact ⟨hq, by simpa using ⟨hnul, hnuls⟩⟩

theorem lookup_eq_ok_iff {tree : Folder} {path : Text} {entry : FileEntry} :
    tree.lookup path = .ok entry ↔ ∃ p, tree.place path = .ok p ∧ p.entry = entry := by
  cases hplace : tree.place path <;> simp [lookup, hplace, Except.map]

theorem isFile_iff {tree : Folder} {path : Text} :
    tree.isFile path = true ↔ ∃ p content, tree.place path = .ok p ∧ p.entry = .file content := by
  cases hplace : tree.place path with
  | error fault => simp [isFile, lookup, hplace, Except.map]
  | ok p => cases hentry : p.entry <;> simp [isFile, lookup, hplace, Except.map, hentry, FileEntry.isFile]

theorem isFolder_iff {tree : Folder} {path : Text} :
    tree.isFolder path = true ↔ ∃ p inside, tree.place path = .ok p ∧ p.entry = .folder inside := by
  cases hplace : tree.place path with
  | error fault => simp [isFolder, lookup, hplace, Except.map]
  | ok p => cases hentry : p.entry <;> simp [isFolder, lookup, hplace, Except.map, hentry, FileEntry.isFolder]

theorem leadsTo_iff {tree : Folder} {path : Text} :
    tree.leadsTo path = true ↔ ∃ p, tree.place path = .ok p := by
  cases hplace : tree.place path <;> simp [leadsTo, lookup, hplace, Except.map]

/-- The working folder, where walks start. -/
def start (tree : Folder) : Place :=
  ⟨[], .folder tree⟩

theorem Named.start {tree : Folder} (h : tree.Named) : tree.start.Named where
  trail := by simp [Folder.start]
  entry := by
    rintro _ ⟨⟩
    exact h

/-- A path leads where its parts lead. No name holds the character that no path may hold, so in a
    walk that arrives there is nothing to check. -/
theorem place_eq_ok_iff {tree : Folder} (h : tree.Named) {path : Text} (hne : path ≠ [])
    (hroot : path.head? ≠ some '/') {q : Place} :
    tree.place path = .ok q ↔ walk tree.start (splitOn '/' path) = .ok q := by
  by_cases hnul : '\x00' ∈ path
  · rw [place, if_pos hnul]
    simp only [reduceCtorEq, false_iff]
    intro hwalk
    have hparts := (h.start.walk hwalk).2
    have hpath : joinWith ['/'] (splitOn '/' path) = path := by
      rw [splitOn_eq_list_splitOn]
      exact List.intercalate_splitOn '/'
    exact not_mem_joinWith (by decide) hparts (hpath ▸ hnul)
  · rw [place, if_neg hnul, if_neg (by simp [hne, hroot])]
    rfl

theorem place_written {tree : Folder} (h : tree.Named) {parts : List Text} {path : Text}
    (hpath : Written parts path) {q : Place} :
    tree.place path = .ok q ↔ walk tree.start (splitOn '/' path) = .ok q := by
  obtain ⟨c, rest, rfl, hc⟩ := hpath.exists_cons
  exact place_eq_ok_iff h (by simp) (by simpa using hc)

theorem of_place {tree : Folder} {path : Text} {p : Place} (h : tree.place path = .ok p) :
    (path ≠ [] ∧ path.head? ≠ some '/') ∧ walk tree.start (splitOn '/' path) = .ok p := by
  rw [place] at h
  split at h
  · cases h
  · split at h
    · cases h
    · next hrelative =>
      rw [not_or] at hrelative
      exact ⟨hrelative, h⟩

theorem Named.of_lookup {tree inside : Folder} (h : tree.Named) {path : Text}
    (hlookup : tree.lookup path = .ok (.folder inside)) : inside.Named := by
  obtain ⟨p, hp, hentry⟩ := lookup_eq_ok_iff.1 hlookup
  exact (h.start.walk (of_place hp).2).1.entry inside hentry

theorem place_part {tree : Folder} (h : tree.Named) {part : Text} (hpart : Written [part] part) {q : Place} :
    tree.place part = .ok q ↔ walk tree.start [part] = .ok q := by
  rw [place_written h hpart, splitOn_part (hpart.part part (by simp)).2]

/-- Dots at the front of a path stay in the working folder. -/
theorem walk_start_dropWhile (tree : Folder) (parts : List Text) :
    walk tree.start (parts.dropWhile (· == ['.'])) = walk tree.start parts := by
  induction parts with
  | nil => rfl
  | cons part rest ih =>
    by_cases hdot : part = ['.']
    · rw [List.dropWhile_cons_of_pos (by simpa using hdot), ih, hdot]
      simp [walk, start]
    · rw [List.dropWhile_cons_of_neg (by simpa using hdot)]

/-- A part that is joined to a path leads on from where the path leads. -/
theorem place_join {tree : Folder} (h : tree.Named) {parts : List Text} {path part : Text}
    (hpath : Written parts path) (hslash : '/' ∉ part) {q : Place} :
    tree.place (join path part) = .ok q ↔ ∃ p, tree.place path = .ok p ∧ walk p [part] = .ok q := by
  rw [place_written h (hpath.join_part hslash), hpath.splitOn_join hslash, walk_append]
  simp only [place_written h hpath]
  rcases hpath.splitOn_eq with hsplit | hsplit
  · rw [hsplit]
  · -- The slash at the end asks for the folder that the part asks for anyway.
    rw [hsplit]
    constructor
    · rintro ⟨r, hr, hpart⟩
      obtain ⟨f, hf, -⟩ := walk_part_iff.1 hpart
      exact ⟨r, walk_append.2 ⟨r, hr, walk_part_iff.2 ⟨f, hf, .inl ⟨.inl rfl, rfl⟩⟩⟩, hpart⟩
    · rintro ⟨r, hr, hpart⟩
      obtain ⟨p, hp, hend⟩ := walk_append.1 hr
      obtain ⟨f, -, ⟨-, rfl⟩ | ⟨hback, -⟩ | ⟨⟨hne, -⟩, -⟩⟩ := walk_part_iff.1 hend
      · exact ⟨r, hp, hpart⟩
      · cases hback
      · exact absurd rfl hne

/-- Parts that are joined to a path lead on from where the path leads. -/
theorem place_foldl_join {tree : Folder} (h : tree.Named) {parts more : List Text} {path : Text}
    (hpath : Written parts path) (hmore : ∀ part ∈ more, '/' ∉ part) {q : Place} :
    tree.place (more.foldl join path) = .ok q ↔ ∃ p, tree.place path = .ok p ∧ walk p more = .ok q := by
  induction more generalizing parts path with
  | nil => simp [walk]
  | cons part more ih =>
    have hpart : '/' ∉ part := hmore part (by simp)
    rw [List.foldl_cons, ih (hpath.join_part hpart) fun other hother => hmore other (by simp [hother])]
    constructor
    · rintro ⟨r, hr, hwalk⟩
      obtain ⟨p, hp, hstep⟩ := (place_join h hpath hpart).1 hr
      exact ⟨p, hp, walk_cons.2 ⟨r, hstep, hwalk⟩⟩
    · rintro ⟨p, hp, hwalk⟩
      obtain ⟨r, hstep, hwalk⟩ := walk_cons.1 hwalk
      exact ⟨r, (place_join h hpath hpart).2 ⟨p, hp, hstep⟩, hwalk⟩

/-- A path without its dots at the front leads to the same place. -/
theorem place_dropWhile {tree : Folder} (h : tree.Named) {path first : Text} {more : List Text}
    (hpath : LeadsOn path)
    (hparts : (splitOn '/' path).dropWhile (· == ['.']) = first :: more) (hfirst : Written [first] first)
    {q : Place} : tree.place (more.foldl join first) = .ok q ↔ tree.place path = .ok q := by
  have hmore : ∀ part ∈ more, '/' ∉ part := fun part hpart =>
    slash_not_mem_of_dropWhile hparts part (List.mem_cons_of_mem _ hpart)
  rw [place_eq_ok_iff h hpath.ne_nil hpath.head?_ne, ← walk_start_dropWhile, hparts, walk_cons]
  simp only [place_foldl_join h hfirst hmore, place_part h hfirst]

theorem FileAt.ne_nil {f : Folder} {names : List Text} (hfile : FileAt f names) : names ≠ [] := by
  cases hfile <;> simp

theorem FileAt.isName {f : Folder} {names : List Text} (hfile : FileAt f names) (h : f.Named) :
    ∀ name ∈ names, IsName name := by
  induction hfile with
  | file hget => simpa using (h.of_get? hget).1
  | folder hget _ ih =>
    obtain ⟨hname, hinside⟩ := h.of_get? hget
    simpa using ⟨hname, ih (hinside _ rfl)⟩

/-- A walk down from a folder along names arrives at a file if the names lead to one. -/
theorem walk_file_iff {p : Place} {f : Folder} {names : List Text} (hp : p.entry = .folder f)
    (hnames : ∀ name ∈ names, IsName name) :
    (∃ q content, walk p names = .ok q ∧ q.entry = .file content) ↔ FileAt f names := by
  induction names generalizing p f with
  | nil =>
    constructor
    · rintro ⟨q, content, hwalk, hq⟩
      obtain rfl : p = q := by simpa [walk] using hwalk
      rw [hp] at hq
      cases hq
    · intro hfile
      cases hfile
  | cons name rest ih =>
    have hname : IsName name := hnames name (by simp)
    have hrest : ∀ name ∈ rest, IsName name := fun other hother => hnames other (by simp [hother])
    constructor
    · rintro ⟨q, content, hwalk, hq⟩
      obtain ⟨r, hpart, hwalk⟩ := walk_cons.1 hwalk
      obtain ⟨entry, hget, rfl⟩ := (walk_name hname hp).1 hpart
      cases entry with
      | folder inside => exact .folder hget ((ih rfl hrest).1 ⟨q, content, hwalk, hq⟩)
      | file content' =>
        -- Nothing is below a file.
        cases rest with
        | nil => exact .file hget
        | cons next rest => simp [walk] at hwalk
    · intro hfile
      cases hfile with
      | file hget =>
        exact ⟨_, _, (walk_name hname hp).2 ⟨_, hget, rfl⟩, rfl⟩
      | folder hget hfile =>
        obtain ⟨q, content, hwalk, hq⟩ := (ih (p := ⟨(name, f) :: p.trail, _⟩) rfl hrest).2 hfile
        exact ⟨q, content, walk_cons.2 ⟨_, (walk_name hname hp).2 ⟨_, hget, rfl⟩, hwalk⟩, hq⟩

end ApiGuide.Folder
