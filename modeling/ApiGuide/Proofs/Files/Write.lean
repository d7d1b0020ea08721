import ApiGuide.Proofs.Files.Walk
import ApiGuide.Proofs.Text.Blanks

/-!
Writing a file changes what stands at one place of the tree and nothing else.

A place is told by the names that lead down to it, since many paths lead to the same place. The path
that was written leads to the new file, also when it goes up and down on its way.
-/

namespace ApiGuide

open Text

namespace FileEntry

/-- What the names lead down to from an entry. -/
def below? : FileEntry → List Text → Option FileEntry
  | entry, [] => some entry
  | .file _, _ :: _ => none
  | .folder f, name :: rest => (f.get? name).bind (below? · rest)

/-- The bytes of a file. A folder has none. -/
def bytes? : FileEntry → Option (List UInt8)
  | .file content => some content
  | .folder _ => none

@[simp]
theorem below?_nil (entry : FileEntry) : entry.below? [] = some entry := by
  cases entry <;> rfl

theorem below?_folder_cons (f : Folder) (name : Text) (rest : List Text) :
    (folder f).below? (name :: rest) = (f.get? name).bind (below? · rest) := rfl

theorem below?_append (entry : FileEntry) (names more : List Text) :
    entry.below? (names ++ more) = (entry.below? names).bind (below? · more) := by
  induction names generalizing entry with
  | nil => simp
  | cons name rest ih =>
    cases entry with
    | file content => rfl
    | folder f =>
      rw [List.cons_append, below?_folder_cons, below?_folder_cons]
      cases f.get? name with
      | none => rfl
      | some inside => exact ih inside

end FileEntry

namespace Folder

/-- The bytes of the file that the names lead down to. -/
def bytesAt? (tree : Folder) (names : List Text) : Option (List UInt8) :=
  ((FileEntry.folder tree).below? names).bind (·.bytes?)

/-- The names lead down to a folder. -/
def HasFolderAt (tree : Folder) (names : List Text) : Prop :=
  ∃ inside, (FileEntry.folder tree).below? names = some (.folder inside)

theorem bytesAt?_eq (tree : Folder) (names : List Text) :
    tree.bytesAt? names = (((FileEntry.folder tree).below? names).map (·.bytes?)).join := by
  rw [bytesAt?]
  cases (FileEntry.folder tree).below? names <;> rfl

theorem hasFolderAt_iff {tree : Folder} {names : List Text} :
    tree.HasFolderAt names ↔ ((FileEntry.folder tree).below? names).map (·.bytes?) = some none := by
  rw [HasFolderAt, Option.map_eq_some_iff]
  constructor
  · rintro ⟨inside, hbelow⟩
    exact ⟨_, hbelow, rfl⟩
  · rintro ⟨entry, hbelow, hbytes⟩
    cases entry with
    | file content => cases hbytes
    | folder inside => exact ⟨inside, hbelow⟩

theorem get?_set (f : Folder) (name other : Text) (entry : FileEntry) :
    (f.set name entry).get? other = if other = name then some entry else f.get? other := by
  induction f with
  | empty => cases entry <;> simp [set, get?, eq_comm]
  | file n content rest ih =>
    cases entry with
    | file content' => grind [set, get?]
    | folder inside => grind [set, get?]
  | folder n inside rest _ ih =>
    cases entry with
    | file content => grind [set, get?]
    | folder inside' => grind [set, get?]

theorem put_concat {f g : Folder} {name last : Text} {front : List Text} (entry : FileEntry)
    (hget : f.get? name = some (.folder g)) :
    f.put entry (name :: front ++ [last]) = f.set name (.folder (g.put entry (front ++ [last]))) := by
  have hinside : f.subfolder name = g := by rw [subfolder, hget]
  cases front with
  | nil =>
    change f.set name (.folder ((f.subfolder name).put entry [last])) = _
    rw [hinside, List.nil_append]
  | cons next front =>
    change f.set name (.folder ((f.subfolder name).put entry (next :: front ++ [last]))) = _
    rw [hinside]

/-- A file that is put into a folder that is there, in the place of no folder, stands where it was put.
    Everywhere else stands what stood there before, up to what is further inside of folders. -/
theorem bytes?_below?_put {f inside : Folder} {front : List Text} {last : Text} (content : List UInt8)
    (hfront : (FileEntry.folder f).below? front = some (.folder inside))
    (hlast : ∀ g, inside.get? last ≠ some (.folder g)) (names : List Text) :
    ((FileEntry.folder (f.put (.file content) (front ++ [last]))).below? names).map (·.bytes?) =
      if names = front ++ [last] then some (some content)
      else ((FileEntry.folder f).below? names).map (·.bytes?) := by
  induction front generalizing f names with
  | nil =>
    obtain rfl : f = inside := by simpa using hfront
    rw [List.nil_append, put]
    cases names with
    | nil => rfl
    | cons name rest =>
      rw [FileEntry.below?_folder_cons, FileEntry.below?_folder_cons, get?_set]
      by_cases hname : name = last
      · subst hname
        cases rest with
        | nil => simp [FileEntry.bytes?]
        | cons next rest =>
          -- Nothing is below a file, before as after.
          have hnone : ∀ entry, f.get? name = some entry → entry.below? (next :: rest) = none := by
            intro entry hentry
            cases entry with
            | file content' => rfl
            | folder g => exact absurd hentry (hlast g)
          cases hget : f.get? name with
          | none => simp [FileEntry.below?]
          | some entry => simp [FileEntry.below?, hnone entry hget]
      · simp [hname]
  | cons first front ih =>
    rw [FileEntry.below?_folder_cons] at hfront
    obtain ⟨entry, hget, hentry⟩ := Option.bind_eq_some_iff.1 hfront
    cases entry with
    | file content' => cases front <;> cases hentry
    | folder g =>
      rw [put_concat _ hget]
      cases names with
      | nil => rfl
      | cons name rest =>
        rw [FileEntry.below?_folder_cons, FileEntry.below?_folder_cons, get?_set]
        by_cases hname : name = first
        · subst hname
          simp [hget, ih hentry]
        · simp [hname]

/-- A place that walks from the tree come to: everything on its trail is found in the folder before. -/
inductive Within (tree : Folder) : List (Text × Folder) → FileEntry → Prop
  | start : Within tree [] (.folder tree)
  | down {trail : List (Text × Folder)} {above : Folder} {name : Text} {entry : FileEntry}
      (h : Within tree trail (.folder above)) (hget : above.get? name = some entry) :
      Within tree ((name, above) :: trail) entry

theorem Within.below? {tree : Folder} {p : Place} (h : Within tree p.trail p.entry) :
    (FileEntry.folder tree).below? p.names = some p.entry := by
  obtain ⟨trail, entry⟩ := p
  dsimp only at h
  induction h with
  | start => rfl
  | @down trail above name entry _ hget ih =>
    have hnames : Place.names ⟨(name, above) :: trail, entry⟩ = Place.names ⟨trail, .folder above⟩ ++ [name] := by
      simp [Place.names]
    rw [hnames, FileEntry.below?_append, ih, Option.bind_some, FileEntry.below?_folder_cons, hget]
    exact FileEntry.below?_nil entry

theorem Within.hasFolderAt_iff {tree : Folder} {p : Place} (h : Within tree p.trail p.entry) :
    tree.HasFolderAt p.names ↔ ∃ inside, p.entry = .folder inside := by
  simp only [HasFolderAt, h.below?, Option.some.injEq]

theorem Within.of_walk_part {tree : Folder} {p q : Place} (h : Within tree p.trail p.entry) {part : Text}
    (hwalk : walk p [part] = .ok q) : Within tree q.trail q.entry := by
  obtain ⟨f, hf, ⟨-, rfl⟩ | ⟨-, name, above, trail, htrail, rfl⟩ | ⟨-, entry, hget, rfl⟩⟩ :=
    walk_part_iff.1 hwalk
  · exact h
  · rw [htrail] at h
    cases h with
    | down hup _ => exact hup
  · rw [hf] at h
    exact h.down hget

theorem Within.of_walk {tree : Folder} {p q : Place} (h : Within tree p.trail p.entry) {parts : List Text}
    (hwalk : walk p parts = .ok q) : Within tree q.trail q.entry := by
  induction parts generalizing p with
  | nil =>
    obtain rfl : p = q := by simpa [Folder.walk] using hwalk
    exact h
  | cons part rest ih =>
    obtain ⟨r, hpart, hrest⟩ := walk_cons.1 hwalk
    exact ih (h.of_walk_part hpart) hrest

/-- The parts of a path before its last lead through folders. -/
theorem folder_of_walk {p q : Place} {parts : List Text} {inside : Folder} (hwalk : walk p parts = .ok q)
    (hq : q.entry = .folder inside) : ∃ f, p.entry = .folder f := by
  cases parts with
  | nil =>
    obtain rfl : p = q := by simpa [Folder.walk] using hwalk
    exact ⟨inside, hq⟩
  | cons part rest =>
    obtain ⟨r, hpart, -⟩ := walk_cons.1 hwalk
    obtain ⟨f, hf, -⟩ := walk_part_iff.1 hpart
    exact ⟨f, hf⟩

section Rebuilt

variable {tree tree' : Folder} (hfolders : ∀ names, tree.HasFolderAt names → tree'.HasFolderAt names)

include hfolders

/-- One part of a path leads on to the same names in a tree that has the same folders. -/
theorem Within.exists_walk_part {p p' q : Place} (hp : Within tree p.trail p.entry)
    (hp' : Within tree' p'.trail p'.entry) (hnames : p'.names = p.names) {part : Text} {inside : Folder}
    (hwalk : walk p [part] = .ok q) (hq : q.entry = .folder inside) :
    ∃ q', walk p' [part] = .ok q' ∧ q'.names = q.names := by
  obtain ⟨f', hf'⟩ : ∃ f', p'.entry = .folder f' := by
    obtain ⟨f, hf⟩ := folder_of_walk hwalk hq
    rw [← hp'.hasFolderAt_iff, hnames]
    exact hfolders _ (hp.hasFolderAt_iff.2 ⟨f, hf⟩)
  have hqnames : tree'.HasFolderAt q.names :=
    hfolders _ ((hp.of_walk_part hwalk).hasFolderAt_iff.2 ⟨inside, hq⟩)
  obtain ⟨f, hf, ⟨hstay, rfl⟩ | ⟨hback, name, above, trail, htrail, rfl⟩ | ⟨hname, entry, hget, rfl⟩⟩ :=
    walk_part_iff.1 hwalk
  · exact ⟨p', walk_part_iff.2 ⟨f', hf', .inl ⟨hstay, rfl⟩⟩, hnames⟩
  · -- The names behind the place are those of its trail, so there is a folder to go back to.
    have hsame : p'.trail.map (·.1) = name :: trail.map (·.1) := by
      have hreverse := congrArg List.reverse hnames
      simpa [Place.names, htrail] using hreverse
    obtain ⟨⟨name', above'⟩, trail', htrail', -, hrest⟩ := List.map_eq_cons_iff.1 hsame
    refine ⟨⟨trail', .folder above'⟩, walk_part_iff.2 ⟨f', hf', .inr (.inl ⟨hback, name', above', trail',
      htrail', rfl⟩)⟩, ?_⟩
    simp only [Place.names, hrest]
  · have hdown : Place.names ⟨(part, f) :: p.trail, entry⟩ = p'.names ++ [part] := by
      rw [hnames]
      simp [Place.names]
    obtain ⟨inside', hbelow⟩ := hqnames
    rw [hdown, FileEntry.below?_append, hp'.below?, Option.bind_some, hf', FileEntry.below?_folder_cons] at hbelow
    obtain ⟨entry', hget', -⟩ := Option.bind_eq_some_iff.1 hbelow
    refine ⟨⟨(part, f') :: p'.trail, entry'⟩, walk_part_iff.2 ⟨f', hf', .inr (.inr ⟨hname, entry', hget',
      rfl⟩)⟩, ?_⟩
    rw [hdown]
    simp [Place.names]

/-- A walk that arrives at a folder arrives at the same names in a tree that has the same folders. -/
theorem Within.exists_walk {p p' q : Place} (hp : Within tree p.trail p.entry)
    (hp' : Within tree' p'.trail p'.entry) (hnames : p'.names = p.names) {parts : List Text} {inside : Folder}
    (hwalk : walk p parts = .ok q) (hq : q.entry = .folder inside) :
    ∃ q', walk p' parts = .ok q' ∧ q'.names = q.names := by
  induction parts generalizing p p' with
  | nil =>
    obtain rfl : p = q := by simpa [Folder.walk] using hwalk
    exact ⟨p', rfl, hnames⟩
  | cons part rest ih =>
    obtain ⟨r, hpart, hrest⟩ := walk_cons.1 hwalk
    obtain ⟨f, hf⟩ := folder_of_walk hrest hq
    obtain ⟨r', hpart', hnames'⟩ := hp.exists_walk_part hfolders hp' hnames hpart hf
    obtain ⟨q', hrest', hq'⟩ := ih (hp.of_walk_part hpart) (hp'.of_walk_part hpart') hnames' hrest
    exact ⟨q', walk_cons.2 ⟨r', hpart', hrest'⟩, hq'⟩

end Rebuilt

theorem getLast?_ne_slash_of_write {tree tree' : Folder} {path : Text} {content : List UInt8}
    (h : tree.write path content = .ok tree') : path.getLast? ≠ some '/' := by
  intro hslash
  rw [write] at h
  simp only [hslash, true_or, if_true] at h
  repeat' split at h
  all_goals cases h

/-- When a write succeeds: the path ends in a name, the parts before the name lead to a folder, and the
    folder has no folder of that name. -/
theorem write_eq_ok {tree tree' : Folder} {path : Text} {content : List UInt8}
    (h : tree.write path content = .ok tree') :
    '\x00' ∉ path ∧ ¬ (path = [] ∨ path.head? = some '/') ∧
      ∃ front last p inside, splitOn '/' path = front ++ [last] ∧ walk tree.start front = .ok p ∧
        p.entry = .folder inside ∧ (last ≠ [] ∧ last ≠ ['.'] ∧ last ≠ ['.', '.']) ∧
        (∀ g, inside.get? last ≠ some (.folder g)) ∧ tree' = tree.put (.file content) (p.names ++ [last]) := by
  have hslash := getLast?_ne_slash_of_write h
  have hpath : dropEndWhile (· == '/') path = path := by
    rw [dropEndWhile_eq_self_iff_getLast?]
    intro c hc
    rw [beq_eq_false_iff_ne]
    rintro rfl
    exact hslash hc
  obtain ⟨front, last, hparts⟩ : ∃ front last, splitOn '/' path = front ++ [last] := by
    have hne : splitOn '/' path ≠ [] := by
      rw [splitOn_eq_list_splitOn]
      exact List.splitOn_ne_nil '/' path
    exact ⟨_, _, (List.dropLast_concat_getLast hne).symm⟩
  rw [write, hpath, hparts] at h
  simp only [List.dropLast_concat, List.getLast?_concat, Option.getD_some, hslash, false_or] at h
  split at h
  · cases h
  · next hnul =>
    split at h
    · cases h
    · next hrelative =>
      split at h
      · cases h
      · next p hwalk =>
        split at h
        · cases h
        · next inside hinside =>
          split at h
          · cases h
          · next hname =>
            simp only [not_or] at hname
            split at h
            · cases h
            · next hget =>
              cases h
              exact ⟨hnul, hrelative, front, last, p, inside, hparts, hwalk, hinside, hname, hget, rfl⟩

/-- After a write the path leads to a file with the bytes that were written. Every other file is the
    same as before, none is new, and there are the same folders. -/
theorem write_frame {tree tree' : Folder} {path : Text} {content : List UInt8}
    (h : tree.write path content = .ok tree') :
    ∃ p, tree'.place path = .ok p ∧ p.entry = .file content ∧
      (∀ names, tree'.bytesAt? names = if names = p.names then some content else tree.bytesAt? names) ∧
      ∀ names, tree'.HasFolderAt names ↔ tree.HasFolderAt names := by
  obtain ⟨hnul, hrelative, front, last, p, inside, hparts, hwalk, hinside, hlast, hnofolder, htree'⟩ :=
    write_eq_ok h
  have hstart : Within tree tree.start.trail tree.start.entry := .start
  have hstart' : Within tree' tree'.start.trail tree'.start.entry := .start
  have hp : Within tree p.trail p.entry := hstart.of_walk hwalk
  have hbelow : (FileEntry.folder tree).below? p.names = some (.folder inside) := by rw [hp.below?, hinside]
  have hshape (names : List Text) :
      ((FileEntry.folder tree').below? names).map (·.bytes?) =
        if names = p.names ++ [last] then some (some content)
        else ((FileEntry.folder tree).below? names).map (·.bytes?) := by
    rw [htree']
    exact bytes?_below?_put content hbelow hnofolder names
  have htarget : ¬ tree.HasFolderAt (p.names ++ [last]) := by
    rintro ⟨g, hg⟩
    rw [FileEntry.below?_append, hbelow, Option.bind_some, FileEntry.below?_folder_cons] at hg
    obtain ⟨entry, hget, hentry⟩ := Option.bind_eq_some_iff.1 hg
    obtain rfl : entry = .folder g := by simpa using hentry
    exact hnofolder g hget
  have hfolders (names : List Text) : tree'.HasFolderAt names ↔ tree.HasFolderAt names := by
    by_cases hnames : names = p.names ++ [last]
    · subst hnames
      rw [hasFolderAt_iff, hshape, if_pos rfl]
      simp [htarget]
    · rw [hasFolderAt_iff, hasFolderAt_iff, hshape, if_neg hnames]
  -- The walk to the folder is the same in the new tree, and there the name leads to the new file.
  obtain ⟨q, hq, hnames⟩ := hstart.exists_walk (fun names => (hfolders names).2) hstart' rfl hwalk hinside
  have hwithin : Within tree' q.trail q.entry := hstart'.of_walk hq
  obtain ⟨g, hg⟩ : ∃ g, q.entry = .folder g := by
    rw [← hwithin.hasFolderAt_iff, hfolders, hnames, hp.hasFolderAt_iff]
    exact ⟨inside, hinside⟩
  have hget : g.get? last = some (.file content) := by
    have hnew := hshape (p.names ++ [last])
    rw [if_pos rfl, ← hnames, FileEntry.below?_append, hwithin.below?, Option.bind_some, hg,
      FileEntry.below?_folder_cons] at hnew
    obtain ⟨entry, hentry, hbytes⟩ := Option.map_eq_some_iff.1 hnew
    obtain ⟨found, hget, hfound⟩ := Option.bind_eq_some_iff.1 hentry
    obtain rfl : found = entry := by simpa using hfound
    cases found with
    | file content' =>
      obtain rfl : content' = content := Option.some.inj hbytes
      exact hget
    | folder f => cases hbytes
  refine ⟨⟨(last, g) :: q.trail, .file content⟩, ?_, rfl, ?_, hfolders⟩
  · rw [place, if_neg hnul, if_neg hrelative, hparts, walk_append]
    exact ⟨q, hq, walk_part_iff.2 ⟨g, hg, .inr (.inr ⟨hlast, _, hget, rfl⟩)⟩⟩
  · intro names
    have hplace : Place.names ⟨(last, g) :: q.trail, .file content⟩ = p.names ++ [last] := by
      rw [← hnames]
      simp [Place.names]
    rw [hplace, bytesAt?_eq, bytesAt?_eq, hshape]
    split <;> rfl

end Folder

end ApiGuide
