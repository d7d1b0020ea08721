import ApiGuide.Proofs.Files.Search
import ApiGuide.Proofs.Files.Sorted
import ApiGuide.Proofs.Repository.Load

/-!
Which files are documented sources.

The sources are the files at any depth below the source folder whose names have one of the extensions,
in strict order of their paths. How the extensions are listed does not show: only which names they
allow does. A root that is written with an empty part right after its dots is the exception; below it
no sources are found, though everything else in it is read.
-/

namespace ApiGuide

open Text ApiGuide.Path

namespace Repository

/-- A name with one of the extensions, after a dot. -/
def HasExtension (extensions : List Text) (name : Text) : Prop :=
  ∃ extension ∈ extensions, '.' :: extension <:+ name

/-- The path is that of a file with one of the extensions at any depth below `base`. -/
def IsSource (tree : Folder) (base : Text) (extensions : List Text) (path : Text) : Prop :=
  ∃ inside names name, tree.lookup base = .ok (.folder inside) ∧ inside.FileAt names ∧
    names.getLast? = some name ∧ HasExtension extensions name ∧
    path = joinWith ['/'] (shownParts base ++ names)

/-- The folder of the sources. -/
abbrev sourceBase (root : Text) (settings : Settings) : Text :=
  Path.join root settings.sourceDir

theorem leadsOn_sourceBase {tree : Folder} {root : Text} {settings : Settings}
    (hroot : tree.isFolder root = true) (hrelative : settings.sourceDir.head? ≠ some '/')
    (hdot : ['.'] ∉ splitOn '/' settings.sourceDir) : LeadsOn (sourceBase root settings) := by
  obtain ⟨p, inside, hplace, -⟩ := Folder.isFolder_iff.1 hroot
  obtain ⟨⟨hne, hhead⟩, -⟩ := Folder.of_place hplace
  obtain ⟨⟨rest, hstart⟩, front, hend⟩ := exists_join_eq hne hrelative
  refine ⟨?_, ?_, ?_⟩
  · rw [sourceBase, hstart]
    simp [hne]
  · rwa [sourceBase, hstart, List.head?_append_of_ne_nil _ hne]
  · rw [sourceBase, hend, splitOn_append_slash]
    have hparts : splitOn '/' settings.sourceDir ≠ [] := by
      rw [splitOn_eq_list_splitOn]
      exact List.splitOn_ne_nil _ _
    obtain ⟨part, hpart⟩ := List.exists_mem_of_ne_nil _ hparts
    exact ⟨part, List.mem_append_right _ hpart, fun heq => hdot (heq ▸ hpart)⟩

/-- All files with one of the extensions below a path, in order. -/
def sourcesBelow (tree : Folder) (base : Text) (extensions : List Text) : List Text :=
  Search.sorted (extensions.flatMap (Search.filesBelow tree base))

theorem sourcePaths_eq_ok {tree : Folder} {root : Text} {settings : Settings}
    (hroot : tree.isFolder root = true)
    (hplain : ∀ extension ∈ settings.extensions, Pattern.IsPlain extension) :
    sourcePaths tree root settings =
      .ok (sourcesBelow tree (sourceBase root settings) settings.extensions) := by
  have hfiles : settings.extensions.mapM (fun ext => Search.files tree (sourcePattern root settings ext)) =
      .ok (settings.extensions.map (Search.filesBelow tree (sourceBase root settings))) :=
    mapM_eq_ok fun extension hmem => Search.files_eq_ok (hplain extension hmem) _
  rw [sourcePaths, if_pos hroot, hfiles, sourcesBelow, List.flatMap_def]

section Below

variable {tree : Folder} {base : Text} (hnamed : tree.Named) (hbase : LeadsOn base)

include hnamed hbase

theorem mem_sourcesBelow_iff_exists {extensions : List Text} {path : Text} :
    path ∈ sourcesBelow tree base extensions ↔
      ∃ extension ∈ extensions, path ∈ Search.filesBelow tree base extension := by
  rw [sourcesBelow, Search.mem_sorted, List.mem_flatMap]
  intro p hp q hq
  obtain ⟨extension, -, hp⟩ := List.mem_flatMap.1 hp
  obtain ⟨extension', -, hq⟩ := List.mem_flatMap.1 hq
  exact Search.eq_of_order_filesBelow hnamed hbase hp hq

theorem mem_sourcesBelow {extensions : List Text} {path : Text} :
    path ∈ sourcesBelow tree base extensions ↔ ¬EmptyAfterDots base ∧ IsSource tree base extensions path := by
  rw [mem_sourcesBelow_iff_exists hnamed hbase]
  simp only [Search.mem_filesBelow hnamed hbase]
  constructor
  · rintro ⟨extension, hmem, hempty, inside, names, name, hinside, hnames, hlast, hname, hpath⟩
    exact ⟨hempty, inside, names, name, hinside, hnames, hlast, ⟨extension, hmem, hname⟩, hpath⟩
  · rintro ⟨hempty, inside, names, name, hinside, hnames, hlast, ⟨extension, hmem, hname⟩, hpath⟩
    exact ⟨extension, hmem, hempty, inside, names, name, hinside, hnames, hlast, hname, hpath⟩

theorem isFile_of_mem_sourcesBelow {extensions : List Text} {path : Text}
    (h : path ∈ sourcesBelow tree base extensions) : tree.isFile path = true := by
  obtain ⟨extension, -, hpath⟩ := (mem_sourcesBelow_iff_exists hnamed hbase).1 h
  exact (List.mem_filter.1 hpath).2

/-- Of the extensions, only the names that they allow matter. -/
theorem sourcesBelow_eq {extensions other : List Text}
    (h : ∀ name, HasExtension extensions name ↔ HasExtension other name) :
    sourcesBelow tree base extensions = sourcesBelow tree base other := by
  apply (Search.ascending_sorted _).ext (Search.ascending_sorted _)
  intro path
  rw [← sourcesBelow, ← sourcesBelow, mem_sourcesBelow hnamed hbase, mem_sourcesBelow hnamed hbase]
  simp only [IsSource, h]

end Below

/-- A folder whose name holds wildcards, in it a hidden file in a hidden folder and a file that only
    one of two overlapping extensions asks for. -/
def wildNames : Folder :=
  let file (text : String) : FileEntry := .file (Text.utf8 text.toList)
  (Folder.empty.put (file "###*\n@class A\n###")
      ["re[po]".toList, "l*b?".toList, ".dev".toList, ".coffee.erb".toList]).put
    (file "###*\n@class B\n###") ["re[po]".toList, "l*b?".toList, "b.js.erb".toList]

/-- A class and a release. -/
def releasedLibrary : Folder :=
  let file (text : String) : FileEntry := .file (Text.utf8 text.toList)
  (Folder.empty.put (file "###*\n@class k\n###\n") ["repo".toList, "lib".toList, "a.coffee".toList]).put
    (file "1.0.0\n---\nx\n") ["repo".toList, "CHANGELOG.md".toList]

end Repository

end ApiGuide
