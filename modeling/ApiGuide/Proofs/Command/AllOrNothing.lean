import ApiGuide.Command.Run
import ApiGuide.Proofs.Files.Write

/-!
The command writes its whole text to one place, or it fails and touches nothing.

Everything that can be refused is decided before the write: the settings, the format, the sources and
the promoted classes. A run therefore has a text to write exactly when all of these succeed, and what
remains is whether the output file can be written.
-/

namespace ApiGuide.Command

open Text

/-- The settings before any is overridden: those of the file that the arguments give, or of the settings
    file in the root. -/
def foundSettings (tree : Folder) (a : Arguments) : Except LoadError Settings :=
  match a.config with
  | some path => Settings.ofFile tree path
  | none => Settings.discover tree (a.root.getD ".".toList)

/-- The settings of a run are those that were found, except that the arguments may ask for a strict
    pass and may replace the promoted classes. -/
structure Overridden (a : Arguments) (found used : Settings) : Prop where
  strict : used.strict = true ↔ found.strict = true ∨ a.strict = true
  promoted : used.promoted = if a.promoted = [] then found.promoted else a.promoted
  others : used = { found with strict := used.strict, promoted := used.promoted }

/-- All stages of a run before the write, each with what it came to. -/
structure Rendered (tree : Folder) (git : Git.Program) (a : Arguments) where
  found : Settings
  used : Settings
  format : Format
  repository : Repository
  text : Text
  found_eq : foundSettings tree a = .ok found
  overridden : Overridden a found used
  format_eq : Format.ofName? (a.format.getD "summary".toList) = some format
  load_eq : Repository.load tree (a.root.getD ".".toList) used = .ok repository
  text_eq : (format.render (Git.control git (a.root.getD ".".toList)) repository).result = .ok text

/-- The text went to standard output, and no file was touched. -/
structure WrittenToStdout (tree : Folder) (text : Text) (outcome : Outcome) : Prop where
  stdout : outcome.stdout = text
  written : outcome.written = none
  tree_eq : outcome.tree = tree

/-- The path leads to a file that holds the text and nothing else. Standard output is empty, all other
    files are as they were, and no folder came or went. -/
structure WrittenToFile (tree : Folder) (path text : Text) (outcome : Outcome) : Prop where
  stdout : outcome.stdout = []
  written : outcome.written = some (path, text)
  file : ∃ p, outcome.tree.place path = .ok p ∧ p.entry = .file (utf8 text) ∧
    ∀ names, outcome.tree.bytesAt? names = if names = p.names then some (utf8 text) else tree.bytesAt? names
  folders : ∀ names, outcome.tree.HasFolderAt names ↔ tree.HasFolderAt names

/-- Nothing went to standard output, and no file was touched. -/
structure Untouched (tree : Folder) (outcome : Outcome) : Prop where
  stdout : outcome.stdout = []
  written : outcome.written = none
  tree_eq : outcome.tree = tree

theorem loadSettings_eq_ok_iff {tree : Folder} {a : Arguments} {used : Settings} :
    loadSettings tree (a.root.getD ".".toList) a = .ok used ↔
      ∃ found, foundSettings tree a = .ok found ∧ Overridden a found used := by
  have hload : loadSettings tree (a.root.getD ".".toList) a = (foundSettings tree a).map fun found =>
      { found with
        strict := found.strict || a.strict
        promoted := if a.promoted = [] then found.promoted else a.promoted } := by
    unfold loadSettings foundSettings
    cases a.config <;> rfl
  rw [hload]
  cases foundSettings tree a with
  | error e => simp [Except.map]
  | ok found =>
    simp only [Except.map, Except.ok.injEq, exists_eq_left']
    constructor
    · rintro rfl
      exact ⟨by simp, rfl, rfl⟩
    · rintro ⟨hstrict, hpromoted, hothers⟩
      have hflag : used.strict = (found.strict || a.strict) := by
        rw [Bool.eq_iff_iff, hstrict, Bool.or_eq_true]
      rw [hothers, hflag, hpromoted]

/-- The command has a text to write exactly when all stages succeed. -/
theorem exists_rendered_iff {tree : Folder} {git : Git.Program} {a : Arguments} {text : Text} :
    (∃ stages : Rendered tree git a, stages.text = text) ↔
      ∃ rendering, prepare tree git a = .ok rendering ∧ rendering.result = .ok text := by
  rw [prepare]
  constructor
  · rintro ⟨⟨found, used, format, r, _, hfound, hused, hformat, hload, htext⟩, rfl⟩
    simp only [loadSettings_eq_ok_iff.2 ⟨found, hfound, hused⟩, hformat, hload]
    exact ⟨_, rfl, htext⟩
  · rintro ⟨rendering, hprepare, hresult⟩
    dsimp only at hprepare
    split at hprepare
    · cases hprepare
    · next used hsettings =>
      split at hprepare
      · cases hprepare
      · next format hformat =>
        split at hprepare
        · cases hprepare
        · next r hload =>
          cases hprepare
          obtain ⟨found, hfound, hused⟩ := loadSettings_eq_ok_iff.1 hsettings
          exact ⟨⟨found, used, format, r, text, hfound, hused, hformat, hload, hresult⟩, rfl⟩

theorem Rendered.prepare_eq {tree : Folder} {git : Git.Program} {a : Arguments} (stages : Rendered tree git a) :
    ∃ rendering, prepare tree git a = .ok rendering ∧ rendering.result = .ok stages.text :=
  exists_rendered_iff.1 ⟨stages, rfl⟩

/-- Nothing in the stages is left open, so there is one text at most. -/
theorem Rendered.text_unique {tree : Folder} {git : Git.Program} {a : Arguments}
    (stages other : Rendered tree git a) : other.text = stages.text := by
  obtain ⟨rendering, hprepare, htext⟩ := stages.prepare_eq
  obtain ⟨rendering', hprepare', htext'⟩ := other.prepare_eq
  rw [hprepare] at hprepare'
  cases hprepare'
  rw [htext] at htext'
  exact (Except.ok.inj htext').symm

theorem untouched_failed (tree : Folder) (gitCalls : List (List Text)) (f : Failure) :
    (failed tree gitCalls f).exitCode ≠ 0 ∧ Untouched tree (failed tree gitCalls f) :=
  ⟨Nat.one_ne_zero, rfl, rfl, rfl⟩

section Run

variable {tree : Folder} {git : Git.Program} {a : Arguments}

theorem runWith_of_not_rendered (h : ¬ Nonempty (Rendered tree git a)) :
    (runWith tree git a).exitCode ≠ 0 ∧ Untouched tree (runWith tree git a) := by
  cases hprepare : prepare tree git a with
  | error f =>
    simp only [runWith, hprepare]
    exact untouched_failed tree [] f
  | ok rendering =>
    cases hresult : rendering.result with
    | error e =>
      simp only [runWith, hprepare, hresult]
      exact untouched_failed tree _ (.lookup e)
    | ok text =>
      obtain ⟨stages, -⟩ := exists_rendered_iff.2 ⟨rendering, hprepare, hresult⟩
      exact absurd ⟨stages⟩ h

theorem runWith_of_output_none (stages : Rendered tree git a) (houtput : a.output = none) :
    (runWith tree git a).exitCode = 0 ∧ WrittenToStdout tree stages.text (runWith tree git a) := by
  obtain ⟨rendering, hprepare, hresult⟩ := stages.prepare_eq
  simp only [runWith, hprepare, hresult, houtput]
  exact ⟨trivial, rfl, rfl, rfl⟩

theorem runWith_of_write (stages : Rendered tree git a) {path : Text} (houtput : a.output = some path)
    {tree' : Folder} (hwrite : tree.write path (utf8 stages.text) = .ok tree') :
    (runWith tree git a).exitCode = 0 ∧ WrittenToFile tree path stages.text (runWith tree git a) := by
  obtain ⟨rendering, hprepare, hresult⟩ := stages.prepare_eq
  obtain ⟨p, hplace, hentry, hfiles, hfolders⟩ := Folder.write_frame hwrite
  simp only [runWith, hprepare, hresult, houtput, hwrite]
  exact ⟨trivial, rfl, rfl, ⟨p, hplace, hentry, hfiles⟩, hfolders⟩

theorem runWith_of_write_error (stages : Rendered tree git a) {path : Text} (houtput : a.output = some path)
    {fault : PathFault} (hwrite : tree.write path (utf8 stages.text) = .error fault) :
    (runWith tree git a).exitCode ≠ 0 ∧ Untouched tree (runWith tree git a) := by
  obtain ⟨rendering, hprepare, hresult⟩ := stages.prepare_eq
  simp only [runWith, hprepare, hresult, houtput, hwrite]
  exact untouched_failed tree _ (.write path fault)

end Run

/-- A repository with settings of its own, whose class is promoted by none of them. -/
def configuredFiles : Folder :=
  ((Folder.empty.put (.file (utf8 "###*\n@class up.form\n###\n".toList))
      ["repo".toList, "lib".toList, "form.coffee".toList]).put
    (.file (utf8 "promoted_klasses = [\"up.missing\"]\n".toList)) ["repo".toList, "guidedoc.toml".toList]).put
    (.file (utf8 "old".toList)) ["out.txt".toList]

/-- Arguments that replace the promoted classes, ask for a strict pass and give an output file. -/
def overridingArguments : List Text :=
  ["--strict".toList, "-o".toList, "repo/../out.txt".toList, "--promoted".toList, "up.form".toList,
    "repo".toList]

/-- The same without the promoted class. -/
def plainArguments : List Text :=
  ["-o".toList, "repo/../out.txt".toList, "repo".toList]

end ApiGuide.Command
