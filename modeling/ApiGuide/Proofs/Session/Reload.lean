import ApiGuide.Session

/-!
A reload forgets everything that was read before it.

Nothing in a session changes the root and the settings of its repository, and a reload looks at
nothing else of it. What a reload answers and leaves behind therefore depends on the files alone, and
so does everything that is answered after it.
-/

namespace ApiGuide

theorem Changelog.known_of_mem_parse {t : Text} {release : Release} (h : release ∈ Changelog.parse t) :
    release.known = none := by
  obtain ⟨_, -, rfl⟩ := List.mem_map.1 h
  rfl

namespace Repository

theorem known_of_readReleases {tree : Folder} {root : Text} {settings : Settings} {releases : List Release}
    (h : readReleases tree root settings = .ok releases) : ∀ release ∈ releases, release.known = none := by
  unfold readReleases at h
  dsimp only at h
  split at h
  · intro release hmem
    cases hload : tree.load (Path.join root settings.changelog) with
    | error e =>
      rw [hload] at h
      cases h
    | ok text =>
      rw [hload] at h
      cases h
      exact Changelog.known_of_mem_parse hmem
  · cases h
    simp

/-- Everything that a reload can do: it fails at one of its stages and keeps what the stages before
    that one read, or it reads everything. -/
theorem reload_cases (tree : Folder) (r : Repository) :
    (∃ e, readClasses tree r.root r.settings = .error e ∧
      r.reload tree = (.error e, { root := r.root, settings := r.settings })) ∨
    (∃ classes e, readClasses tree r.root r.settings = .ok classes ∧
      readReleases tree r.root r.settings = .error e ∧
      r.reload tree = (.error e, { root := r.root, settings := r.settings, classes })) ∨
    (∃ classes releases e, readClasses tree r.root r.settings = .ok classes ∧
      readReleases tree r.root r.settings = .ok releases ∧
      readVersion tree r.root r.settings = .error e ∧
      r.reload tree = (.error e, { root := r.root, settings := r.settings, classes, releases })) ∨
    (∃ classes releases version, readClasses tree r.root r.settings = .ok classes ∧
      readReleases tree r.root r.settings = .ok releases ∧
      readVersion tree r.root r.settings = .ok version ∧
      r.reload tree = (.ok (), { root := r.root, settings := r.settings, classes, releases, version })) := by
  unfold reload
  dsimp only
  cases readClasses tree r.root r.settings with
  | error e => exact .inl ⟨e, rfl, rfl⟩
  | ok classes =>
    cases readReleases tree r.root r.settings with
    | error e => exact .inr (.inl ⟨classes, e, rfl, rfl, rfl⟩)
    | ok releases =>
      cases readVersion tree r.root r.settings with
      | error e => exact .inr (.inr (.inl ⟨classes, releases, e, rfl, rfl, rfl, rfl⟩))
      | ok version => exact .inr (.inr (.inr ⟨classes, releases, version, rfl, rfl, rfl, rfl⟩))

theorem reload_congr {r r' : Repository} (hroot : r.root = r'.root) (hsettings : r.settings = r'.settings)
    (tree : Folder) : r.reload tree = r'.reload tree := by
  unfold reload
  rw [hroot, hsettings]

theorem load_eq (tree : Folder) (r : Repository) :
    load tree r.root r.settings = (r.reload tree).1.map fun _ => (r.reload tree).2 := by
  have hreload : reload tree { root := r.root, settings := r.settings } = r.reload tree :=
    reload_congr rfl rfl tree
  rw [load, hreload]
  rcases r.reload tree with ⟨_ | _, after⟩ <;> rfl

theorem answer_reload (tree : Folder) (r : Repository) :
    (r.reload tree).1 = (load tree r.root r.settings).map fun _ => () := by
  rw [load_eq]
  rcases r.reload tree with ⟨_ | _, after⟩ <;> rfl

theorem reload_of_load_ok {tree : Folder} {r fresh : Repository}
    (h : load tree r.root r.settings = .ok fresh) : (r.reload tree).2 = fresh := by
  rw [load_eq] at h
  rcases hreload : r.reload tree with ⟨_ | _, after⟩
  · rw [hreload] at h
    cases h
  · rw [hreload] at h
    cases h
    rfl

theorem reload_of_load_error {tree : Folder} {r : Repository} {e : LoadError}
    (h : load tree r.root r.settings = .error e) :
    (r.reload tree).2.classes = (readClasses tree r.root r.settings).toOption.getD [] ∧
    (r.reload tree).2.releases =
      (match readClasses tree r.root r.settings, readReleases tree r.root r.settings with
      | .ok _, .ok releases => releases
      | _, _ => []) ∧
    (r.reload tree).2.version = none := by
  rw [load_eq] at h
  obtain ⟨e', hclasses, hreload⟩ | ⟨classes, e', hclasses, hreleases, hreload⟩ |
    ⟨classes, releases, e', hclasses, hreleases, -, hreload⟩ |
    ⟨classes, releases, version, -, -, -, hreload⟩ := reload_cases tree r
  · rw [hreload, hclasses]
    exact ⟨rfl, rfl, rfl⟩
  · rw [hreload, hclasses, hreleases]
    exact ⟨rfl, rfl, rfl⟩
  · rw [hreload, hclasses, hreleases]
    exact ⟨rfl, rfl, rfl⟩
  · rw [hreload] at h
    cases h

theorem known_reload (tree : Folder) (r : Repository) :
    ∀ release ∈ (r.reload tree).2.releases, release.known = none := by
  obtain ⟨e, -, hreload⟩ | ⟨classes, e, -, -, hreload⟩ | ⟨classes, releases, e, -, hreleases, -, hreload⟩ |
    ⟨classes, releases, version, -, hreleases, -, hreload⟩ := reload_cases tree r
  · rw [hreload]
    simp
  · rw [hreload]
    simp
  · rw [hreload]
    exact known_of_readReleases hreleases
  · rw [hreload]
    exact known_of_readReleases hreleases

end Repository

/-- What an event does to the files. -/
def Event.onFiles (tree : Folder) : Event → Folder
  | .put path entry => tree.put entry (Path.names path)
  | .remove path => tree.remove (Path.names path)
  | _ => tree

namespace Session

theorem run_cons (s : Session) (event : Event) (rest : List Event) :
    s.run (event :: rest) =
      ((s.step event).1 :: ((s.step event).2.run rest).1, ((s.step event).2.run rest).2) :=
  rfl

theorem tree_step (s : Session) (event : Event) : (s.step event).2.tree = event.onFiles s.tree := by
  cases event with
  | date version =>
    rw [step]
    split <;> rfl
  | _ => rfl

theorem tree_run (s : Session) (events : List Event) :
    (s.run events).2.tree = events.foldl Event.onFiles s.tree := by
  induction events generalizing s with
  | nil => rfl
  | cons event rest ih => rw [run_cons, ih, tree_step, List.foldl_cons]

/-- No event moves the repository or changes its settings. -/
theorem root_settings_step (s : Session) (event : Event) :
    (s.step event).2.repository.root = s.repository.root ∧
      (s.step event).2.repository.settings = s.repository.settings := by
  cases event with
  | put path entry => exact ⟨rfl, rfl⟩
  | remove path => exact ⟨rfl, rfl⟩
  | setControl control => exact ⟨rfl, rfl⟩
  | reload =>
    have hstep : (s.step .reload).2.repository = (s.repository.reload s.tree).2 := rfl
    rw [hstep]
    obtain ⟨_, -, h⟩ | ⟨_, _, -, -, h⟩ | ⟨_, _, _, -, -, -, h⟩ | ⟨_, _, _, -, -, -, h⟩ :=
      s.repository.reload_cases s.tree
    all_goals
      rw [h]
      exact ⟨rfl, rfl⟩
  | date version =>
    rw [step]
    split <;> exact ⟨rfl, rfl⟩
  | render format =>
    have hstep : (s.step (.render format)).2.repository = (format.render s.control s.repository).repository :=
      rfl
    rw [hstep]
    cases format with
    | json =>
      rw [Format.render]
      split <;> exact ⟨rfl, rfl⟩
    | summary =>
      rw [Format.render]
      split <;> exact ⟨rfl, rfl⟩

theorem root_settings_run (s : Session) (events : List Event) :
    (s.run events).2.repository.root = s.repository.root ∧
      (s.run events).2.repository.settings = s.repository.settings := by
  induction events generalizing s with
  | nil => exact ⟨rfl, rfl⟩
  | cons event rest ih =>
    obtain ⟨hroot, hsettings⟩ := ih (s.step event).2
    obtain ⟨hroot', hsettings'⟩ := s.root_settings_step event
    exact ⟨hroot.trans hroot', hsettings.trans hsettings'⟩

/-- What version control was asked before is only written down: no answer depends on it. -/
theorem step_asked (s : Session) (asked : List Query) (event : Event) :
    ({ s with asked }.step event).1 = (s.step event).1 ∧
      ∃ more, ({ s with asked }.step event).2 = { (s.step event).2 with asked := more } := by
  cases event with
  | date version =>
    simp only [step]
    cases Changelog.resolveVersion? s.control version s.repository.releases with
    | none => exact ⟨rfl, asked, rfl⟩
    | some found => exact ⟨rfl, asked ++ found.1.pending, rfl⟩
  | render format => exact ⟨rfl, asked ++ (format.render s.control s.repository).asked, rfl⟩
  | _ => exact ⟨rfl, asked, rfl⟩

theorem replies_run_asked (s : Session) (asked : List Query) (events : List Event) :
    ({ s with asked }.run events).1 = (s.run events).1 := by
  induction events generalizing s asked with
  | nil => rfl
  | cons event rest ih =>
    obtain ⟨hreply, more, hstate⟩ := s.step_asked asked event
    rw [run_cons, run_cons, hreply, hstate, ih]

/-- From a reload on, sessions with the same files, version control, root and settings answer alike. -/
theorem replies_reload_congr {s s' : Session} (htree : s'.tree = s.tree) (hcontrol : s'.control = s.control)
    (hroot : s'.repository.root = s.repository.root)
    (hsettings : s'.repository.settings = s.repository.settings) (later : List Event) :
    (s'.run (.reload :: later)).1 = (s.run (.reload :: later)).1 := by
  have hreload : s'.repository.reload s'.tree = s.repository.reload s.tree := by
    rw [htree, Repository.reload_congr hroot hsettings]
  have hreply : (s'.step .reload).1 = (s.step .reload).1 := by
    simp only [step, hreload]
  have hstate : (s'.step .reload).2 = { (s.step .reload).2 with asked := s'.asked } := by
    simp only [step, htree, hcontrol, Repository.reload_congr hroot hsettings]
  rw [run_cons, run_cons, hreply, hstate, replies_run_asked]

/-- After any history, a reload answers as a load of the files as they are now. It leaves what that
    load reads, or after a failure what its stages read before it, and no date is remembered. From
    then on nothing tells the session from any other with the same files, version control, root and
    settings. -/
theorem reload_forgets_history (s : Session) (events : List Event) :
    let now := (s.run events).2
    let root := s.repository.root
    let settings := s.repository.settings
    let files := events.foldl Event.onFiles s.tree
    let after := (now.repository.reload now.tree).2
    (now.repository.reload now.tree).1 = (Repository.load files root settings).map (fun _ => ()) ∧
    (∀ fresh, Repository.load files root settings = .ok fresh → after = fresh) ∧
    (∀ e, Repository.load files root settings = .error e →
      after.classes = (Repository.readClasses files root settings).toOption.getD [] ∧
      after.releases =
        (match Repository.readClasses files root settings, Repository.readReleases files root settings with
        | .ok _, .ok releases => releases
        | _, _ => []) ∧
      after.version = none) ∧
    (∀ release ∈ after.releases, release.known = none) ∧
    (∀ other : Session, other.tree = files → other.control = now.control →
      other.repository.root = root → other.repository.settings = settings →
      ∀ later, (other.run (.reload :: later)).1 = (now.run (.reload :: later)).1) := by
  intro now root settings files after
  have htree : now.tree = files := s.tree_run events
  have hroot : now.repository.root = root := (s.root_settings_run events).1
  have hsettings : now.repository.settings = settings := (s.root_settings_run events).2
  rw [← htree, ← hroot, ← hsettings]
  refine ⟨now.repository.answer_reload now.tree, fun fresh => Repository.reload_of_load_ok,
    fun e => Repository.reload_of_load_error, now.repository.known_reload now.tree, ?_⟩
  intro other hfiles hcontrol hroot' hsettings' later
  exact replies_reload_congr hfiles hcontrol hroot' hsettings' later

/-- The file of a source with one class. -/
def oneClass (name : String) : FileEntry :=
  .file (Text.utf8 ("###*\n@class ".toList ++ name.toList ++ "\n###\n".toList))

/-- A session on a source with a class, before anything is read. -/
def unread : Session where
  tree := Folder.empty.put (oneClass "up.old") ["repo".toList, "lib".toList, "a.coffee".toList]
  control := .unavailable
  repository := { root := "repo".toList, settings := {} }

/-- The class is read, and then its source changes. -/
def changedSource : List Event :=
  [.reload, .put "repo/lib/a.coffee".toList (oneClass "up.new")]

/-- The class is read, then its source changes, and then the version file comes without a version. -/
def brokenVersion : List Event :=
  changedSource ++ [.put "repo/lib/unpoly/rails/version.rb".toList (.file (Text.utf8 "dev".toList))]

/-- The files after the first history. -/
def newFiles : Folder :=
  changedSource.foldl Event.onFiles unread.tree

/-- The files after the second history. -/
def brokenFiles : Folder :=
  brokenVersion.foldl Event.onFiles unread.tree

theorem reload_forgets_changedSource_brokenVersion :
    (∃ fresh, Repository.load newFiles "repo".toList {} = .ok fresh ∧
      fresh.classes = [{ name := "up.new".toList }] ∧
      ((unread.run changedSource).2.repository.reload (unread.run changedSource).2.tree).2 = fresh) ∧
    (∃ e, Repository.load brokenFiles "repo".toList {} = .error e ∧
      (unread.run brokenVersion).2.repository.classes = [{ name := "up.old".toList }] ∧
      ((unread.run brokenVersion).2.repository.reload (unread.run brokenVersion).2.tree).2.classes =
        [{ name := "up.new".toList }]) ∧
    ∀ later, ({ unread with tree := newFiles }.run (.reload :: later)).1 =
      ((unread.run changedSource).2.run (.reload :: later)).1 := by
  refine ⟨?_, ?_, (reload_forgets_history unread changedSource).2.2.2.2 _ rfl rfl rfl rfl⟩
  · have hclasses : (Repository.load newFiles "repo".toList {}).toOption.map (·.classes) =
        some [{ name := "up.new".toList }] := by
      decide +kernel
    cases hload : Repository.load newFiles "repo".toList {} with
    | error e =>
      rw [hload] at hclasses
      cases hclasses
    | ok fresh =>
      rw [hload] at hclasses
      have hafter := (reload_forgets_history unread changedSource).2.1 fresh hload
      exact ⟨fresh, rfl, Option.some.inj hclasses, hafter⟩
  · have hfailed : (Repository.load brokenFiles "repo".toList {}).toOption.isNone := by decide +kernel
    have hclasses : (Repository.readClasses brokenFiles "repo".toList {}).toOption.getD [] =
        [{ name := "up.new".toList }] := by
      decide +kernel
    cases hload : Repository.load brokenFiles "repo".toList {} with
    | ok fresh =>
      rw [hload] at hfailed
      cases hfailed
    | error e =>
      obtain ⟨hafter, -⟩ := (reload_forgets_history unread brokenVersion).2.2.1 e hload
      exact ⟨e, rfl, by decide +kernel, hafter.trans hclasses⟩

end Session

end ApiGuide
