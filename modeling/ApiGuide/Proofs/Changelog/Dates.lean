import ApiGuide.Changelog

/-!
Looking for the dates of releases, at some positions of a changelog and each in a state of version
control of its own.

What was looked for once stays, so later states have no say, and nothing is asked again.
-/

namespace ApiGuide

/-- The date that version control tells for the release: none if there is no timestamp or the
    timestamp cannot be read. -/
def Release.dateBy (control : VersionControl) (r : Release) : Option Date :=
  (control.timestamp r.tag).bind Timestamp.parse?

/-- The tag that a query asks for. -/
def Query.tag? : Query → Option Text
  | .timestamp tag => some tag
  | .revision => none

namespace Release

theorem resolve_of_known_none {r : Release} (h : r.known = none) (control : VersionControl) :
    r.resolve control = { r with known := some (r.dateBy control) } := by
  unfold resolve
  rw [h]
  rfl

theorem resolve_resolve (control later : VersionControl) (r : Release) :
    (r.resolve control).resolve later = r.resolve control := by
  cases hknown : r.known with
  | none =>
    rw [resolve_of_known_none hknown]
    rfl
  | some date =>
    have hsame : r.resolve control = r := by
      unfold resolve
      rw [hknown]
    rw [hsame]
    unfold resolve
    rw [hknown]

theorem version_resolve (control : VersionControl) (r : Release) : (r.resolve control).version = r.version := by
  unfold resolve
  split <;> rfl

theorem filterMap_tag?_pending (r : Release) :
    r.pending.filterMap Query.tag? = if r.known.isNone then [r.tag] else [] := by
  unfold pending
  cases r.known <;> rfl

end Release

namespace Changelog

/-- Looks for dates that were not looked for before: for the release at a position in the state of
    version control that is given for it, if there is one. -/
def settle (controls : Nat → Option VersionControl) (releases : List Release) : List Release :=
  releases.mapIdx fun i release => (controls i).elim release release.resolve

theorem settle_cons (controls : Nat → Option VersionControl) (release : Release) (rest : List Release) :
    settle controls (release :: rest) =
      (controls 0).elim release release.resolve :: settle (fun i => controls (i + 1)) rest :=
  List.mapIdx_cons

theorem settle_none (releases : List Release) : settle (fun _ => none) releases = releases := by
  simp [settle, List.mapIdx_eq_iff]

theorem settle_some (control : VersionControl) (releases : List Release) :
    settle (fun _ => some control) releases = resolve control releases := by
  simp [settle, resolve, List.mapIdx_eq_iff]

/-- What is settled stays, whatever comes later. -/
theorem settle_settle (controls later : Nat → Option VersionControl) (releases : List Release) :
    settle later (settle controls releases) = settle (fun i => (controls i).or (later i)) releases := by
  rw [settle, settle, List.mapIdx_mapIdx, settle, List.mapIdx_eq_mapIdx_iff]
  intro i hi
  cases controls i with
  | none => simp
  | some control =>
    cases later i with
    | none => simp
    | some later => simp [Release.resolve_resolve]

theorem versions_settle (controls : Nat → Option VersionControl) (releases : List Release) :
    versions (settle controls releases) = versions releases := by
  induction releases generalizing controls with
  | nil => rfl
  | cons release rest ih =>
    have hversion : ((controls 0).elim release release.resolve).version = release.version := by
      cases controls 0 with
      | none => rfl
      | some control => exact release.version_resolve control
    have hrest := ih fun i => controls (i + 1)
    rw [versions, versions] at hrest
    rw [settle_cons, versions, versions, List.map_cons, List.map_cons, hversion, hrest]

/-- A look-up by version settles the date of the first release of that version. -/
theorem resolveVersion?_eq (control : VersionControl) (version : Text) (releases : List Release) :
    resolveVersion? control version releases =
      (find? releases version).map fun found =>
        (found, settle (fun i => if (versions releases).findIdx? (· = version) = some i then some control
          else none) releases) := by
  induction releases with
  | nil => rfl
  | cons release rest ih =>
    rw [resolveVersion?, find?, List.find?_cons, versions, List.map_cons, List.findIdx?_cons, settle_cons]
    by_cases hversion : release.version = version
    · simp [hversion, settle_none]
    · rw [ih, find?]
      cases rest.find? (·.version = version) with
      | none => simp [hversion]
      | some found => simp [hversion, versions]

theorem findIdx?_versions_of_find? {releases : List Release} {version : Text}
    (h : find? releases version = none) : (versions releases).findIdx? (· = version) = none := by
  rw [find?, List.find?_eq_none] at h
  rw [List.findIdx?_eq_none_iff]
  intro v hv
  obtain ⟨release, hmem, rfl⟩ := List.mem_map.1 hv
  simpa using h release hmem

theorem find?_settle_version (control : VersionControl) (version : Text) (releases : List Release) :
    find? (settle (fun i => if (versions releases).findIdx? (· = version) = some i then some control
        else none) releases) version =
      (find? releases version).map (·.resolve control) := by
  induction releases with
  | nil => rfl
  | cons release rest ih =>
    rw [versions, List.map_cons, List.findIdx?_cons, settle_cons]
    by_cases hversion : release.version = version
    · simp [find?, hversion, Release.version_resolve]
    · rw [find?, versions] at ih
      simpa [find?, hversion] using ih

/-- What has to be asked to know the dates of the releases at some positions. -/
def pendingAt (here : Nat → Bool) (releases : List Release) : List Query :=
  (releases.mapIdx fun i release => if here i then release.pending else []).flatten

theorem pendingAt_cons (here : Nat → Bool) (release : Release) (rest : List Release) :
    pendingAt here (release :: rest) =
      (if here 0 then release.pending else []) ++ pendingAt (fun i => here (i + 1)) rest := by
  rw [pendingAt, List.mapIdx_cons, List.flatten_cons]
  rfl

theorem pendingAt_nowhere (releases : List Release) : pendingAt (fun _ => false) releases = [] := by
  induction releases with
  | nil => rfl
  | cons release rest ih => simpa [pendingAt_cons] using ih

theorem pendingAt_everywhere (releases : List Release) : pendingAt (fun _ => true) releases = pending releases := by
  induction releases with
  | nil => rfl
  | cons release rest ih =>
    rw [pendingAt_cons, ih]
    rfl

theorem pendingAt_version (version : Text) (releases : List Release) :
    pendingAt (fun i => (versions releases).findIdx? (· = version) = some i) releases =
      (find? releases version).elim [] (·.pending) := by
  induction releases with
  | nil => rfl
  | cons release rest ih =>
    rw [versions, List.map_cons, List.findIdx?_cons, pendingAt_cons]
    by_cases hversion : release.version = version
    · simp [find?, hversion, pendingAt_nowhere]
    · rw [find?, versions] at ih
      simpa [find?, hversion] using ih

/-- The tags that have to be asked for are those of the releases whose dates are not known yet. -/
theorem filterMap_tag?_pendingAt (here : Nat → Bool) (releases : List Release) :
    (pendingAt here releases).filterMap Query.tag? =
      (releases.zipIdx.filter fun (release, i) => here i && release.known.isNone).map (·.1.tag) := by
  rw [pendingAt, List.filterMap_flatten, List.mapIdx_eq_zipIdx_map, List.map_map]
  induction releases.zipIdx with
  | nil => rfl
  | cons pair rest ih =>
    obtain ⟨release, i⟩ := pair
    rw [List.map_cons, List.flatten_cons, ih, List.filter_cons]
    cases hhere : here i with
    | false => simp [hhere]
    | true =>
      cases hknown : release.known.isNone <;>
        simp [hhere, hknown, Release.filterMap_tag?_pending]

end Changelog

end ApiGuide
