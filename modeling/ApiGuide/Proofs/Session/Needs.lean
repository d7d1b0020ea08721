import ApiGuide.Proofs.Changelog.Dates
import ApiGuide.Session

/-!
Which events of a session need the dates of which releases, and which of them need a date first.

Positions stand for releases: two releases may be of the same version, and only the first of them is
looked up by it.
-/

namespace ApiGuide

namespace Event

/-- What an event does to version control. -/
def onControl (control : VersionControl) : Event → VersionControl
  | .setControl control => control
  | _ => control

/-- The event needs the date of the release at a position. A look-up needs the date of the first
    release of its version. JSON needs all dates, even if it fails in the end; a summary needs them
    after its promoted classes were found. -/
def needs (r : Repository) (i : Nat) : Event → Bool
  | .date version => (Changelog.versions r.releases).findIdx? (· = version) = some i
  | .render .json => true
  | .render .summary => r.promoted.isOk
  | _ => false

end Event

/-- Version control after events. -/
def controlAfter (control : VersionControl) (events : List Event) : VersionControl :=
  events.foldl Event.onControl control

namespace Repository

/-- Version control as it is at the first of the events that needs the date of the release at a
    position. -/
def controlAtNeed? (r : Repository) (i : Nat) (control : VersionControl) (events : List Event) :
    Option VersionControl :=
  (events.findIdx? (·.needs r i)).map fun k => controlAfter control (events.take k)

/-- The repository with every date that was needed, as version control told it when it was needed
    first. -/
def datedBy (r : Repository) (control : VersionControl) (events : List Event) : Repository :=
  { r with releases := r.releases.mapIdx fun i release =>
      { release with known := (r.controlAtNeed? i control events).map release.dateBy } }

/-- The releases, with their positions, whose dates are needed by an event and by none of those done
    before it. -/
def firstNeeds (r : Repository) (done : List Event) (event : Event) : List (Release × Nat) :=
  r.releases.zipIdx.filter fun (_, i) => event.needs r i && !done.any (·.needs r i)

/-- The releases, with their positions, in the order in which their dates are needed first. -/
def allNeeds (r : Repository) (done : List Event) : List Event → List (Release × Nat)
  | [] => []
  | event :: rest => r.firstNeeds done event ++ r.allNeeds (done ++ [event]) rest

end Repository

/-- The state of version control in which an event settles the date of the release at a position. -/
def Event.settles (r : Repository) (control : VersionControl) (event : Event) (i : Nat) :
    Option VersionControl :=
  if event.needs r i then some control else none

namespace Repository

/-- The repository with the dates of releases, each by the version control state that is given for its
    position. -/
def settle (controls : Nat → Option VersionControl) (r : Repository) : Repository :=
  { r with releases := Changelog.settle controls r.releases }

theorem settle_none (r : Repository) : r.settle (fun _ => none) = r := by
  rw [settle, Changelog.settle_none]

theorem settle_some (control : VersionControl) (r : Repository) :
    r.settle (fun _ => some control) = r.resolveDates control := by
  rw [settle, Changelog.settle_some, resolveDates]

theorem settle_settle (controls later : Nat → Option VersionControl) (r : Repository) :
    (r.settle controls).settle later = r.settle fun i => (controls i).or (later i) := by
  rw [settle, settle, Changelog.settle_settle, settle]

/-- What is needed does not depend on what is known. -/
theorem needs_settle (controls : Nat → Option VersionControl) (r : Repository) (i : Nat) (event : Event) :
    event.needs (r.settle controls) i = event.needs r i := by
  cases event with
  | date version =>
    have hversions : Changelog.versions (r.settle controls).releases = Changelog.versions r.releases :=
      Changelog.versions_settle controls r.releases
    rw [Event.needs, Event.needs, hversions]
  | render format => cases format <;> rfl
  | _ => rfl

theorem controlAtNeed?_cons (r : Repository) (i : Nat) (control : VersionControl) (event : Event)
    (rest : List Event) :
    r.controlAtNeed? i control (event :: rest) =
      (event.settles r control i).or (r.controlAtNeed? i (event.onControl control) rest) := by
  rw [controlAtNeed?, List.findIdx?_cons, Event.settles]
  split
  · rfl
  · rw [Option.map_map, controlAtNeed?]
    rfl

theorem controlAtNeed?_settle (controls : Nat → Option VersionControl) (r : Repository) (i : Nat)
    (control : VersionControl) (events : List Event) :
    (r.settle controls).controlAtNeed? i control events = r.controlAtNeed? i control events := by
  simp only [controlAtNeed?, needs_settle]

/-- Where no date is known, what events settle is what they make known. -/
theorem settle_controlAtNeed? {r : Repository} (hfresh : ∀ release ∈ r.releases, release.known = none)
    (control : VersionControl) (events : List Event) :
    r.settle (r.controlAtNeed? · control events) = r.datedBy control events := by
  have hreleases : Changelog.settle (r.controlAtNeed? · control events) r.releases =
      (r.datedBy control events).releases := by
    rw [Changelog.settle, datedBy, List.mapIdx_eq_mapIdx_iff]
    intro i hi
    have hknown := hfresh _ (List.getElem_mem hi)
    cases r.controlAtNeed? i control events with
    | none =>
      rw [Option.map_none, ← hknown]
      rfl
    | some control => exact Release.resolve_of_known_none hknown control
  rw [settle, hreleases, datedBy]

theorem isNone_controlAtNeed? (r : Repository) (i : Nat) (control : VersionControl) (events : List Event) :
    (r.controlAtNeed? i control events).isNone = !events.any (·.needs r i) := by
  rw [controlAtNeed?, Option.isNone_map, ← List.findIdx?_isSome, Option.not_isSome]

/-- The dates that an event needs and that are not known yet, told by what was needed before it. -/
theorem tags_pendingAt_datedBy {r : Repository} (hfresh : ∀ release ∈ r.releases, release.known = none)
    (control : VersionControl) (done : List Event) (event : Event) :
    (Changelog.pendingAt (event.needs (r.datedBy control done) ·) (r.datedBy control done).releases).filterMap
        Query.tag? =
      (r.firstNeeds done event).map (·.1.tag) := by
  have hneeds (i : Nat) : event.needs (r.datedBy control done) i = event.needs r i := by
    rw [← settle_controlAtNeed? hfresh, needs_settle]
  have hreleases : (r.datedBy control done).releases.zipIdx = r.releases.zipIdx.map fun (release, i) =>
      ({ release with known := (r.controlAtNeed? i control done).map release.dateBy }, i) := by
    rw [datedBy]
    apply List.ext_getElem?
    intro i
    simp only [List.getElem?_zipIdx, List.getElem?_map, List.getElem?_mapIdx]
    cases r.releases[i]? <;> simp
  rw [Changelog.filterMap_tag?_pendingAt, hreleases, List.filter_map, List.map_map, firstNeeds]
  congr 1
  apply List.filter_congr
  rintro ⟨release, i⟩ -
  simp only [Function.comp_apply, hneeds, Option.isNone_map, isNone_controlAtNeed?]

theorem mem_firstNeeds {r : Repository} {done : List Event} {event : Event} {release : Release} {i : Nat} :
    (release, i) ∈ r.firstNeeds done event ↔
      r.releases[i]? = some release ∧ event.needs r i ∧ ¬ done.any (·.needs r i) := by
  rw [firstNeeds, List.mem_filter, List.mk_mem_zipIdx_iff_getElem?]
  simp

theorem mem_allNeeds {r : Repository} {done events : List Event} {release : Release} {i : Nat} :
    (release, i) ∈ r.allNeeds done events ↔
      r.releases[i]? = some release ∧ events.any (·.needs r i) ∧ ¬ done.any (·.needs r i) := by
  induction events generalizing done with
  | nil => simp [allNeeds]
  | cons event rest ih =>
    rw [allNeeds, List.mem_append, mem_firstNeeds, ih, List.any_append, List.any_cons]
    cases hneeds : event.needs r i <;> simp [hneeds]

/-- No release needs its date first twice. -/
theorem nodup_allNeeds (r : Repository) (done events : List Event) :
    ((r.allNeeds done events).map (·.2)).Nodup := by
  induction events generalizing done with
  | nil => exact .nil
  | cons event rest ih =>
    have hfirst : ((r.firstNeeds done event).map (·.2)).Nodup := by
      have hpositions : (r.releases.zipIdx.map (·.2)).Nodup := by
        rw [List.zipIdx_map_snd]
        exact List.nodup_range'
      exact (List.filter_sublist.map _).nodup hpositions
    rw [allNeeds, List.map_append, List.nodup_append]
    refine ⟨hfirst, ih _, ?_⟩
    rintro i hi _ hj rfl
    obtain ⟨⟨release, _⟩, hmem, rfl⟩ := List.mem_map.1 hi
    obtain ⟨⟨release', _⟩, hmem', heq⟩ := List.mem_map.1 hj
    cases heq
    have hneeds := (mem_firstNeeds.1 hmem).2.1
    have hlater := (mem_allNeeds.1 hmem').2.2
    simp [hneeds] at hlater

end Repository

end ApiGuide
