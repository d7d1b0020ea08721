import ApiGuide.Proofs.Session.Needs
import ApiGuide.Proofs.Session.Reload

/-!
The date of a release is looked for once, at the first event that needs it.

The date lives in the release, and several events may fill it in while version control changes. The
first of them since the last reload settles it: that event alone asks for the tag, and whatever is
reported or rendered later shows what version control answered then.
-/

namespace ApiGuide

/-- The text of a repository in a format. -/
def Format.text (format : Format) (r : Repository) (revision : Option Text) (promoted : List ClassDoc) : Text :=
  match format with
  | .json => Snapshot.text r revision promoted
  | .summary => Summary.text r revision promoted

namespace Session

theorem control_step (s : Session) (event : Event) : (s.step event).2.control = event.onControl s.control := by
  cases event with
  | date version =>
    rw [step]
    split <;> rfl
  | _ => rfl

theorem run_append (s : Session) (events more : List Event) :
    (s.run (events ++ more)).2 = ((s.run events).2.run more).2 := by
  induction events generalizing s with
  | nil => rfl
  | cons event rest ih =>
    rw [List.cons_append, run_cons, run_cons]
    exact ih (s.step event).2

/-- Every event but a reload leaves the repository as it is, with the dates that it settles. -/
theorem repository_step (s : Session) {event : Event} (h : event ≠ .reload) :
    (s.step event).2.repository = s.repository.settle (event.settles s.repository s.control) := by
  cases event with
  | put path entry => exact s.repository.settle_none.symm
  | remove path => exact s.repository.settle_none.symm
  | setControl control => exact s.repository.settle_none.symm
  | reload => exact absurd rfl h
  | date version =>
    have hsettles : Event.settles s.repository s.control (.date version) = fun i =>
        if (Changelog.versions s.repository.releases).findIdx? (· = version) = some i then some s.control
        else none := by
      funext i
      simp [Event.settles, Event.needs]
    rw [step, Changelog.resolveVersion?_eq, hsettles]
    cases hfind : Changelog.find? s.repository.releases version with
    | none =>
      simp only [Changelog.findIdx?_versions_of_find? hfind, reduceCtorEq, if_false]
      exact s.repository.settle_none.symm
    | some found => rfl
  | render format =>
    have hstep : (s.step (.render format)).2.repository = (format.render s.control s.repository).repository :=
      rfl
    rw [hstep]
    cases format with
    | json =>
      rw [Format.render]
      split <;> exact (s.repository.settle_some s.control).symm
    | summary =>
      rw [Format.render]
      cases hpromoted : s.repository.promoted with
      | error e =>
        have hsettles : Event.settles s.repository s.control (.render .summary) = fun _ => none := by
          funext i
          rw [Event.settles, Event.needs, hpromoted]
          rfl
        rw [hsettles, s.repository.settle_none]
      | ok promoted =>
        have hsettles : Event.settles s.repository s.control (.render .summary) = fun _ => some s.control := by
          funext i
          rw [Event.settles, Event.needs, hpromoted]
          rfl
        rw [hsettles, s.repository.settle_some]

/-- Events without a reload leave the repository as it is, with every date that one of them needs. The
    first that needs a date settles it. -/
theorem repository_run (s : Session) {events : List Event} (h : .reload ∉ events) :
    (s.run events).2.repository = s.repository.settle (s.repository.controlAtNeed? · s.control events) := by
  induction events generalizing s with
  | nil => exact s.repository.settle_none.symm
  | cons event rest ih =>
    simp only [List.mem_cons, not_or] at h
    rw [run_cons, ih _ h.2, repository_step s (Ne.symm h.1), control_step, Repository.settle_settle]
    simp only [Repository.controlAtNeed?_settle, Repository.controlAtNeed?_cons]

/-- What an event but a reload asks for: the tags of the releases whose dates it needs and that are not
    known yet. -/
theorem asked_step (s : Session) {event : Event} (h : event ≠ .reload) :
    ∃ asked, (s.step event).2.asked = s.asked ++ asked ∧
      asked.filterMap Query.tag? =
        (Changelog.pendingAt (event.needs s.repository ·) s.repository.releases).filterMap Query.tag? := by
  have hnothing {needs : Nat → Bool} (hneeds : ∀ i, needs i = false) :
      (Changelog.pendingAt needs s.repository.releases).filterMap Query.tag? = [] := by
    have hnowhere : needs = fun _ => false := funext hneeds
    rw [hnowhere, Changelog.pendingAt_nowhere, List.filterMap_nil]
  cases event with
  | put path entry => exact ⟨[], by simp [step], (hnothing fun _ => rfl).symm⟩
  | remove path => exact ⟨[], by simp [step], (hnothing fun _ => rfl).symm⟩
  | setControl control => exact ⟨[], by simp [step], (hnothing fun _ => rfl).symm⟩
  | reload => exact absurd rfl h
  | date version =>
    have hpending := Changelog.pendingAt_version version s.repository.releases
    refine ⟨(Changelog.find? s.repository.releases version).elim [] (·.pending), ?_, by
      rw [← hpending]
      rfl⟩
    rw [step, Changelog.resolveVersion?_eq]
    cases Changelog.find? s.repository.releases version with
    | none => simp
    | some found => rfl
  | render format =>
    refine ⟨(format.render s.control s.repository).asked, rfl, ?_⟩
    cases format with
    | json =>
      have hall : Changelog.pendingAt (Event.needs s.repository · (.render .json)) s.repository.releases =
          Changelog.pending s.repository.releases := Changelog.pendingAt_everywhere _
      rw [hall, Format.render]
      split <;> simp [Query.tag?]
    | summary =>
      rw [Format.render]
      cases hpromoted : s.repository.promoted with
      | error e =>
        have hneeds (i : Nat) : Event.needs s.repository i (.render .summary) = false := by
          rw [Event.needs, hpromoted]
          rfl
        rw [hnothing hneeds]
        rfl
      | ok promoted =>
        have hneeds : (Event.needs s.repository · (.render .summary)) = fun _ => true := by
          funext i
          rw [Event.needs, hpromoted]
          rfl
        rw [hneeds, Changelog.pendingAt_everywhere]
        rfl

/-- A look-up reports the date that is known after it. -/
theorem reply_date (s : Session) (version : Text) :
    (s.step (.date version)).1 =
      match Changelog.find? (s.step (.date version)).2.repository.releases version with
      | none => .noRelease
      | some release => .dated release.date := by
  rw [step, Changelog.resolveVersion?_eq]
  cases hfind : Changelog.find? s.repository.releases version with
  | none => simp [hfind]
  | some found => simp [Changelog.find?_settle_version, hfind]

/-- A rendering shows the dates that are known after it. -/
theorem reply_render (s : Session) (format : Format) :
    (s.step (.render format)).1 =
      .rendered (s.repository.promoted.map fun promoted =>
        format.text (s.step (.render format)).2.repository s.control.revision promoted) := by
  cases format with
  | json =>
    simp only [step, Format.render]
    cases s.repository.promoted <;> rfl
  | summary =>
    simp only [step, Format.render]
    cases s.repository.promoted <;> rfl

theorem control_run (s : Session) (events : List Event) :
    (s.run events).2.control = controlAfter s.control events := by
  induction events generalizing s with
  | nil => rfl
  | cons event rest ih => rw [run_cons, ih, control_step, controlAfter, controlAfter, List.foldl_cons]

section Fresh

variable {start : Session} (hfresh : ∀ release ∈ start.repository.releases, release.known = none)

include hfresh

theorem repository_run_of_fresh {events : List Event} (h : .reload ∉ events) :
    (start.run events).2.repository = start.repository.datedBy start.control events := by
  rw [repository_run start h, Repository.settle_controlAtNeed? hfresh]

theorem asked_step_of_fresh {done : List Event} (hdone : .reload ∉ done) {event : Event}
    (hevent : event ≠ .reload) :
    ∃ asked, ((start.run done).2.step event).2.asked = (start.run done).2.asked ++ asked ∧
      asked.filterMap Query.tag? = (start.repository.firstNeeds done event).map (·.1.tag) := by
  obtain ⟨asked, hasked, htags⟩ := (start.run done).2.asked_step hevent
  rw [repository_run_of_fresh hfresh hdone, Repository.tags_pendingAt_datedBy hfresh] at htags
  exact ⟨asked, hasked, htags⟩

theorem asked_run_of_fresh {done events : List Event} (h : .reload ∉ done ++ events) :
    ∃ asked, (start.run (done ++ events)).2.asked = (start.run done).2.asked ++ asked ∧
      asked.filterMap Query.tag? = (start.repository.allNeeds done events).map (·.1.tag) := by
  induction events generalizing done with
  | nil => exact ⟨[], by simp, rfl⟩
  | cons event rest ih =>
    have hsplit : done ++ event :: rest = (done ++ [event]) ++ rest := by simp
    have hrun : (start.run (done ++ [event])).2 = ((start.run done).2.step event).2 := run_append _ _ _
    obtain ⟨hdone, hevent, -⟩ : .reload ∉ done ∧ .reload ≠ event ∧ .reload ∉ rest := by simpa using h
    obtain ⟨first, hfirst, hfirstTags⟩ := asked_step_of_fresh hfresh hdone (Ne.symm hevent)
    rw [hsplit] at h ⊢
    obtain ⟨later, hlater, hlaterTags⟩ := ih h
    rw [hrun, hfirst] at hlater
    refine ⟨first ++ later, by rw [hlater, List.append_assoc], ?_⟩
    rw [List.filterMap_append, hfirstTags, hlaterTags, ← List.map_append]
    rfl

end Fresh

/-- After a load or a reload no date is known. -/
theorem fresh_run {s : Session} {tree : Folder} {root : Text} {settings : Settings}
    (hload : Repository.load tree root settings = .ok s.repository) {before : List Event}
    (hbefore : before = [] ∨ before.getLast? = some .reload) :
    ∀ release ∈ (s.run before).2.repository.releases, release.known = none := by
  rcases hbefore with rfl | hlast
  · have hfresh := Repository.known_reload tree { root, settings }
    rw [Repository.reload_of_load_ok hload] at hfresh
    exact hfresh
  · obtain ⟨earlier, rfl⟩ := List.getLast?_eq_some_iff.1 hlast
    rw [run_append]
    exact Repository.known_reload (s.run earlier).2.tree (s.run earlier).2.repository

/-- A repository with two releases. -/
def releasedFiles : Folder :=
  Folder.empty.put (.file (Text.utf8 "1.1.0\n---\nNew.\n1.0.0\n---\nOld.\n".toList))
    ["repo".toList, "CHANGELOG.md".toList]

/-- Version control that knows when both were released. -/
def bothTagged : VersionControl :=
  .ofTable none [("v1.0.0".toList, "2017-12-06 08:14:52 +0100".toList),
    ("v1.1.0".toList, "2018-01-02 10:00:00 +0000".toList)]

/-- A date is looked up before its tag is there, and again after that; then everything is rendered. -/
def taggedLate : List Event :=
  [.date "1.0.0".toList, .setControl bothTagged, .date "1.0.0".toList, .render .json]

end Session

end ApiGuide
