import ApiGuide.Proofs.Index.Grouping
import ApiGuide.Proofs.Render.Json
import ApiGuide.Proofs.Repository.OneLine
import ApiGuide.Proofs.Slug

/-!
The summary and the JSON document say the same.

A summary is written from the repository, and here it is written once more from the facts that are read
from the JSON document. Its lines are the lines of that overview, because nothing that is shown on a
line holds a line break. Both renderings look for the dates that are missing and keep them, so it does
not matter which of them comes first.
-/

namespace ApiGuide

open Text

namespace Repository

/-- Some class has the name. -/
def HasClass (r : Repository) (name : Text) : Prop :=
  ∃ c ∈ r.classes, c.name = name

theorem classNamed_of_hasClass {r : Repository} {name : Text} (h : r.HasClass name) :
    ∃ c, r.classNamed name = .ok c := by
  obtain ⟨c, hc, hname⟩ := h
  have hfound : (r.classes.find? (·.name = name)).isSome = true := by
    rw [List.find?_isSome]
    exact ⟨c, hc, by simpa using hname⟩
  obtain ⟨first, hfirst⟩ := Option.isSome_iff_exists.1 hfound
  exact ⟨first, by rw [classNamed, hfirst]⟩

theorem classNamed_of_not_hasClass {r : Repository} {name : Text} (h : ¬r.HasClass name) :
    r.classNamed name = .error (.unknownClass name) := by
  have hnone : r.classes.find? (·.name = name) = none := by
    rw [List.find?_eq_none]
    intro c hc hname
    exact h ⟨c, hc, by simpa using hname⟩
  rw [classNamed, hnone]

/-- Names of classes are looked up without failure. -/
theorem exists_mapM_classNamed {r : Repository} {names : List Text} (h : ∀ name ∈ names, r.HasClass name) :
    ∃ found, names.mapM r.classNamed = .ok found := by
  induction names with
  | nil => exact ⟨[], rfl⟩
  | cons name rest ih =>
    obtain ⟨c, hc⟩ := classNamed_of_hasClass (h name List.mem_cons_self)
    obtain ⟨found, hfound⟩ := ih fun next hnext => h next (List.mem_cons_of_mem name hnext)
    refine ⟨c :: found, ?_⟩
    rw [List.mapM_cons, hc, hfound]
    rfl

/-- The first name that no class has stops the look-up. -/
theorem mapM_classNamed_of_missing {r : Repository} {before : List Text} {name : Text}
    (hbefore : ∀ known ∈ before, r.HasClass known) (hname : ¬r.HasClass name) (after : List Text) :
    (before ++ name :: after).mapM r.classNamed = .error (.unknownClass name) := by
  obtain ⟨found, hfound⟩ := exists_mapM_classNamed hbefore
  rw [List.mapM_append, hfound, List.mapM_cons, classNamed_of_not_hasClass hname]
  rfl

theorem exists_first_missing {r : Repository} {names : List Text} (h : ¬∀ name ∈ names, r.HasClass name) :
    ∃ before name after, names = before ++ name :: after ∧ (∀ known ∈ before, r.HasClass known) ∧
      ¬r.HasClass name := by
  induction names with
  | nil => exact absurd (by simp) h
  | cons name rest ih =>
    by_cases hname : r.HasClass name
    · have hrest : ¬∀ next ∈ rest, r.HasClass next := by
        intro hall
        apply h
        simp only [List.mem_cons, forall_eq_or_imp]
        exact ⟨hname, hall⟩
      obtain ⟨before, missing, after, rfl, hbefore, hmissing⟩ := ih hrest
      refine ⟨name :: before, missing, after, rfl, ?_, hmissing⟩
      simp only [List.mem_cons, forall_eq_or_imp]
      exact ⟨hname, hbefore⟩
    · exact ⟨[], name, rest, rfl, by simp, hname⟩

/-- The promoted classes are found if and only if there are classes of their names. -/
theorem exists_promoted_iff {r : Repository} :
    (∃ promoted, r.promoted = .ok promoted) ↔ ∀ name ∈ r.settings.promoted, r.HasClass name := by
  constructor
  · rintro ⟨promoted, hpromoted⟩
    by_contra hmissing
    obtain ⟨before, name, after, hnames, hbefore, hname⟩ := exists_first_missing hmissing
    rw [Repository.promoted, hnames, mapM_classNamed_of_missing hbefore hname] at hpromoted
    cases hpromoted
  · exact exists_mapM_classNamed

end Repository

/-- The short name of a kind in a column of five characters. -/
def FeatureKind.column : FeatureKind → Text
  | .classKind => "cls  ".toList
  | .functionKind => "fn   ".toList
  | .selectorKind => "sel  ".toList
  | .eventKind => "ev   ".toList

/-- A class in an overview: its name, how many functions it has, and its visibility unless it is for
    everyone. -/
def ClassDoc.overview (c : ClassDoc) : Text :=
  "* ".toList ++ c.name
    ++ (match c.functions with
      | [_] => " (1 feature)".toList
      | functions => " (".toList ++ ofNat functions.length ++ " features)".toList)
    ++ (match c.visibility with
      | .stable => []
      | .experimental => " [protected]".toList
      | .internal => " [private]".toList)

/-- A guide page in an overview: its kind, name and path, and how many features share it if it is more
    than one. -/
def PageFacts.overview (p : PageFacts) : Text :=
  "* ".toList ++ p.kind.column ++ [' '] ++ p.name ++ [' '] ++ p.guidePath
    ++ (if 1 < p.features then " (x".toList ++ ofNat p.features ++ [')'] else [])

/-- A release in an overview: its version, and its date if there is one. -/
def ReleaseFacts.overview (r : ReleaseFacts) : Text :=
  "* ".toList ++ r.version ++ r.date.elim [] fun date => " (".toList ++ date.toText ++ [')']

namespace Facts

/-- The lines of a section. -/
def headed (heading : String) (items : List Text) : List Text :=
  ["".toList, "## ".toList ++ heading.toList, "".toList] ++ items

/-- The lines of an overview of the facts. -/
def overview (facts : Facts) : List Text :=
  [facts.version.elim "version unknown".toList fun v => "version ".toList ++ v ++ " (v".toList ++ v ++ [')']]
    ++ facts.revision.toList.map ("revision ".toList ++ ·)
    ++ (if facts.promoted = [] then [] else headed "Promoted" (facts.promoted.map ("* ".toList ++ ·)))
    ++ headed "Classes" (facts.classes.map (·.overview))
    ++ headed "Guide" (facts.guide.map (·.overview))
    ++ (if facts.releases = [] then [] else headed "Releases" (facts.releases.map (·.overview)))

/-- What the facts show in an overview holds no line break. -/
structure OneLine (facts : Facts) : Prop where
  version : ∀ v ∈ facts.version, '\n' ∉ v
  revision : ∀ revision ∈ facts.revision, '\n' ∉ revision
  promoted : ∀ name ∈ facts.promoted, '\n' ∉ name
  className : ∀ c ∈ facts.classes, '\n' ∉ c.name
  page : ∀ p ∈ facts.guide, '\n' ∉ p.name ∧ '\n' ∉ p.guidePath
  releaseVersion : ∀ release ∈ facts.releases, '\n' ∉ release.version

end Facts

theorem Date.break_not_mem_toText (d : Date) : '\n' ∉ d.toText := by
  have hpadded (width n : Nat) : '\n' ∉ padded width n := not_mem_padded rfl width n
  unfold toText yearText
  split
  · simp [hpadded]
  · split <;> simp [hpadded]

theorem ClassDoc.break_not_mem_overview {c : ClassDoc} (h : '\n' ∉ c.name) : '\n' ∉ c.overview := by
  have hnat (n : Nat) : '\n' ∉ ofNat n := not_mem_ofNat rfl n
  unfold overview
  cases c.visibility <;> split <;> simp [h, hnat]

theorem PageFacts.break_not_mem_overview {p : PageFacts} (hname : '\n' ∉ p.name)
    (hpath : '\n' ∉ p.guidePath) : '\n' ∉ p.overview := by
  have hnat (n : Nat) : '\n' ∉ ofNat n := not_mem_ofNat rfl n
  have hcolumn : '\n' ∉ p.kind.column := by cases p.kind <;> decide
  unfold overview
  split <;> simp [hname, hpath, hnat, hcolumn]

theorem ReleaseFacts.break_not_mem_overview {r : ReleaseFacts} (h : '\n' ∉ r.version) :
    '\n' ∉ r.overview := by
  unfold overview
  cases r.date with
  | none => simp [h]
  | some date => simp [h, date.break_not_mem_toText]

namespace Facts

theorem break_not_mem_headed {heading : String} {items : List Text} (hheading : '\n' ∉ heading.toList)
    (hitems : ∀ item ∈ items, '\n' ∉ item) : ∀ line ∈ headed heading items, '\n' ∉ line := by
  intro line hline
  simp only [headed, List.cons_append, List.nil_append, List.mem_cons] at hline
  rcases hline with rfl | rfl | rfl | hitem
  · simp
  · simp [hheading]
  · simp
  · exact hitems line hitem

theorem OneLine.overview {facts : Facts} (h : facts.OneLine) : ∀ line ∈ facts.overview, '\n' ∉ line := by
  have hpromoted : ∀ line ∈ facts.promoted.map ("* ".toList ++ ·), '\n' ∉ line := by
    simpa using h.promoted
  have hclasses : ∀ line ∈ facts.classes.map (·.overview), '\n' ∉ line := by
    simp only [List.forall_mem_map]
    exact fun c hc => ClassDoc.break_not_mem_overview (h.className c hc)
  have hguide : ∀ line ∈ facts.guide.map (·.overview), '\n' ∉ line := by
    simp only [List.forall_mem_map]
    exact fun p hp => PageFacts.break_not_mem_overview (h.page p hp).1 (h.page p hp).2
  have hreleases : ∀ line ∈ facts.releases.map (·.overview), '\n' ∉ line := by
    simp only [List.forall_mem_map]
    exact fun release hrelease => ReleaseFacts.break_not_mem_overview (h.releaseVersion release hrelease)
  intro line hline
  simp only [Facts.overview, List.mem_append, List.mem_singleton] at hline
  obtain ((((hversion | hrevision) | hline) | hline) | hline) | hline := hline
  · subst hversion
    cases hv : facts.version with
    | none => decide
    | some v => simp [h.version v hv]
  · obtain ⟨revision, hmem, rfl⟩ := List.mem_map.1 hrevision
    simp [h.revision revision (by simpa using hmem)]
  · split at hline
    · cases hline
    · exact break_not_mem_headed (by decide) hpromoted line hline
  · exact break_not_mem_headed (by decide) hclasses line hline
  · exact break_not_mem_headed (by decide) hguide line hline
  · split at hline
    · cases hline
    · exact break_not_mem_headed (by decide) hreleases line hline

end Facts

theorem Feature.break_not_mem_guidePath (f : Feature) : '\n' ∉ f.guidePath := by
  rw [guidePath, List.mem_cons, not_or]
  refine ⟨by decide, fun hmem => ?_⟩
  have hslug := Slug.isSlugChar_of_mem_ofName hmem
  cases hslug

namespace Repository

theorem OneLine.feature {r : Repository} (h : r.OneLine) : ∀ f ∈ r.features, '\n' ∉ f.name := by
  intro f hf
  obtain ⟨c, hc, hmem⟩ := List.mem_flatMap.1 hf
  rcases List.mem_cons.1 hmem with rfl | hfunction
  · exact h.className c hc
  · obtain ⟨function, hdoc, rfl⟩ := List.mem_map.1 hfunction
    exact h.functionName c hc function hdoc

/-- The representative of a page is one of the features. -/
theorem representative_mem_features {r : Repository} {p : Page} (h : p ∈ r.index.entries) :
    p.representative ∈ r.features :=
  List.mem_of_find?_eq_some ((Index.grouped_ofList r.features).find?_representative (Index.mem_entries.1 h))

theorem OneLine.facts {r : Repository} (h : r.OneLine) (hpromoted : ∀ name ∈ r.settings.promoted, r.HasClass name)
    {control : VersionControl} (hrevision : ∀ revision ∈ control.revision, '\n' ∉ revision) :
    (Facts.of control r).OneLine where
  version := by
    intro v hv
    obtain ⟨version, hversion, rfl⟩ := Option.map_eq_some_iff.1 hv
    exact h.version version hversion
  revision := hrevision
  promoted := by
    intro name hname
    obtain ⟨c, hc, rfl⟩ := hpromoted name hname
    exact h.className c hc
  className := h.className
  page := by
    simp only [Facts.of, List.forall_mem_map]
    intro p hp
    exact ⟨h.feature _ (representative_mem_features hp), p.representative.break_not_mem_guidePath⟩
  releaseVersion := by
    simp only [Facts.of, List.forall_mem_map]
    exact h.releaseVersion

end Repository

namespace Summary

theorem classLine_eq (c : ClassDoc) : classLine c = c.overview := by
  obtain ⟨name, visibility, functions, prose⟩ := c
  have hone : ofNat 1 = ['1'] := by decide
  have hvisibility : (if visibility = .stable then [] else " [".toList ++ visibility.keyword ++ "]".toList) =
      match visibility with
      | .stable => []
      | .experimental => " [protected]".toList
      | .internal => " [private]".toList := by
    cases visibility <;> rfl
  unfold classLine ClassDoc.overview
  simp only [hvisibility]
  match functions with
  | [] => simp
  | [_] => simp [hone]
  | _ :: _ :: _ => simp

theorem pageLine_eq (p : Page) : pageLine p = (PageFacts.of p).overview := by
  have hcolumn (k : FeatureKind) : padRight 5 k.short = k.column := by cases k <;> rfl
  unfold pageLine PageFacts.overview PageFacts.of
  simp only [hcolumn]
  by_cases hshared : 1 < p.features.length
  · simp [hshared]
  · simp [hshared]

theorem releaseLine_eq (control : VersionControl) (repositoryUrl : Text) (r : Release) :
    releaseLine (r.resolve control) = (ReleaseFacts.of control repositoryUrl r).overview := by
  unfold releaseLine ReleaseFacts.overview ReleaseFacts.of
  simp only [r.version_resolve control]
  cases (r.resolve control).date <;> simp

/-- The summary that is written once the dates were looked for is the overview of the facts. -/
theorem summaryLines_eq_overview {r : Repository} {promoted : List ClassDoc} (control : VersionControl)
    (hpromoted : promoted.map (·.name) = r.settings.promoted) :
    summaryLines (r.resolveDates control) control.revision promoted = (Facts.of control r).overview := by
  have hversion : versionLine (r.resolveDates control) =
      (r.version.map (·.toText)).elim "version unknown".toList
        fun v => "version ".toList ++ v ++ " (v".toList ++ v ++ [')'] := by
    unfold versionLine Repository.resolveDates
    cases r.version with
    | none => rfl
    | some v => simp [SemVer.tag]
  have hrevision : revisionLines control.revision = control.revision.toList.map ("revision ".toList ++ ·) := by
    cases control.revision <;> rfl
  have hnames : promoted.map promotedLine = r.settings.promoted.map ("* ".toList ++ ·) := by
    rw [← hpromoted, List.map_map]
    rfl
  have hpromotes : promoted = [] ↔ r.settings.promoted = [] := by
    rw [← hpromoted, List.map_eq_nil_iff]
  -- Looking for the dates leaves the classes and their pages as they are.
  have hclasses : (r.resolveDates control).classes.map classLine = r.classes.map (·.overview) :=
    List.map_congr_left fun c _ => classLine_eq c
  have hguide : (r.resolveDates control).index.entries.map pageLine =
      (r.index.entries.map PageFacts.of).map (·.overview) := by
    rw [List.map_map]
    exact List.map_congr_left fun p _ => pageLine_eq p
  have hreleases : (r.resolveDates control).releases.map releaseLine =
      (r.releases.map (ReleaseFacts.of control r.settings.repositoryUrl)).map (·.overview) := by
    simp [Repository.resolveDates, Changelog.resolve, releaseLine_eq control r.settings.repositoryUrl]
  have hreleased : (r.resolveDates control).releases = [] ↔
      r.releases.map (ReleaseFacts.of control r.settings.repositoryUrl) = [] := by
    simp [Repository.resolveDates, Changelog.resolve]
  simp only [summaryLines, hversion, hrevision, hnames, hpromotes, hclasses, hguide, hreleases, hreleased]
  rfl

end Summary

namespace Format

open JsonValue Snapshot

theorem result_render (format : Format) (control : VersionControl) (r : Repository) :
    (format.render control r).result =
      r.promoted.map (format.text (r.resolveDates control) control.revision) := by
  unfold render
  cases format <;> cases r.promoted <;> rfl

theorem eq_text_of_render {format : Format} {control : VersionControl} {r : Repository} {output : Text}
    (h : (format.render control r).result = .ok output) :
    ∃ promoted, r.promoted = .ok promoted ∧
      output = format.text (r.resolveDates control) control.revision promoted := by
  rw [result_render] at h
  cases hpromoted : r.promoted with
  | error e =>
    rw [hpromoted] at h
    cases h
  | ok promoted =>
    rw [hpromoted] at h
    cases h
    exact ⟨promoted, rfl, rfl⟩

/-- Whether a rendering succeeds depends on the promoted classes alone, in both formats. -/
theorem exists_result_render_iff (format : Format) (control : VersionControl) (r : Repository) :
    (∃ output, (format.render control r).result = .ok output) ↔ ∃ promoted, r.promoted = .ok promoted := by
  constructor
  · rintro ⟨output, houtput⟩
    obtain ⟨promoted, hpromoted, -⟩ := eq_text_of_render houtput
    exact ⟨promoted, hpromoted⟩
  · rintro ⟨promoted, hpromoted⟩
    rw [result_render, hpromoted]
    exact ⟨_, rfl⟩

theorem promoted_repository_render (format : Format) (control : VersionControl) (r : Repository) :
    (format.render control r).repository.promoted = r.promoted := by
  cases format with
  | json =>
    rw [render]
    split <;> rfl
  | summary =>
    rw [render]
    split <;> rfl

theorem repository_render_of_promoted {r : Repository} {promoted : List ClassDoc}
    (h : r.promoted = .ok promoted) (format : Format) (control : VersionControl) :
    (format.render control r).repository = r.resolveDates control := by
  unfold render
  cases format <;> simp only [h]

/-- A rendering leaves the facts as they are, also for a later state of version control at the same
    revision. -/
theorem facts_repository_render {r : Repository} {promoted : List ClassDoc} (h : r.promoted = .ok promoted)
    (format : Format) {control later : VersionControl} (hrevision : later.revision = control.revision) :
    Facts.of later (format.render control r).repository = Facts.of control r := by
  rw [repository_render_of_promoted h]
  have hreleases : (Changelog.resolve control r.releases).map (ReleaseFacts.of later r.settings.repositoryUrl) =
      r.releases.map (ReleaseFacts.of control r.settings.repositoryUrl) := by
    rw [Changelog.resolve, List.map_map]
    apply List.map_congr_left
    intro release _
    obtain ⟨hversion, hnotes⟩ := release.resolve_same control
    simp [ReleaseFacts.of, Release.resolve_resolve, Release.sourceUrl, Release.tag, hversion, hnotes]
  simp only [Facts.of, Repository.resolveDates, hreleases, hrevision]
  rfl

theorem oneLine_repository_render {r : Repository} (h : r.OneLine) (format : Format) (control : VersionControl) :
    (format.render control r).repository.OneLine := by
  let s : Session := { tree := .empty, control, repository := r }
  have hrepository : s.repository.OneLine := h
  exact Session.oneLine_step hrepository (.render format)

/-- The lines of a summary are those of the overview. -/
theorem lines_of_render_summary {control : VersionControl} {r : Repository} {output : Text} (hline : r.OneLine)
    (hrevision : ∀ revision ∈ control.revision, '\n' ∉ revision)
    (h : (summary.render control r).result = .ok output) :
    lines output = (Facts.of control r).overview.map (· ++ ['\n']) := by
  obtain ⟨promoted, hpromoted, rfl⟩ := eq_text_of_render h
  have hknown := Repository.exists_promoted_iff.1 ⟨promoted, hpromoted⟩
  rw [Format.text, Summary.text, Summary.summaryLines_eq_overview control (Repository.names_promoted hpromoted),
    lines_flatMap_break (hline.facts hknown hrevision).overview]

/-- A summary and a JSON document of the same facts of a repository. Both are there if every promoted
    name is the name of a class, and otherwise both fail for the first name that is not. Where they are
    there, the facts are read from the document, and the summary is their overview line by line. -/
structure Agree (r : Repository) (facts : Facts) (overview document : Except LookupError Text) : Prop where
  overview_ok_iff : (∃ output, overview = .ok output) ↔ ∀ name ∈ r.settings.promoted, r.HasClass name
  document_ok_iff : (∃ output, document = .ok output) ↔ ∀ name ∈ r.settings.promoted, r.HasClass name
  error_of_missing : ∀ before name after, r.settings.promoted = before ++ name :: after →
    (∀ known ∈ before, r.HasClass known) → ¬r.HasClass name →
      overview = .error (.unknownClass name) ∧ document = .error (.unknownClass name)
  facts_of_ok : ∀ output, document = .ok output → (decode? output).bind facts? = some facts
  lines_of_ok : ∀ output, overview = .ok output → (∀ revision ∈ facts.revision, '\n' ∉ revision) →
    lines output = facts.overview.map (· ++ ['\n'])

/-- Renderings of a repository in two states agree if the states have the promoted classes and, with
    these, the facts in common. -/
theorem agree_of_facts {r shown told : Repository} {facts : Facts} {control other : VersionControl}
    (hpromoted : shown.promoted = r.promoted ∧ told.promoted = r.promoted) (hline : shown.OneLine)
    (hfacts : ∀ promoted, r.promoted = .ok promoted →
      Facts.of control shown = facts ∧ Facts.of other told = facts) :
    Agree r facts (summary.render control shown).result (json.render other told).result := by
  obtain ⟨hshown, htold⟩ := hpromoted
  refine ⟨?_, ?_, ?_, ?_, ?_⟩
  · rw [exists_result_render_iff, hshown, Repository.exists_promoted_iff]
  · rw [exists_result_render_iff, htold, Repository.exists_promoted_iff]
  · intro before name after hnames hbefore hname
    have herror : r.promoted = .error (.unknownClass name) := by
      rw [Repository.promoted, hnames, Repository.mapM_classNamed_of_missing hbefore hname]
    rw [result_render, result_render, hshown, htold, herror]
    exact ⟨rfl, rfl⟩
  · intro output houtput
    obtain ⟨promoted, hpromoted, -⟩ := eq_text_of_render houtput
    rw [facts?_of_render_json houtput, (hfacts promoted (htold ▸ hpromoted)).2]
  · intro output houtput hrevision
    obtain ⟨promoted, hpromoted, -⟩ := eq_text_of_render houtput
    obtain ⟨rfl, -⟩ := hfacts promoted (hshown ▸ hpromoted)
    exact lines_of_render_summary hline hrevision houtput

/-- At any time after a load, a summary and a JSON document agree, in whichever order they are rendered.
    Version control may change between the two: the dates are those of the first, and only the revision
    has to be the same. -/
theorem summary_agrees_with_json {tree : Folder} {root : Text} {settings : Settings} {s : Session}
    (hload : Repository.load tree root settings = .ok s.repository) (events : List Event)
    {control later : VersionControl} (hrevision : later.revision = control.revision) :
    let r := (s.run events).2.repository
    Agree r (.of control r) (summary.render control r).result
      (json.render later (summary.render control r).repository).result ∧
    Agree r (.of control r) (summary.render later (json.render control r).repository).result
      (json.render control r).result := by
  intro r
  have hline : r.OneLine := Session.oneLine_run (Repository.oneLine_of_load hload) events
  constructor
  · refine agree_of_facts ⟨rfl, promoted_repository_render summary control r⟩ hline ?_
    exact fun promoted hpromoted => ⟨rfl, facts_repository_render hpromoted summary hrevision⟩
  · refine agree_of_facts ⟨promoted_repository_render json control r, rfl⟩
      (oneLine_repository_render hline json control) ?_
    exact fun promoted hpromoted => ⟨facts_repository_render hpromoted json hrevision, rfl⟩

/-- A class and a function that share a page, with a version and one release. -/
def sharedPageFiles : Folder :=
  let file (text : String) : FileEntry := .file (utf8 text.toList)
  ((Folder.empty.put (file "###*\n@class up.form\n@protected\n###\n###*\n@method up.form\n###\n")
      ["repo".toList, "lib".toList, "form.coffee".toList]).put
    (file "1.0.0\n---\nNew.\n") ["repo".toList, "CHANGELOG.md".toList]).put
    (file "VERSION = '1.0.0'\n")
      ["repo".toList, "lib".toList, "unpoly".toList, "rails".toList, "version.rb".toList]

/-- Version control with the tag of the release. -/
def releaseTagged : VersionControl :=
  .ofTable (some "c0ffee".toList) [("v1.0.0".toList, "2017-12-06 08:14:52 +0100".toList)]

/-- The same revision without the tag. -/
def tagRemoved : VersionControl :=
  .ofTable (some "c0ffee".toList) []

/-- The summary of the files. -/
def sharedPageLines : List Text :=
  ["version 1.0.0 (v1.0.0)\n".toList, "revision c0ffee\n".toList,
    "\n".toList, "## Promoted\n".toList, "\n".toList, "* up.form\n".toList,
    "\n".toList, "## Classes\n".toList, "\n".toList, "* up.form (1 feature) [protected]\n".toList,
    "\n".toList, "## Guide\n".toList, "\n".toList, "* cls   up.form /up.form (x2)\n".toList,
    "\n".toList, "## Releases\n".toList, "\n".toList, "* 1.0.0 (2017-12-06)\n".toList]

/-- The summary comes after the JSON document and shows the date that was looked up for that. -/
theorem summary_agrees_with_json_sharedPageFiles :
    ∃ r document overview,
      Repository.load sharedPageFiles "repo".toList { promoted := ["up.form".toList] } = .ok r ∧
      (json.render releaseTagged r).result = .ok document ∧
      (summary.render tagRemoved (json.render releaseTagged r).repository).result = .ok overview ∧
      (decode? document).bind facts? = some (.of releaseTagged r) ∧ lines overview = sharedPageLines := by
  have hread : (Repository.load sharedPageFiles "repo".toList { promoted := ["up.form".toList] }).toOption.map
      (fun r => (r.settings.promoted, r.classes.map (·.name),
        (Facts.of releaseTagged r).overview.map (· ++ ['\n']))) =
      some (["up.form".toList], ["up.form".toList], sharedPageLines) := by
    decide +kernel
  cases hload : Repository.load sharedPageFiles "repo".toList { promoted := ["up.form".toList] } with
  | error e =>
    rw [hload] at hread
    cases hread
  | ok r =>
    rw [hload] at hread
    obtain ⟨hpromoted, hnames, hlines⟩ : r.settings.promoted = ["up.form".toList] ∧
        r.classes.map (·.name) = ["up.form".toList] ∧
        (Facts.of releaseTagged r).overview.map (· ++ ['\n']) = sharedPageLines := by
      simpa only [Except.toOption, Option.map_some, Option.some.injEq, Prod.mk.injEq] using hread
    have hknown : ∀ name ∈ r.settings.promoted, r.HasClass name := by
      intro name hname
      rw [hpromoted, ← hnames] at hname
      exact List.mem_map.1 hname
    let s : Session := { tree := sharedPageFiles, control := releaseTagged, repository := r }
    have hloaded : Repository.load sharedPageFiles "repo".toList { promoted := ["up.form".toList] } =
        .ok s.repository := hload
    have hrevision : tagRemoved.revision = releaseTagged.revision := rfl
    obtain ⟨-, hagree⟩ := summary_agrees_with_json hloaded [] hrevision
    obtain ⟨document, hdocument⟩ := hagree.document_ok_iff.2 hknown
    obtain ⟨overview, hoverview⟩ := hagree.overview_ok_iff.2 hknown
    refine ⟨r, document, overview, rfl, hdocument, hoverview, hagree.facts_of_ok document hdocument, ?_⟩
    rw [hagree.lines_of_ok overview hoverview]
    · exact hlines
    · rintro revision ⟨⟩
      decide

end Format

end ApiGuide
