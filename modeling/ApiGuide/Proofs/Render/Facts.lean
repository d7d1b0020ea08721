import ApiGuide.Proofs.Calendar.Date
import ApiGuide.Proofs.Text.Lines
import ApiGuide.Render.Snapshot

/-!
What a snapshot tells, and a reader that takes it from the JSON value again.

The reader looks every field up by its key. It refuses an object in which a key it needs stands
twice, so it does not matter which of two such fields another reader would take.
-/

namespace ApiGuide

open Text

namespace Date

/-- The day of a text with the year, the month and the day between hyphens. A year may have a sign. -/
def ofText? (t : Text) : Option Date :=
  match splitOn '-' t with
  | [[], year, month, day] => some ⟨-(digitsValue year : Int), digitsValue month, digitsValue day⟩
  | [year, month, day] =>
    some ⟨digitsValue (year.dropWhile (· == '+')), digitsValue month, digitsValue day⟩
  | _ => none

theorem dropWhile_plus_padded (width n : Nat) :
    (padded width n).dropWhile (· == '+') = padded width n := by
  cases hdigits : padded width n with
  | nil => rfl
  | cons c t =>
    have hc : c ≠ '+' := by
      rintro rfl
      exact not_mem_padded rfl width n (hdigits ▸ List.mem_cons_self)
    simp [hc]

theorem splitOn_hyphens {year : Text} (hyear : '-' ∉ year) (month day : Nat) :
    splitOn '-' (year ++ '-' :: (padded 2 month ++ '-' :: padded 2 day)) =
      [year, padded 2 month, padded 2 day] := by
  have hjoin : year ++ '-' :: (padded 2 month ++ '-' :: padded 2 day) =
      joinWith ['-'] [year, padded 2 month, padded 2 day] := by
    simp [joinWith_cons]
  rw [hjoin]
  apply splitOn_joinWith
  · simp [hyear, not_mem_padded]
  · simp

/-- Every day is read from its text, also one before or after the years of four digits. -/
theorem ofText?_toText (d : Date) : ofText? d.toText = some d := by
  obtain ⟨year, month, day⟩ := d
  simp only [toText, yearText, List.append_assoc, List.cons_append]
  split
  · next hfour =>
    have hyear : ((year.toNat : Nat) : Int) = year := by omega
    simp only [ofText?, splitOn_hyphens (not_mem_padded rfl 4 _), dropWhile_plus_padded, digitsValue_padded,
      hyear]
  · split
    · next hneg =>
      have hyear : -(year.natAbs : Int) = year := by omega
      rw [ofText?, List.cons_append, splitOn, if_pos rfl, splitOn_hyphens (not_mem_padded rfl 4 _)]
      simp only [digitsValue_padded, hyear]
    · next hpos =>
      have hyear : (year.natAbs : Int) = year := by omega
      have hplus : '-' ∉ '+' :: padded 4 year.natAbs := by simp [not_mem_padded]
      rw [ofText?, splitOn_hyphens hplus]
      simp only [List.dropWhile_cons, beq_self_eq_true, if_true, dropWhile_plus_padded, digitsValue_padded,
        hyear]

end Date

theorem Visibility.ofKeyword?_keyword (v : Visibility) : ofKeyword? v.keyword = some v := by
  cases v <;> decide

/-- The kind of a label. -/
def FeatureKind.ofLabel? (word : Text) : Option FeatureKind :=
  [classKind, functionKind, selectorKind, eventKind].find? (·.label = word)

theorem FeatureKind.ofLabel?_label (k : FeatureKind) : ofLabel? k.label = some k := by
  cases k <;> decide

namespace JsonValue

/-- The values under a key. -/
def under (key : String) : JsonValue → List JsonValue
  | .object fields => (fields.filter (·.1 = key.toList)).map (·.2)
  | _ => []

/-- What is read from the value under a key. The key has to stand there exactly once. -/
def member? {α : Type} (read : JsonValue → Option α) (key : String) (v : JsonValue) : Option α :=
  match v.under key with
  | [value] => read value
  | _ => none

/-- What is read from the value under a key that may be missing. It must not stand there twice. -/
def optionalMember? {α : Type} (read : JsonValue → Option α) (key : String) (v : JsonValue) :
    Option (Option α) :=
  match v.under key with
  | [] => some none
  | [value] => (read value).map some
  | _ => none

/-- The text of a string. -/
def text? : JsonValue → Option Text
  | .string s => some s
  | _ => none

/-- A truth value. -/
def flag? : JsonValue → Option Bool
  | .boolean b => some b
  | _ => none

/-- A number. -/
def size? : JsonValue → Option Nat
  | .number n => some n
  | _ => none

/-- What is read from every item of an array. -/
def list? {α : Type} (read : JsonValue → Option α) : JsonValue → Option (List α)
  | .array items => items.mapM read
  | _ => none

/-- What is read from a value that may be null. -/
def nullable? {α : Type} (read : JsonValue → Option α) : JsonValue → Option (Option α)
  | .null => some none
  | v => (read v).map some

theorem list?_map {α β : Type} {read : JsonValue → Option β} {write : α → JsonValue} {fact : α → β}
    (h : ∀ a, read (write a) = some (fact a)) (as : List α) :
    list? read (.array (as.map write)) = some (as.map fact) := by
  rw [list?]
  induction as with
  | nil => rfl
  | cons a as ih => simp [List.mapM_cons, h, ih]

end JsonValue

/-- What a snapshot tells of a guide page. -/
structure PageFacts where
  guideId : Text
  guidePath : Text
  name : Text
  kind : FeatureKind
  visibility : Visibility
  searchText : Text
  features : Nat
  deriving DecidableEq

/-- What a snapshot tells of a release. -/
structure ReleaseFacts where
  version : Text
  date : Option Date
  tag : Text
  sourceUrl : Text
  notes : Text
  deriving DecidableEq

/-- What a snapshot tells. -/
structure Facts where
  version : Option Text
  revision : Option Text
  promoted : List Text
  classes : List ClassDoc
  guide : List PageFacts
  releases : List ReleaseFacts
  deriving DecidableEq

/-- A guide page is shown as its representative. -/
def PageFacts.of (p : Page) : PageFacts :=
  { guideId := p.representative.guideId
    guidePath := p.representative.guidePath
    name := p.representative.name
    kind := p.representative.kind
    visibility := p.representative.visibility
    searchText := p.representative.searchText
    features := p.features.length }

/-- A release with the date that version control answers, unless it was asked before. -/
def ReleaseFacts.of (control : VersionControl) (repositoryUrl : Text) (r : Release) : ReleaseFacts :=
  { version := r.version
    date := (r.resolve control).date
    tag := r.tag
    sourceUrl := r.sourceUrl repositoryUrl
    notes := r.notes }

/-- What is to be told of a repository under version control. -/
def Facts.of (control : VersionControl) (r : Repository) : Facts :=
  { version := r.version.map (·.toText)
    revision := control.revision
    promoted := r.settings.promoted
    classes := r.classes
    guide := r.index.entries.map PageFacts.of
    releases := r.releases.map (ReleaseFacts.of control r.settings.repositoryUrl) }

theorem Release.resolve_same (control : VersionControl) (r : Release) :
    (r.resolve control).version = r.version ∧ (r.resolve control).notes = r.notes := by
  unfold resolve
  split <;> exact ⟨rfl, rfl⟩

namespace Snapshot

open JsonValue

/-- Reads a visibility keyword. -/
def visibility? (v : JsonValue) : Option Visibility :=
  v.text?.bind Visibility.ofKeyword?

/-- Reads a parameter. It has a default if and only if there is a key for one. -/
def param? (v : JsonValue) : Option ParamDoc := do
  let name ← v.member? text? "name"
  let optional ← v.member? flag? "optional"
  let default ← v.optionalMember? text? "default"
  let types ← v.member? (list? text?) "types"
  let prose ← v.member? text? "guide_markdown"
  some { name, optional, default, types, prose }

/-- Reads a function with its parameters. -/
def function? (v : JsonValue) : Option FunctionDoc := do
  let name ← v.member? text? "name"
  let visibility ← v.member? visibility? "visibility"
  let params ← v.member? (list? param?) "params"
  let ujs ← v.member? flag? "ujs"
  let prose ← v.member? text? "guide_markdown"
  let owner ← v.member? text? "klass"
  some { name, visibility, params, ujs, prose, owner }

/-- Reads a class with its functions. -/
def classDoc? (v : JsonValue) : Option ClassDoc := do
  let name ← v.member? text? "name"
  let visibility ← v.member? visibility? "visibility"
  let functions ← v.member? (list? function?) "functions"
  let prose ← v.member? text? "guide_markdown"
  some { name, visibility, functions, prose }

/-- Reads a guide page. -/
def page? (v : JsonValue) : Option PageFacts := do
  let guideId ← v.member? text? "guide_id"
  let guidePath ← v.member? text? "guide_path"
  let name ← v.member? text? "name"
  let kind ← v.member? (fun kind => kind.text?.bind FeatureKind.ofLabel?) "kind"
  let visibility ← v.member? visibility? "visibility"
  let searchText ← v.member? text? "search_text"
  let features ← v.member? size? "features"
  some { guideId, guidePath, name, kind, visibility, searchText, features }

/-- Reads a release. -/
def release? (v : JsonValue) : Option ReleaseFacts := do
  let version ← v.member? text? "version"
  let date ← v.member? (nullable? fun date => date.text?.bind Date.ofText?) "date"
  let tag ← v.member? text? "git_tag"
  let sourceUrl ← v.member? text? "source_url"
  let notes ← v.member? text? "markdown"
  some { version, date, tag, sourceUrl, notes }

/-- Reads everything that a snapshot tells. -/
def facts? (v : JsonValue) : Option Facts := do
  let version ← v.member? (nullable? text?) "version"
  let revision ← v.member? (nullable? text?) "revision"
  let promoted ← v.member? (list? text?) "promoted_klasses"
  let classes ← v.member? (list? classDoc?) "klasses"
  let guide ← v.member? (list? page?) "guide"
  let releases ← v.member? (list? release?) "releases"
  some { version, revision, promoted, classes, guide, releases }

theorem visibility?_keyword (v : Visibility) : visibility? (.string v.keyword) = some v :=
  Visibility.ofKeyword?_keyword v

theorem strings?_strings (items : List Text) : list? text? (.strings items) = some items := by
  have hitem (s : Text) : text? (.string s) = some s := rfl
  rw [JsonValue.strings, list?_map hitem, List.map_id']

theorem nullable?_ofOption (s : Option Text) : nullable? text? (.ofOption s) = some s := by
  cases s <;> rfl

theorem date?_ofOption (d : Option Date) :
    nullable? (fun date => date.text?.bind Date.ofText?) (.ofOption (d.map (·.toText))) = some d := by
  cases d with
  | none => rfl
  | some d =>
    change (Date.ofText? d.toText).map some = some (some d)
    rw [Date.ofText?_toText]
    rfl

theorem param?_param (p : ParamDoc) : param? (param p) = some p := by
  obtain ⟨name, optional, default, types, prose⟩ := p
  cases default <;>
  · change (list? text? (.strings types)).bind _ = _
    rw [strings?_strings]
    rfl

theorem function?_function (f : FunctionDoc) : function? (function f) = some f := by
  -- Looking up the keys is computation, so what is left are the values that need a lemma.
  change (visibility? (.string f.visibility.keyword)).bind (fun visibility =>
    (list? param? (.array (f.params.map param))).bind fun params =>
      some { f with visibility, params }) = some f
  rw [visibility?_keyword, list?_map param?_param, List.map_id']
  rfl

theorem classDoc?_classDoc (c : ClassDoc) : classDoc? (classDoc c) = some c := by
  change (visibility? (.string c.visibility.keyword)).bind (fun visibility =>
    (list? function? (.array (c.functions.map function))).bind fun functions =>
      some { c with visibility, functions }) = some c
  rw [visibility?_keyword, list?_map function?_function, List.map_id']
  rfl

theorem page?_page (p : Page) : page? (page p) = some (.of p) := by
  change (FeatureKind.ofLabel? p.representative.kind.label).bind (fun kind =>
    (visibility? (.string p.representative.visibility.keyword)).bind fun visibility =>
      some { PageFacts.of p with kind, visibility }) = some (.of p)
  rw [FeatureKind.ofLabel?_label, visibility?_keyword]
  rfl

theorem release?_release (control : VersionControl) (repositoryUrl : Text) (r : Release) :
    release? (release repositoryUrl (r.resolve control)) = some (.of control repositoryUrl r) := by
  obtain ⟨hversion, hnotes⟩ := r.resolve_same control
  change (nullable? (fun date => date.text?.bind Date.ofText?)
    (.ofOption ((r.resolve control).date.map (·.toText)))).bind (fun date =>
      some ⟨(r.resolve control).version, date, (r.resolve control).tag,
        (r.resolve control).sourceUrl repositoryUrl, (r.resolve control).notes⟩) =
      some (ReleaseFacts.of control repositoryUrl r)
  rw [date?_ofOption]
  simp only [Option.bind_some, ReleaseFacts.of, Release.sourceUrl, Release.tag, hversion, hnotes]

/-- The facts are read from the snapshot that is taken once the dates were looked for. -/
theorem facts?_snapshot {control : VersionControl} {r : Repository} {promoted : List ClassDoc}
    (hpromoted : promoted.map (·.name) = r.settings.promoted) :
    facts? (snapshot (r.resolveDates control) control.revision promoted) = some (.of control r) := by
  have hreleases : (r.resolveDates control).releases.map (release r.settings.repositoryUrl) =
      r.releases.map fun one => release r.settings.repositoryUrl (one.resolve control) := by
    simp [Repository.resolveDates, Changelog.resolve]
  change (nullable? text? (.ofOption (r.version.map (·.toText)))).bind (fun version =>
    (nullable? text? (.ofOption control.revision)).bind fun revision =>
    (list? text? (.strings (promoted.map (·.name)))).bind fun promoted =>
    (list? classDoc? (.array (r.classes.map classDoc))).bind fun classes =>
    (list? page? (.array (r.index.entries.map page))).bind fun guide =>
    (list? release? (.array ((r.resolveDates control).releases.map (release r.settings.repositoryUrl)))).bind
      fun releases => some ⟨version, revision, promoted, classes, guide, releases⟩) =
      some (Facts.of control r)
  rw [nullable?_ofOption, nullable?_ofOption, strings?_strings, hpromoted, list?_map classDoc?_classDoc,
    List.map_id', list?_map page?_page, hreleases,
    list?_map (release?_release control r.settings.repositoryUrl)]
  rfl

end Snapshot

namespace Repository

theorem name_of_classNamed {r : Repository} {name : Text} {c : ClassDoc} (h : r.classNamed name = .ok c) :
    c.name = name := by
  unfold classNamed at h
  split at h
  · next found hfound =>
    cases h
    simpa using List.find?_some hfound
  · cases h

/-- The promoted classes have the names of the settings. -/
theorem names_promoted {r : Repository} {promoted : List ClassDoc} (h : r.promoted = .ok promoted) :
    promoted.map (·.name) = r.settings.promoted := by
  unfold Repository.promoted at h
  generalize r.settings.promoted = names at h ⊢
  induction names generalizing promoted with
  | nil =>
    cases h
    rfl
  | cons name names ih =>
    rw [List.mapM_cons] at h
    cases hfirst : r.classNamed name with
    | error e => simp [hfirst, bind, Except.bind] at h
    | ok c =>
      cases hrest : names.mapM r.classNamed with
      | error e => simp [hfirst, hrest, bind, Except.bind] at h
      | ok rest =>
        obtain rfl : c :: rest = promoted := by
          simpa [hfirst, hrest, bind, Except.bind, pure, Except.pure] using h
        rw [List.map_cons, name_of_classNamed hfirst, ih hrest]

end Repository

end ApiGuide
