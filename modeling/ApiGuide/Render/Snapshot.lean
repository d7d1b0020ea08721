import ApiGuide.Json
import ApiGuide.Repository

/-!
The whole model as JSON.
-/

namespace ApiGuide.Snapshot

/-- A parameter. The default is left out where there is none. -/
def param (p : ParamDoc) : JsonValue :=
  .object ([("name".toList, .string p.name), ("optional".toList, .boolean p.optional)]
    ++ p.default.toList.map (fun d => ("default".toList, .string d))
    ++ [("types".toList, .strings p.types), ("guide_markdown".toList, .string p.prose)])

/-- A function with its parameters. -/
def function (f : FunctionDoc) : JsonValue :=
  .object [("name".toList, .string f.name), ("visibility".toList, .string f.visibility.keyword),
    ("params".toList, .array (f.params.map param)), ("ujs".toList, .boolean f.ujs),
    ("guide_markdown".toList, .string f.prose), ("klass".toList, .string f.owner)]

/-- A class with its functions. -/
def classDoc (c : ClassDoc) : JsonValue :=
  .object [("name".toList, .string c.name), ("visibility".toList, .string c.visibility.keyword),
    ("functions".toList, .array (c.functions.map function)),
    ("guide_markdown".toList, .string c.prose)]

/-- A guide page, as its representative shows it. -/
def page (p : Page) : JsonValue :=
  let f := p.representative
  .object [("guide_id".toList, .string f.guideId), ("guide_path".toList, .string f.guidePath),
    ("name".toList, .string f.name), ("kind".toList, .string f.kind.label),
    ("visibility".toList, .string f.visibility.keyword),
    ("search_text".toList, .string f.searchText), ("features".toList, .number p.features.length)]

/-- A release with what is known of its date. -/
def release (repositoryUrl : Text) (r : Release) : JsonValue :=
  .object [("version".toList, .string r.version),
    ("date".toList, .ofOption (r.date.map (·.toText))), ("git_tag".toList, .string r.tag),
    ("source_url".toList, .string (r.sourceUrl repositoryUrl)),
    ("markdown".toList, .string r.notes)]

/-- A repository at a revision, with its promoted classes. -/
def snapshot (r : Repository) (revision : Option Text) (promoted : List ClassDoc) : JsonValue :=
  .object [("version".toList, .ofOption (r.version.map (·.toText))),
    ("revision".toList, .ofOption revision),
    ("promoted_klasses".toList, .strings (promoted.map (·.name))),
    ("klasses".toList, .array (r.classes.map classDoc)),
    ("guide".toList, .array (r.index.entries.map page)),
    ("releases".toList, .array (r.releases.map (release r.settings.repositoryUrl)))]

/-- The JSON document of a repository, with a line break at its end. -/
def text (r : Repository) (revision : Option Text) (promoted : List ClassDoc) : Text :=
  (snapshot r revision promoted).toText ++ ['\n']

end ApiGuide.Snapshot
