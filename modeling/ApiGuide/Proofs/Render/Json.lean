import ApiGuide.Proofs.Json.Layout
import ApiGuide.Proofs.Json.ReadBack
import ApiGuide.Proofs.Render.Facts
import ApiGuide.Render.Format

/-!
The JSON rendering is a document that tells everything it is made from.
-/

namespace ApiGuide.Format

open JsonValue Snapshot

theorem eq_text_of_render_json {control : VersionControl} {r : Repository} {output : Text}
    (h : (json.render control r).result = .ok output) :
    ∃ promoted, r.promoted = .ok promoted ∧
      output = Snapshot.text (r.resolveDates control) control.revision promoted := by
  unfold render at h
  cases hpromoted : r.promoted with
  | error e =>
    rw [hpromoted] at h
    cases h
  | ok promoted =>
    rw [hpromoted] at h
    cases h
    exact ⟨promoted, rfl, rfl⟩

/-- The facts are read from the decoded document. -/
theorem facts?_of_render_json {control : VersionControl} {r : Repository} {output : Text}
    (h : (json.render control r).result = .ok output) :
    (decode? output).bind facts? = some (.of control r) := by
  obtain ⟨promoted, hpromoted, rfl⟩ := eq_text_of_render_json h
  rw [Snapshot.text, decode?_of_isDocument (isDocument_toText _)]
  exact facts?_snapshot (Repository.names_promoted hpromoted)

/-- A JSON rendering that succeeds is one JSON document and a line break. No other value has this
    document, and decoding it tells again what was rendered: version and revision, the promoted names in
    the order of the settings, all classes with their functions and parameters, the guide pages in
    their order, and the releases with their dates. So renderings of repositories that differ in any of
    this differ. -/
theorem render_json_decodable {control : VersionControl} {r : Repository} {output : Text}
    (hrender : (json.render control r).result = .ok output) :
    ∃ document value, output = document ++ ['\n'] ∧ Spells value document ∧
      (∀ other, IsDocument other output → other = value) ∧
      decode? output = some value ∧ facts? value = some (.of control r) ∧
      ∀ control' r', (json.render control' r').result = .ok output →
        Facts.of control' r' = Facts.of control r := by
  obtain ⟨promoted, -, houtput⟩ := eq_text_of_render_json hrender
  let value := snapshot (r.resolveDates control) control.revision promoted
  have hdocument : IsDocument value output := houtput ▸ isDocument_toText value
  have hdecode : decode? output = some value := decode?_of_isDocument hdocument
  have hfacts := facts?_of_render_json hrender
  refine ⟨value.toText, value, houtput, spells_layout value 0, ?_, hdecode, ?_, ?_⟩
  · exact fun other hother => hother.unique hdocument
  · rwa [hdecode] at hfacts
  · intro control' r' hrender'
    have hfacts' := facts?_of_render_json hrender'
    rw [hfacts] at hfacts'
    exact Option.some.inj hfacts'.symm

/-- A repository with quotes, backslashes and control characters in its documentation. -/
def escapedRepository : Repository :=
  { root := "repo".toList
    settings := { promoted := ["up.form".toList] }
    classes := [
      { name := "up.form".toList
        visibility := .experimental
        functions := [
          { name := "up.form".toList
            params := [⟨"options".toList, true, some "\"a\\b\"".toList, ["Object".toList], "\x01\n".toList⟩,
              ⟨"target".toList, false, none, [], []⟩]
            owner := "up.form".toList }]
        prose := "Say \"hi\"\t\\é\x1f".toList }]
    releases := [{ version := "1.0.0".toList, notes := "First.\n".toList },
      { version := "0.9.0".toList, notes := [], known := some none }]
    version := some { major := 1, minor := 0, patch := 0 } }

/-- Version control that knows one tag. -/
def oneTag : VersionControl :=
  .ofTable none [("v1.0.0".toList, "2017-12-06 08:14:52 +0100".toList)]

theorem render_json_decodable_escapedRepository :
    ∃ output value, (json.render oneTag escapedRepository).result = .ok output ∧
      decode? output = some value ∧ facts? value = some
        { version := some "1.0.0".toList
          revision := none
          promoted := ["up.form".toList]
          classes := escapedRepository.classes
          guide := [⟨"up.form".toList, "/up.form".toList, "up.form".toList, .classKind, .experimental,
            "up.form up form".toList, 2⟩]
          releases := [⟨"1.0.0".toList, some ⟨2017, 12, 6⟩, "v1.0.0".toList,
              "https://github.com/unpoly/unpoly/tree/v1.0.0".toList, "First.\n".toList⟩,
            ⟨"0.9.0".toList, none, "v0.9.0".toList,
              "https://github.com/unpoly/unpoly/tree/v0.9.0".toList, []⟩] } := by
  have hrender : (json.render oneTag escapedRepository).result = .ok
      (Snapshot.text (escapedRepository.resolveDates oneTag) none escapedRepository.classes) := rfl
  obtain ⟨document, value, -, -, -, hdecode, hfacts, -⟩ := render_json_decodable hrender
  refine ⟨_, value, hrender, hdecode, hfacts.trans ?_⟩
  decide +kernel

end ApiGuide.Format
