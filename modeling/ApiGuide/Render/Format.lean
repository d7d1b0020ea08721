import ApiGuide.Render.Snapshot
import ApiGuide.Render.Summary

/-!
Rendering in a format, with what version control is asked for on the way.
-/

namespace ApiGuide

/-- An output format. -/
inductive Format
  | summary
  | json
  deriving DecidableEq

/-- What a rendering gives: its text or the failure, the repository with the dates that are known
    now, and what version control was asked, in order. -/
structure Rendering where
  result : Except LookupError Text
  repository : Repository
  asked : List Query

namespace Format

/-- The format of a name. -/
def ofName? (name : Text) : Option Format :=
  if name = "summary".toList ∨ name = "text".toList then some .summary
  else if name = "json".toList then some .json
  else none

/-- What is said of a name that is no format. -/
def unknownMessage (name : Text) : Text :=
  "unknown format: ".toList ++ name ++ ". Use summary or json".toList

/-- Renders a repository. JSON asks for the dates first and needs the promoted classes last. A
    summary asks for the dates only after the promoted classes were found. -/
def render (control : VersionControl) (r : Repository) : Format → Rendering
  | .json =>
    let dated := r.resolveDates control
    let asked := Changelog.pending r.releases ++ [.revision]
    match r.promoted with
    | .error e => ⟨.error e, dated, asked⟩
    | .ok promoted => ⟨.ok (Snapshot.text dated control.revision promoted), dated, asked⟩
  | .summary =>
    match r.promoted with
    | .error e => ⟨.error e, r, [.revision]⟩
    | .ok promoted =>
      let dated := r.resolveDates control
      ⟨.ok (Summary.text dated control.revision promoted), dated,
        .revision :: Changelog.pending r.releases⟩

end Format

end ApiGuide
