import ApiGuide.Render.Format

/-!
A loaded repository over time, while its files and version control change.
-/

namespace ApiGuide

/-- The files, version control and repository of a session, and what version control was asked so
    far. -/
structure Session where
  tree : Folder
  control : VersionControl
  repository : Repository
  asked : List Query := []

/-- What can happen in a session. -/
inductive Event
  | put (path : Text) (entry : FileEntry)
  | remove (path : Text)
  | setControl (control : VersionControl)
  | reload
  | date (version : Text)
  | render (format : Format)

/-- What is answered. -/
inductive Reply
  | done
  | reloaded (result : Except LoadError Unit)
  | noRelease
  | dated (date : Option Date)
  | rendered (result : Except LookupError Text)

namespace Session

/-- Answers one event. -/
def step (s : Session) : Event → Reply × Session
  | .put path entry => (.done, { s with tree := s.tree.put entry (Path.names path) })
  | .remove path => (.done, { s with tree := s.tree.remove (Path.names path) })
  | .setControl control => (.done, { s with control })
  | .reload =>
    let (result, repository) := s.repository.reload s.tree
    (.reloaded result, { s with repository })
  | .date version =>
    match Changelog.resolveVersion? s.control version s.repository.releases with
    | none => (.noRelease, s)
    | some (before, releases) =>
      (.dated (before.resolve s.control).date,
        { s with
          repository := { s.repository with releases }
          asked := s.asked ++ before.pending })
  | .render format =>
    let rendering := format.render s.control s.repository
    (.rendered rendering.result,
      { s with repository := rendering.repository, asked := s.asked ++ rendering.asked })

/-- Answers events one after the other. -/
def run (s : Session) : List Event → List Reply × Session
  | [] => ([], s)
  | event :: rest =>
    let (reply, s) := s.step event
    let (replies, s) := s.run rest
    (reply :: replies, s)

end Session

end ApiGuide
