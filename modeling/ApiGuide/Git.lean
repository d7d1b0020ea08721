import ApiGuide.Text.Utf8
import ApiGuide.Text.Whitespace
import ApiGuide.VersionControl

/-!
Version control by the git program.

A question that git fails on, or answers with white space only, has no answer.
-/

namespace ApiGuide.Git

open Text

/-- What a run of the program gives. -/
structure Reply where
  output : List UInt8
  exitCode : Nat

/-- The program: what it replies to its arguments. `none` if there is no such program. -/
abbrev Program := Option (List Text → Reply)

/-- The arguments that ask a question about the repository at a path. -/
def arguments (repository : Text) : Query → List Text
  | .revision => ["-C".toList, repository, "rev-parse".toList, "HEAD".toList]
  | .timestamp tag =>
    ["-C".toList, repository, "log".toList, "-1".toList, "--format=%ai".toList, tag]

/-- The answer to a question. -/
def answer (program : Program) (repository : Text) (query : Query) : Option Text :=
  match program with
  | none => none
  | some run =>
    let reply := run (arguments repository query)
    if reply.exitCode ≠ 0 then none
    else
      let t := trim (ofUtf8Lossy reply.output)
      if t = [] then none else some t

/-- Version control by the program. -/
def control (program : Program) (repository : Text) : VersionControl :=
  ⟨answer program repository .revision, fun tag => answer program repository (.timestamp tag)⟩

/-- The runs of the program that questions cause. -/
def calls (program : Program) (repository : Text) (asked : List Query) : List (List Text) :=
  if program.isSome then asked.map (arguments repository) else []

end ApiGuide.Git
