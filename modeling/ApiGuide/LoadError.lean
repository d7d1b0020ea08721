import ApiGuide.Files.Folder
import ApiGuide.Files.Pattern
import ApiGuide.ParseError

/-!
Why a repository cannot be loaded.
-/

namespace ApiGuide

/-- What went wrong while loading, and where. -/
inductive LoadError
  /-- The root is no folder. -/
  | inputNotFound (path : Text)
  /-- A block of a source file was refused. -/
  | source (path : Text) (cause : ParseError)
  /-- The version file holds no version. -/
  | invalidVersion (path : Text)
  /-- A settings file was refused. -/
  | invalidSettings (path : Text)
  /-- An extension makes no pattern. -/
  | pattern (cause : Pattern.Error)
  /-- A file cannot be read. -/
  | unreadable (path : Text) (cause : PathFault)

namespace LoadError

/-- What stands behind an error, if it has a cause of its own. -/
def cause? : LoadError → Option Text
  | .source _ cause => some cause.message
  | .invalidSettings _ => some "TOML parse error".toList
  | .pattern cause => some cause.message
  | .unreadable _ cause => some cause.message
  | .inputNotFound _ => none
  | .invalidVersion _ => none

/-- The wording of a load error. A cause is part of it. -/
def message (e : LoadError) : Text :=
  let cause := e.cause?.getD []
  match e with
  | .inputNotFound path => "input path not found: ".toList ++ path
  | .source path _ => path ++ ": ".toList ++ cause
  | .invalidVersion path => "no semantic version found in ".toList ++ path
  | .invalidSettings path => "invalid config ".toList ++ path ++ ": ".toList ++ cause
  | .pattern _ => "invalid source pattern: ".toList ++ cause
  | .unreadable path _ => "failed to read ".toList ++ path ++ ": ".toList ++ cause

end LoadError

namespace Folder

/-- The text of a file, or why it cannot be had. -/
def load (tree : Folder) (path : Text) : Except LoadError Text :=
  (tree.readText path).mapError (.unreadable path)

end Folder

end ApiGuide
