import ApiGuide.LoadError
import ApiGuide.LookupError
import ApiGuide.Render.Format

/-!
How the command fails and what it reports then.
-/

namespace ApiGuide.Command

open Text

/-- Why the command fails. -/
inductive Failure
  | settings (cause : LoadError)
  | unknownFormat (name : Text)
  | load (root : Text) (cause : LoadError)
  | lookup (cause : LookupError)
  | write (path : Text) (cause : PathFault)

namespace Failure

/-- What failed, in one message. -/
def headline : Failure → Text
  | .settings cause => cause.message
  | .unknownFormat name => Format.unknownMessage name
  | .load root _ => "failed to parse ".toList ++ root
  | .lookup cause => cause.message
  | .write path _ => "failed to write ".toList ++ path

/-- What stands behind it, the nearest cause first. -/
def causes : Failure → List Text
  | .settings cause => cause.cause?.toList
  | .unknownFormat _ => []
  | .load _ cause => cause.message :: cause.cause?.toList
  | .lookup _ => []
  | .write _ cause => [cause.message]

/-- A message with `first` in front of its first line and `others` in front of the other lines. -/
def indented (first others message : Text) : Text :=
  first ++ joinWith ('\n' :: others) (splitOn '\n' message)

/-- Causes on lines of their own. They are numbered if there are more than one. -/
def causeLines : List Text → List Text
  | [cause] => [indented "    ".toList "    ".toList cause]
  | causes =>
    causes.zipIdx.map fun (cause, n) =>
      indented ("    ".toList ++ ofNat n ++ ": ".toList) "       ".toList cause

/-- The report of a failure. -/
def report (f : Failure) : Text :=
  "Error: ".toList ++ f.headline
    ++ (if f.causes = [] then []
      else "\n\nCaused by:".toList ++ (causeLines f.causes).flatMap ('\n' :: ·))
    ++ ['\n']

end Failure

end ApiGuide.Command
