import ApiGuide.LoadError
import ApiGuide.Settings

/-!
Settings from files.
-/

namespace ApiGuide.Settings

/-- Settings from a text. `path` names the text in a refusal. -/
def ofText (text path : Text) : Except LoadError Settings :=
  match parse? text with
  | some settings => .ok settings
  | none => .error (.invalidSettings path)

/-- Settings from the file at a path. -/
def ofFile (tree : Folder) (path : Text) : Except LoadError Settings :=
  match tree.load path with
  | .error e => .error e
  | .ok text => ofText text path

/-- Settings from the settings file in a root. Without one everything is as if not given. -/
def discover (tree : Folder) (root : Text) : Except LoadError Settings :=
  let path := Path.join root fileName
  if tree.isFile path then ofFile tree path else .ok {}

end ApiGuide.Settings
