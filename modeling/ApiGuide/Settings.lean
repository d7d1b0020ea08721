import ApiGuide.Toml.Document

/-!
Settings of a repository: where its sources, changelog and version are, and how strict a pass is.
-/

namespace ApiGuide

/-- Settings, with what holds for a setting that is not given. -/
structure Settings where
  /-- The folder below the root that holds documented sources. -/
  sourceDir : Text := "lib".toList
  /-- The extensions of documented sources, without the dot. -/
  extensions : List Text := ["coffee".toList, "coffee.erb".toList]
  /-- The changelog, below the root. -/
  changelog : Text := "CHANGELOG.md".toList
  /-- The file that tells the version, below the root. -/
  versionFile : Text := "lib/unpoly/rails/version.rb".toList
  /-- The address that releases are shown below. -/
  repositoryUrl : Text := "https://github.com/unpoly/unpoly".toList
  /-- Names of the classes that a guide shows first. -/
  promoted : List Text := []
  /-- Refuse blocks that would be skipped. -/
  strict : Bool := false
  /-- A function needs a class in its own file. -/
  resetPerFile : Bool := false
  deriving DecidableEq

/-- One of the settings. -/
inductive Setting
  | sourceDir
  | extensions
  | changelog
  | versionFile
  | repositoryUrl
  | promoted
  | strict
  | resetPerFile
  deriving DecidableEq

namespace Setting

/-- All settings. -/
def all : List Setting :=
  [.sourceDir, .extensions, .changelog, .versionFile, .repositoryUrl, .promoted, .strict,
    .resetPerFile]

/-- The key of a setting in a settings file. -/
def key : Setting → Text
  | .sourceDir => "source_dir".toList
  | .extensions => "extensions".toList
  | .changelog => "changelog".toList
  | .versionFile => "version_file".toList
  | .repositoryUrl => "repository_url".toList
  | .promoted => "promoted_klasses".toList
  | .strict => "strict".toList
  | .resetPerFile => "reset_active_class_per_file".toList

/-- The setting of a key. -/
def ofKey? (key : Text) : Option Setting :=
  all.find? (·.key = key)

end Setting

namespace Settings

/-- The name of a settings file in the root of a repository. -/
def fileName : Text :=
  "guidedoc.toml".toList

/-- Gives a setting a value of its own type. -/
def set? (s : Settings) : Setting → Toml.Value → Option Settings
  | .sourceDir, .string v => some { s with sourceDir := v }
  | .extensions, .strings v => some { s with extensions := v }
  | .changelog, .string v => some { s with changelog := v }
  | .versionFile, .string v => some { s with versionFile := v }
  | .repositoryUrl, .string v => some { s with repositoryUrl := v }
  | .promoted, .strings v => some { s with promoted := v }
  | .strict, .boolean v => some { s with strict := v }
  | .resetPerFile, .boolean v => some { s with resetPerFile := v }
  | _, _ => none

/-- Gives settings the values of their keys. A key that is none of a setting, or is one of `seen`
    or comes twice, is refused. -/
def setAll? (s : Settings) (seen : List Text) : List (Text × Toml.Value) → Option Settings
  | [] => some s
  | (key, value) :: rest =>
    if key ∈ seen then none
    else
      match Setting.ofKey? key with
      | none => none
      | some setting =>
        match s.set? setting value with
        | none => none
        | some s' => s'.setAll? (key :: seen) rest

/-- Settings from the text of a settings file. -/
def parse? (t : Text) : Option Settings :=
  match Toml.document? t with
  | none => none
  | some entries => setAll? {} [] entries

end Settings

end ApiGuide
