import ApiGuide.Changelog
import ApiGuide.Files.Search
import ApiGuide.Index
import ApiGuide.LoadError
import ApiGuide.Pass
import ApiGuide.SemVer
import ApiGuide.Settings

/-!
A documented library in a tree of files: its classes, releases and version.
-/

namespace ApiGuide

open Text

/-- A repository with what was read from it. -/
structure Repository where
  root : Text
  settings : Settings
  classes : List ClassDoc := []
  releases : List Release := []
  version : Option SemVer := none

namespace Repository

/-- The pattern of the sources with an extension. -/
def sourcePattern (root : Text) (settings : Settings) (extension : Text) : Text :=
  Pattern.escape (Path.join root settings.sourceDir) ++ "/**/*.".toList ++ extension

/-- The documented source files, in ascending order. -/
def sourcePaths (tree : Folder) (root : Text) (settings : Settings) :
    Except LoadError (List Text) :=
  if tree.isFolder root then
    match settings.extensions.mapM (fun ext => Search.files tree (sourcePattern root settings ext)) with
    | .error e => .error (.pattern e)
    | .ok found => .ok (Search.sorted found.flatten)
  else .error (.inputNotFound root)

/-- Reads source files one after the other, up to the first that cannot be read or is refused. -/
def readSources (tree : Folder) (settings : Settings) (pass : Pass) :
    List Text → Except LoadError Pass
  | [] => .ok pass
  | path :: rest =>
    match tree.load path with
    | .error e => .error e
    | .ok source =>
      let pass := if settings.resetPerFile then pass.leaveClass else pass
      match pass.readSource source with
      | (.error e, _) => .error (.source path e)
      | (.ok _, pass) => readSources tree settings pass rest

/-- The classes of the sources. -/
def readClasses (tree : Folder) (root : Text) (settings : Settings) :
    Except LoadError (List ClassDoc) :=
  match sourcePaths tree root settings with
  | .error e => .error e
  | .ok paths => (readSources tree settings (.start settings.strict) paths).map (·.classes)

/-- The releases of the changelog. There is none without a changelog. -/
def readReleases (tree : Folder) (root : Text) (settings : Settings) :
    Except LoadError (List Release) :=
  let path := Path.join root settings.changelog
  if tree.isFile path then (tree.load path).map Changelog.parse else .ok []

/-- The version in the version file. There is none without the file. -/
def readVersion (tree : Folder) (root : Text) (settings : Settings) :
    Except LoadError (Option SemVer) :=
  let path := Path.join root settings.versionFile
  if tree.isFile path then
    match tree.load path with
    | .error e => .error e
    | .ok text =>
      match SemVer.find? text with
      | some version => .ok (some version)
      | none => .error (.invalidVersion path)
  else .ok none

/-- Forgets what was read and reads everything again. After a failure, what was read before it
    stays. -/
def reload (tree : Folder) (r : Repository) : Except LoadError Unit × Repository :=
  let blank : Repository := { root := r.root, settings := r.settings }
  match readClasses tree r.root r.settings with
  | .error e => (.error e, blank)
  | .ok classes =>
    match readReleases tree r.root r.settings with
    | .error e => (.error e, { blank with classes })
    | .ok releases =>
      match readVersion tree r.root r.settings with
      | .error e => (.error e, { blank with classes, releases })
      | .ok version => (.ok (), { blank with classes, releases, version })

/-- Reads the repository at a root. -/
def load (tree : Folder) (root : Text) (settings : Settings) : Except LoadError Repository :=
  match reload tree { root, settings } with
  | (.ok (), r) => .ok r
  | (.error e, _) => .error e

/-- The first class of a name. -/
def classNamed (r : Repository) (name : Text) : Except LookupError ClassDoc :=
  match r.classes.find? (·.name = name) with
  | some c => .ok c
  | none => .error (.unknownClass name)

/-- The promoted classes, in the order of the settings. -/
def promoted (r : Repository) : Except LookupError (List ClassDoc) :=
  r.settings.promoted.mapM r.classNamed

/-- Every class followed by its functions. -/
def features (r : Repository) : List Feature :=
  r.classes.flatMap (·.features)

/-- The features by guide page. -/
def index (r : Repository) : Index :=
  Index.ofList r.features

/-- The tag of the version. -/
def versionTag (r : Repository) : Option Text :=
  r.version.map (·.tag)

/-- Looks for all release dates that were not looked for before. -/
def resolveDates (control : VersionControl) (r : Repository) : Repository :=
  { r with releases := Changelog.resolve control r.releases }

/-- The repository in one line. -/
def describe (r : Repository) : Text :=
  "Repository \x7b root: ".toList ++ quotedPath r.root ++ ", klass_names: [".toList
    ++ joinWith ", ".toList (r.classes.map fun c => quoted c.name) ++ "] \x7d".toList

end Repository

end ApiGuide
