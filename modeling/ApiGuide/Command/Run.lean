import ApiGuide.Command.Arguments
import ApiGuide.Command.Failure
import ApiGuide.Git
import ApiGuide.Settings.File

/-!
The command: reads settings and a repository, renders it, and writes the text to one place.
-/

namespace ApiGuide.Command

open Text

/-- What a run of the command leaves behind: its exit code, what it writes to the two streams, the
    files as they are now, the file that was written with its text, and the runs of git. -/
structure Outcome where
  exitCode : Nat
  stdout : Text := []
  stderr : Text := []
  tree : Folder
  written : Option (Text × Text) := none
  gitCalls : List (List Text) := []

/-- The settings of a run: those of the file that is given, or of the file in the root, with what
    the arguments override. -/
def loadSettings (tree : Folder) (root : Text) (a : Arguments) : Except LoadError Settings :=
  let found :=
    match a.config with
    | some path => Settings.ofFile tree path
    | none => Settings.discover tree root
  found.map fun s =>
    { s with
      strict := s.strict || a.strict
      promoted := if a.promoted = [] then s.promoted else a.promoted }

/-- The rendering of a repository, or why there is none before it. -/
def prepare (tree : Folder) (git : Git.Program) (a : Arguments) : Except Failure Rendering :=
  let root := a.root.getD ".".toList
  match loadSettings tree root a with
  | .error e => .error (.settings e)
  | .ok settings =>
    let name := a.format.getD "summary".toList
    match Format.ofName? name with
    | none => .error (.unknownFormat name)
    | some format =>
      match Repository.load tree root settings with
      | .error e => .error (.load root e)
      | .ok r => .ok (format.render (Git.control git root) r)

/-- The outcome of a failure. No file is touched. -/
def failed (tree : Folder) (gitCalls : List (List Text)) (f : Failure) : Outcome :=
  { exitCode := 1, stderr := f.report, tree, gitCalls }

/-- Runs the command with arguments that were understood. -/
def runWith (tree : Folder) (git : Git.Program) (a : Arguments) : Outcome :=
  match prepare tree git a with
  | .error f => failed tree [] f
  | .ok rendering =>
    let gitCalls := Git.calls git (a.root.getD ".".toList) rendering.asked
    match rendering.result with
    | .error e => failed tree gitCalls (.lookup e)
    | .ok text =>
      match a.output with
      | none => { exitCode := 0, stdout := text, tree, gitCalls }
      | some path =>
        match tree.write path (utf8 text) with
        | .error fault => failed tree gitCalls (.write path fault)
        | .ok tree => { exitCode := 0, tree, written := some (path, text), gitCalls }

/-- The name and version of the command. -/
def versionText : Text :=
  "guidedoc 0.1.0\n".toList

/-- How the command is called. -/
def usageText : Text :=
  "Usage: guidedoc [OPTIONS] [ROOT]\n".toList

/-- The help of the command. -/
def helpText : Text :=
  "Extract API guide documentation from doc-comment blocks\n\n".toList ++ usageText
    ++ ("\nArguments:\n"
      ++ "  [ROOT]  Repository root [default: .]\n"
      ++ "\nOptions:\n"
      ++ "  -c, --config <CONFIG>      Config file (default: guidedoc.toml in the repository root)\n"
      ++ "  -f, --format <FORMAT>      Output format: summary (default) or json [default: summary]\n"
      ++ "  -o, --output <OUTPUT>      Write output to this file instead of stdout\n"
      ++ "      --strict               Fail on unrecognized blocks and functions documented before any class\n"
      ++ "      --promoted <PROMOTED>  Promoted class name. Can be given multiple times; replaces the configured list\n"
      ++ "  -v, --verbose              Enable debug logging\n"
      ++ "  -h, --help                 Print help\n"
      ++ "  -V, --version              Print version\n").toList

/-- Runs the command in a tree of files, with a git program. -/
def run (tree : Folder) (git : Git.Program) (args : List Text) : Outcome :=
  match parse args with
  | .help => { exitCode := 0, stdout := helpText, tree }
  | .version => { exitCode := 0, stdout := versionText, tree }
  | .refused =>
    { exitCode := 2, stderr := "error: the arguments are not understood\n\n".toList ++ usageText, tree }
  | .run a => runWith tree git a

end ApiGuide.Command
