import ApiGuide.Files.Folder
import ApiGuide.Files.Pattern

/-!
Finding the files of a folder tree that a path pattern fits.
-/

namespace ApiGuide.Search

open Text Pattern

/-- The path of a name in the folder at `path`. In the working folder it is the name alone. -/
def child (path name : Text) : Text :=
  if Path.components path = [.here] then name else Path.join path name

/-- The names of a folder. -/
def namesIn : Folder → List Text
  | .empty => []
  | .file name _ rest => name :: namesIn rest
  | .folder name _ rest => name :: namesIn rest

/-- Everything at any depth in the folder at `path`: its path and its name. -/
def below (path : Text) : Folder → List (Text × Text)
  | .empty => []
  | .file name _ rest => (child path name, name) :: below path rest
  | .folder name inside rest =>
    (child path name, name) :: below (child path name) inside ++ below path rest

/-- What `find` gives for the folder at a path, and nothing if there is no folder. -/
def inFolder {α : Type} (tree : Folder) (path : Text) (find : Folder → List α) : List α :=
  match tree.lookup path with
  | .ok (.folder inside) => find inside
  | _ => []

/-- The dots of a folder that the component fits. It has to start with a dot itself. -/
def dots (tokens : List Token) : List Text :=
  if tokens.head? = some (.char '.') then
    [['.'], ['.', '.']].filter (Pattern.fits tokens)
  else []

/-- The paths that the steps lead to from a path. After any number of folders the next step is
    taken on the names that are found in them. -/
def follow (tree : Folder) : List Step → Text → List Text
  | [], path => [path]
  | .exactly name :: rest, path =>
    let next := child path name
    let special := name = ['.'] ∨ name = ['.', '.']
    if special ∧ tree.isFolder path ∨ ¬special ∧ tree.leadsTo next then follow tree rest next else []
  | .fitting tokens :: rest, path =>
    inFolder tree path fun inside =>
      ((namesIn inside).filter (Pattern.fits tokens)).flatMap (fun n => follow tree rest (child path n))
        ++ (dots tokens).flatMap (fun n => follow tree rest (Path.join path n))
  | [.anyDepth], path =>
    inFolder tree path fun inside => ((below path inside).map (·.1)).filter tree.isFolder
  | .anyDepth :: next :: rest, path =>
    match next with
    | .anyDepth => follow tree (next :: rest) path
    | _ =>
      inFolder tree path fun inside =>
        ((below path inside).filter (next.fits ·.2)).flatMap (fun found => follow tree rest found.1)

/-- The paths without those that are equal, component by component, to the last one kept; `last` is
    kept already. -/
def distinctAfter (last : Text) : List Text → List Text
  | [] => []
  | p :: rest =>
    if Path.order last p = .eq then distinctAfter last rest else p :: distinctAfter p rest

/-- Paths in ascending order, each of them once. -/
def sorted (paths : List Text) : List Text :=
  match paths.mergeSort fun p q => (Path.order p q).isLE with
  | [] => []
  | p :: rest => p :: distinctAfter p rest

/-- The files that a pattern fits. A slash at the end of the pattern asks for folders, and there is
    none among files. -/
def files (tree : Folder) (pattern : Text) : Except Pattern.Error (List Text) :=
  match steps pattern with
  | .error e => .error e
  | .ok found =>
    if pattern.getLast? = some '/' then .ok []
    else .ok ((follow tree found ['.']).filter tree.isFile)

end ApiGuide.Search
