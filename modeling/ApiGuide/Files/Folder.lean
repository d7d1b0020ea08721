import ApiGuide.Files.Path
import ApiGuide.Text.Utf8

/-!
A tree of files and folders, and reading and writing in it by path.

The tree is the working folder and everything below it. Paths that lead out of it find nothing.
-/

namespace ApiGuide

/-- The entries of a folder, one after the other. -/
inductive Folder
  | empty
  | file (name : Text) (content : List UInt8) (rest : Folder)
  | folder (name : Text) (inside : Folder) (rest : Folder)

/-- What a path leads to. -/
inductive FileEntry
  | file (content : List UInt8)
  | folder (inside : Folder)

/-- Why a path cannot be read or written. -/
inductive PathFault
  | notFound
  | notADirectory
  | isADirectory
  | notText
  | nulInPath
  deriving DecidableEq

/-- The wording of a fault. -/
def PathFault.message : PathFault → Text
  | .notFound => "No such file or directory (os error 2)".toList
  | .notADirectory => "Not a directory (os error 20)".toList
  | .isADirectory => "Is a directory (os error 21)".toList
  | .notText => "stream did not contain valid UTF-8".toList
  | .nulInPath => "file name contained an unexpected NUL byte".toList

namespace FileEntry

/-- The entry is a file. -/
def isFile : FileEntry → Bool
  | file _ => true
  | folder _ => false

/-- The entry is a folder. -/
def isFolder : FileEntry → Bool
  | file _ => false
  | folder _ => true

end FileEntry

namespace Folder

open Text

/-- The entry of a name. -/
def get? (name : Text) : Folder → Option FileEntry
  | empty => none
  | file n content rest => if n = name then some (.file content) else rest.get? name
  | folder n inside rest => if n = name then some (.folder inside) else rest.get? name

/-- Gives a name an entry, in the place of the one it had. -/
def set (name : Text) (entry : FileEntry) : Folder → Folder
  | empty =>
    match entry with
    | .file content => file name content empty
    | .folder inside => folder name inside empty
  | file n content rest =>
    if n = name then
      match entry with
      | .file content' => file name content' rest
      | .folder inside => folder name inside rest
    else file n content (rest.set name entry)
  | folder n inside rest =>
    if n = name then
      match entry with
      | .file content => file name content rest
      | .folder inside' => folder name inside' rest
    else folder n inside (rest.set name entry)

/-- Removes the entry of a name. -/
def erase (name : Text) : Folder → Folder
  | empty => empty
  | file n content rest => if n = name then rest else file n content (rest.erase name)
  | folder n inside rest => if n = name then rest else folder n inside (rest.erase name)

/-- The folder of a name, or an empty one. -/
def subfolder (name : Text) (f : Folder) : Folder :=
  match f.get? name with
  | some (.folder inside) => inside
  | _ => empty

/-- Puts an entry below the names, with the folders on the way to it. -/
def put (entry : FileEntry) : List Text → Folder → Folder
  | [], f => f
  | [name], f => f.set name entry
  | name :: next :: rest, f => f.set name (.folder ((f.subfolder name).put entry (next :: rest)))

/-- Removes what is below the names. -/
def remove : List Text → Folder → Folder
  | [], f => f
  | [name], f => f.erase name
  | name :: next :: rest, f =>
    match f.get? name with
    | some (.folder inside) => f.set name (.folder (inside.remove (next :: rest)))
    | _ => f

/-- Where a walk along a path has come to: the names taken and the folders left behind, the nearest
    first, and what is there. -/
structure Place where
  trail : List (Text × Folder)
  entry : FileEntry

/-- The names from the working folder to a place. -/
def Place.names (p : Place) : List Text :=
  (p.trail.map (·.1)).reverse

/-- Goes on along the parts of a path. Every part needs a folder to go on from; an empty part and a
    dot stay there. -/
def walk (p : Place) : List Text → Except PathFault Place
  | [] => .ok p
  | part :: rest =>
    match p.entry with
    | .file _ => .error .notADirectory
    | .folder f =>
      if part = [] ∨ part = ['.'] then walk p rest
      else if part = ['.', '.'] then
        match p.trail with
        | [] => .error .notFound
        | (_, above) :: trail => walk ⟨trail, .folder above⟩ rest
      else
        match f.get? part with
        | none => .error .notFound
        | some entry => walk ⟨(part, f) :: p.trail, entry⟩ rest

/-- The place that a path leads to from the working folder. -/
def place (f : Folder) (path : Text) : Except PathFault Place :=
  if '\x00' ∈ path then .error .nulInPath
  else if path = [] ∨ path.head? = some '/' then .error .notFound
  else walk ⟨[], .folder f⟩ (splitOn '/' path)

/-- What a path leads to. -/
def lookup (f : Folder) (path : Text) : Except PathFault FileEntry :=
  (f.place path).map (·.entry)

/-- The path leads to a file. -/
def isFile (f : Folder) (path : Text) : Bool :=
  match f.lookup path with
  | .ok entry => entry.isFile
  | .error _ => false

/-- The path leads to a folder. -/
def isFolder (f : Folder) (path : Text) : Bool :=
  match f.lookup path with
  | .ok entry => entry.isFolder
  | .error _ => false

/-- The path leads to something. -/
def leadsTo (f : Folder) (path : Text) : Bool :=
  match f.lookup path with
  | .ok _ => true
  | .error _ => false

/-- The text of the file at a path. -/
def readText (f : Folder) (path : Text) : Except PathFault Text :=
  match f.lookup path with
  | .error fault => .error fault
  | .ok (.folder _) => .error .isADirectory
  | .ok (.file content) =>
    match ofUtf8? content with
    | some t => .ok t
    | none => .error .notText

/-- Writes a file. The folder it is in has to be there. A path that ends in a slash or in dots is
    that of a folder. -/
def write (f : Folder) (path : Text) (content : List UInt8) : Except PathFault Folder :=
  if '\x00' ∈ path then .error .nulInPath
  else if path = [] ∨ path.head? = some '/' then .error .notFound
  else
    let parts := splitOn '/' (dropEndWhile (· == '/') path)
    match walk ⟨[], .folder f⟩ parts.dropLast with
    | .error fault => .error fault
    | .ok p =>
      match p.entry with
      | .file _ => .error .notADirectory
      | .folder inside =>
        let name := parts.getLast?.getD []
        if path.getLast? = some '/' ∨ name = [] ∨ name = ['.'] ∨ name = ['.', '.'] then
          .error .isADirectory
        else
          match inside.get? name with
          | some (.folder _) => .error .isADirectory
          | _ => .ok (f.put (.file content) (p.names ++ [name]))

end Folder

end ApiGuide
