import ApiGuide.Command.Run

/-!
The command line: the files below the working folder, standard output and standard error.

Version control is not asked here, so release dates and the revision are unknown.
-/

open ApiGuide

/-- The files and folders below a path, down to a depth. What cannot be read is left out, and links
    to folders are not followed. -/
def readFolder : (depth : Nat) → (path : String) → IO Folder
  | 0, _ => pure .empty
  | depth + 1, path => do
    let here ← IO.FS.realPath path
    let mut found := Folder.empty
    for entry in ← here.readDir do
      let name := entry.fileName
      let full := path ++ "/" ++ name
      try
        if ← entry.path.isDir then
          if (← IO.FS.realPath full) == here / name then
            found := .folder name.toList (← readFolder depth full) found
        else
          found := .file name.toList (← IO.FS.readBinFile full).toList found
      catch _ => pure ()
    return found

/-- Folders are read this deep. -/
def folderDepth : Nat :=
  256

def main (args : List String) : IO UInt32 := do
  let tree ← readFolder folderDepth "."
  let outcome := Command.run tree none (args.map String.toList)
  if let some (path, text) := outcome.written then
    IO.FS.writeFile (String.ofList path) (String.ofList text)
  (← IO.getStdout).putStr (String.ofList outcome.stdout)
  (← IO.getStderr).putStr (String.ofList outcome.stderr)
  return UInt32.ofNat outcome.exitCode
