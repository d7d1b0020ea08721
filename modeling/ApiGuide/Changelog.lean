import ApiGuide.Calendar.Timestamp
import ApiGuide.Text.DecimalDigit
import ApiGuide.VersionControl

/-!
Releases from a changelog.

A release starts with a line that holds its version, underlined by a line of dashes. Its notes go on
to the next such heading, and the text before the first heading is dropped.
-/

namespace ApiGuide

open Text

/-- A release with its notes. `known` holds the date once it was looked for, also when there was
    none. -/
structure Release where
  version : Text
  notes : Text
  known : Option (Option Date) := none
  deriving DecidableEq

namespace Release

/-- The tag of the release in version control. -/
def tag (r : Release) : Text :=
  'v' :: r.version

/-- Where the sources of the release are shown, below the address of the repository. -/
def sourceUrl (repositoryUrl : Text) (r : Release) : Text :=
  dropEndWhile (· == '/') repositoryUrl ++ "/tree/".toList ++ r.tag

/-- The date as far as it is known. -/
def date (r : Release) : Option Date :=
  r.known.getD none

/-- What has to be asked to know the date: nothing once it was looked for. -/
def pending (r : Release) : List Query :=
  if r.known.isSome then [] else [.timestamp r.tag]

/-- Looks for the date, unless that was done before. -/
def resolve (control : VersionControl) (r : Release) : Release :=
  match r.known with
  | some _ => r
  | none => { r with known := some ((control.timestamp r.tag).bind Timestamp.parse?) }

end Release

namespace Changelog

/-- One or more decimal digits at the front of the text. -/
def digitRun? (t : Text) : Option (Text × Text) :=
  let digits := t.takeWhile isDecimalDigit
  if digits = [] then none else some (digits, t.dropWhile isDecimalDigit)

/-- Three runs of digits with dots between them, and what follows. -/
def version? (t : Text) : Option (Text × Text) :=
  match digitRun? t with
  | some (major, '.' :: t₁) =>
    match digitRun? t₁ with
    | some (minor, '.' :: t₂) =>
      (digitRun? t₂).map fun (patch, rest) => (major ++ '.' :: minor ++ '.' :: patch, rest)
    | _ => none
  | _ => none

/-- The version of a line that holds nothing else and ends in a line break. -/
def versionLine? (line : Text) : Option Text :=
  match version? line with
  | some (version, ['\n']) => some version
  | _ => none

/-- The line holds one or more dashes and ends in a line break. -/
def isUnderline (line : Text) : Bool :=
  match line with
  | '-' :: rest => rest.dropWhile (· == '-') == ['\n']
  | _ => false

/-- The lines before the first heading, and for each heading its version and the lines up to the
    next one. Empty lines right after a heading belong to it. -/
def sections : List Text → List Text × List (Text × List Text)
  | [] => ([], [])
  | [line] => ([line], [])
  | line :: next :: rest =>
    match versionLine? line, isUnderline next with
    | some version, true =>
      let (body, more) := sections rest
      ([], (version, body.dropWhile (· == ['\n'])) :: more)
    | _, _ =>
      let (body, more) := sections (next :: rest)
      (line :: body, more)

/-- The releases of a changelog, in the order of their headings. Carriage returns do not count. -/
def parse (t : Text) : List Release :=
  (sections (lines (t.filter (· != '\r')))).2.map fun (version, body) => ⟨version, body.flatten, none⟩

/-- The versions of the releases. -/
def versions (releases : List Release) : List Text :=
  releases.map (·.version)

/-- The first release of a version. -/
def find? (releases : List Release) (version : Text) : Option Release :=
  releases.find? (·.version = version)

/-- What has to be asked to know all dates. -/
def pending (releases : List Release) : List Query :=
  releases.flatMap (·.pending)

/-- Looks for all dates that were not looked for before. -/
def resolve (control : VersionControl) (releases : List Release) : List Release :=
  releases.map (·.resolve control)

/-- Looks for the date of the first release of a version. Gives that release, and the releases with
    what is known now; `none` if there is no such release. -/
def resolveVersion? (control : VersionControl) (version : Text) :
    List Release → Option (Release × List Release)
  | [] => none
  | r :: rest =>
    if r.version = version then some (r, r.resolve control :: rest)
    else (resolveVersion? control version rest).map fun (found, rest) => (found, r :: rest)

end Changelog

end ApiGuide
