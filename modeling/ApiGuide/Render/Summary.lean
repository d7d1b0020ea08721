import ApiGuide.Repository

/-!
The model as an overview in plain text, line by line.
-/

namespace ApiGuide.Summary

open Text

/-- The version and its tag. -/
def versionLine (r : Repository) : Text :=
  match r.version with
  | some v => "version ".toList ++ v.toText ++ " (".toList ++ v.tag ++ ")".toList
  | none => "version unknown".toList

/-- The revision, if it is known. -/
def revisionLines : Option Text → List Text
  | some revision => ["revision ".toList ++ revision]
  | none => []

/-- A section has an empty line before and after its heading. -/
def sectionLines (heading : Text) (items : List Text) : List Text :=
  [] :: ("## ".toList ++ heading) :: [] :: items

/-- A promoted class. -/
def promotedLine (c : ClassDoc) : Text :=
  "* ".toList ++ c.name

/-- A class with the number of its functions, and its visibility if that is not public. -/
def classLine (c : ClassDoc) : Text :=
  let n := c.functions.length
  "* ".toList ++ c.name ++ " (".toList ++ ofNat n
    ++ (if n = 1 then " feature)".toList else " features)".toList)
    ++ (if c.visibility = .stable then [] else " [".toList ++ c.visibility.keyword ++ "]".toList)

/-- A text filled up with blanks to a width. -/
def padRight (width : Nat) (t : Text) : Text :=
  t ++ List.replicate (width - t.length) ' '

/-- A guide page with its kind, name and path, and the number of its features if there are more
    than one. -/
def pageLine (p : Page) : Text :=
  let f := p.representative
  let n := p.features.length
  "* ".toList ++ padRight 5 f.kind.short ++ ' ' :: f.name ++ ' ' :: f.guidePath
    ++ (if n > 1 then " (x".toList ++ ofNat n ++ ")".toList else [])

/-- A release with its date, if it is known. -/
def releaseLine (r : Release) : Text :=
  "* ".toList ++ r.version
    ++ (match r.date with
      | some date => " (".toList ++ date.toText ++ ")".toList
      | none => [])

/-- The lines of a summary. Sections of promoted classes and of releases are there only if they
    have an item. -/
def summaryLines (r : Repository) (revision : Option Text) (promoted : List ClassDoc) : List Text :=
  [versionLine r] ++ revisionLines revision
    ++ (if promoted = [] then [] else sectionLines "Promoted".toList (promoted.map promotedLine))
    ++ sectionLines "Classes".toList (r.classes.map classLine)
    ++ sectionLines "Guide".toList (r.index.entries.map pageLine)
    ++ (if r.releases = [] then [] else sectionLines "Releases".toList (r.releases.map releaseLine))

/-- The summary of a repository. Every line ends in a line break. -/
def text (r : Repository) (revision : Option Text) (promoted : List ClassDoc) : Text :=
  (summaryLines r revision promoted).flatMap (· ++ ['\n'])

end ApiGuide.Summary
