import ApiGuide.Text.Lowercase

/-!
Slugs: the ids of guide pages.

A slug holds lower case ASCII letters, digits, dots, underscores and single hyphens, and no hyphen
on either end.
-/

namespace ApiGuide.Slug

open Text

/-- A character that a slug keeps. -/
def isKept (c : Char) : Bool :=
  c.isAlphanum || c == '.' || c == '-' || c == '_'

/-- A character of a slug: what cannot be kept becomes a hyphen. -/
def slugChar (c : Char) : Char :=
  if isKept c then c else '-'

/-- Turns every run of hyphens into one hyphen. -/
def collapse : Text → Text
  | [] => []
  | c :: t => if c = '-' ∧ t.head? = some '-' then collapse t else c :: collapse t

/-- Drops the hyphens on both ends. -/
def trimHyphens (t : Text) : Text :=
  dropEndWhile (· == '-') (t.dropWhile (· == '-'))

/-- The slug of a name. -/
def ofName (name : Text) : Text :=
  trimHyphens (collapse ((lower name).map slugChar))

end ApiGuide.Slug
