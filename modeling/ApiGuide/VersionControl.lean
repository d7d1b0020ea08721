import ApiGuide.Text.Basic

/-!
What version control is asked and what it answers.
-/

namespace ApiGuide

/-- A question to version control. -/
inductive Query
  /-- The revision that is checked out. -/
  | revision
  /-- The time of the commit that a tag is on. -/
  | timestamp (tag : Text)
  deriving DecidableEq

/-- The answers of version control. A question that cannot be answered has none. -/
structure VersionControl where
  revision : Option Text
  timestamp : (tag : Text) → Option Text

namespace VersionControl

/-- Answers from a table of timestamps by tag. The first row of a tag counts. -/
def ofTable (revision : Option Text) (timestamps : List (Text × Text)) : VersionControl :=
  ⟨revision, fun tag => timestamps.lookup tag⟩

/-- Nothing is answered. -/
def unavailable : VersionControl :=
  ⟨none, fun _ => none⟩

end VersionControl

end ApiGuide
