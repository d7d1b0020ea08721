import ApiGuide.Text.Basic

/-!
What is documented: classes, their functions and the parameters of those.
-/

namespace ApiGuide

/-- How far a documented item is meant to be used. -/
inductive Visibility
  /-- For everyone, the keyword is `@public`. -/
  | stable
  /-- May still change, the keyword is `@protected`. -/
  | experimental
  /-- Not for use from outside, the keyword is `@private`. -/
  | internal
  deriving DecidableEq

namespace Visibility

/-- The keyword of a visibility, without its at sign. -/
def keyword : Visibility → Text
  | .stable => "public".toList
  | .experimental => "protected".toList
  | .internal => "private".toList

/-- All visibilities. No keyword is the start of another. -/
def all : List Visibility :=
  [.stable, .experimental, .internal]

/-- The visibility of a keyword. -/
def ofKeyword? (word : Text) : Option Visibility :=
  all.find? (·.keyword = word)

/-- What is said of a word that is no visibility keyword. -/
def unknownMessage (word : Text) : Text :=
  "unknown visibility: ".toList ++ word

end Visibility

/-- The name part of a documented parameter: its name, whether it may be left out, and what stands
    for it then. -/
structure ParamName where
  name : Text
  optional : Bool
  default : Option Text
  deriving DecidableEq

/-- A documented parameter. -/
structure ParamDoc where
  name : Text
  optional : Bool
  default : Option Text
  types : List Text
  prose : Text
  deriving DecidableEq

/-- A documented function, selector or event. `owner` is the name of its class, and is empty as
    long as there is none. -/
structure FunctionDoc where
  name : Text
  visibility : Visibility := .stable
  params : List ParamDoc := []
  ujs : Bool := false
  prose : Text := []
  owner : Text := []
  deriving DecidableEq

/-- A documented class with its functions in the order of their documentation. -/
structure ClassDoc where
  name : Text
  visibility : Visibility := .stable
  functions : List FunctionDoc := []
  prose : Text := []
  deriving DecidableEq

/-- The first function of that name. -/
def ClassDoc.function? (c : ClassDoc) (name : Text) : Option FunctionDoc :=
  c.functions.find? (·.name = name)

end ApiGuide
