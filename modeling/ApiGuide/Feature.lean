import ApiGuide.Model
import ApiGuide.Slug
import ApiGuide.Text.Word

/-!
Features: what a guide lists, links and sorts. Classes and functions are features.
-/

namespace ApiGuide

open Text

/-- What a feature is to a reader of the guide. -/
inductive FeatureKind
  | classKind
  | functionKind
  | selectorKind
  | eventKind
  deriving DecidableEq

namespace FeatureKind

/-- The kind in full. -/
def label : FeatureKind → Text
  | .classKind => "class".toList
  | .functionKind => "function".toList
  | .selectorKind => "selector".toList
  | .eventKind => "event".toList

/-- The kind in a narrow column. -/
def short : FeatureKind → Text
  | .classKind => "cls".toList
  | .functionKind => "fn".toList
  | .selectorKind => "sel".toList
  | .eventKind => "ev".toList

end FeatureKind

/-- A documented class or a documented function. -/
inductive Feature
  | ofClass (doc : ClassDoc)
  | ofFunction (doc : FunctionDoc)
  deriving DecidableEq

namespace Feature

/-- The name that the feature is documented by. -/
def name : Feature → Text
  | ofClass doc => doc.name
  | ofFunction doc => doc.name

/-- The visibility that the feature is documented with. -/
def visibility : Feature → Visibility
  | ofClass doc => doc.visibility
  | ofFunction doc => doc.visibility

/-- The text of the feature's documentation. -/
def prose : Feature → Text
  | ofClass doc => doc.prose
  | ofFunction doc => doc.prose

/-- A function with the ujs flag or a name like a selector is a selector; of the others, one with a
    colon in its name is an event. -/
def kind : Feature → FeatureKind
  | ofClass _ => .classKind
  | ofFunction doc =>
    if doc.ujs || doc.name.contains '[' || doc.name.head? == some '.' then .selectorKind
    else if doc.name.contains ':' then .eventKind
    else .functionKind

/-- The id of the guide page that shows the feature. Features may share a page. -/
def guideId (f : Feature) : Text :=
  Slug.ofName f.name

/-- The path of the guide page. -/
def guidePath (f : Feature) : Text :=
  '/' :: f.guideId

/-- What a search looks into: the name in lower case and then its words. -/
def searchText (f : Feature) : Text :=
  lower f.name ++ ' ' :: joinWith [' '] (words (lower f.name))

/-- The name as it sorts: from its first letter or number on, in lower case. -/
def sortName (f : Feature) : Text :=
  lower (f.name.dropWhile (!isAlphanumeric ·))

/-- The order of features: by sort name, then by exact name, both by code point. -/
def order (f g : Feature) : Ordering :=
  (compare f.sortName g.sortName).then (compare f.name g.name)

/-- The feature is for everyone. -/
def isStable (f : Feature) : Bool :=
  f.visibility = .stable

/-- The feature may still change. -/
def isExperimental (f : Feature) : Bool :=
  f.visibility = .experimental

/-- The feature is not for use from outside. -/
def isInternal (f : Feature) : Bool :=
  f.visibility = .internal

end Feature

/-- A class and then its functions. -/
def ClassDoc.features (c : ClassDoc) : List Feature :=
  .ofClass c :: c.functions.map .ofFunction

end ApiGuide
