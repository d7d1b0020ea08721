import ApiGuide.Feature
import ApiGuide.LookupError

/-!
Features by guide page.

All features with one guide id are shown together on one page, which takes its name and kind from
the first of them.
-/

namespace ApiGuide

/-- A guide page: the features that share its id. The first represents the page. -/
structure Page where
  guideId : Text
  representative : Feature
  others : List Feature

namespace Page

/-- All features of the page, in the order in which they were met. -/
def features (p : Page) : List Feature :=
  p.representative :: p.others

/-- Pages are ordered by their representatives. -/
def order (p q : Page) : Ordering :=
  p.representative.order q.representative

instance : Ord Page :=
  ⟨order⟩

instance : LT Page :=
  ltOfOrd

instance : LE Page :=
  leOfOrd

/-- Pages are the same in a list of pages when neither comes before the other, whatever else they
    show. -/
instance : BEq Page :=
  ⟨fun p q => p.order q == .eq⟩

/-- The page in one line. -/
def describe (p : Page) : Text :=
  "Entry \x7b guide_id: ".toList ++ Text.quoted p.guideId ++ ", features: ".toList
    ++ Text.ofNat p.features.length ++ " \x7d".toList

end Page

/-- Puts a feature on its page, or on a new last page if there is none. -/
def placeOnPage (id : Text) (f : Feature) : List Page → List Page
  | [] => [⟨id, f, []⟩]
  | p :: rest =>
    if p.guideId = id then { p with others := p.others ++ [f] } :: rest
    else p :: placeOnPage id f rest

/-- Features with the pages they are shown on. Pages stand in the order in which their ids were met
    first. -/
structure Index where
  features : List Feature
  pages : List Page

namespace Index

/-- The index of a list of features. -/
def ofList (features : List Feature) : Index :=
  ⟨features, features.foldl (fun pages f => placeOnPage f.guideId f pages) []⟩

/-- The guide ids, in the order in which they were met first. -/
def guideIds (index : Index) : List Text :=
  index.pages.map (·.guideId)

/-- The pages as the guide lists them. -/
def entries (index : Index) : List Page :=
  index.pages.mergeSort fun p q => (p.order q).isLE

/-- The features of a page. -/
def find (index : Index) (id : Text) : Except LookupError (List Feature) :=
  match index.pages.find? (·.guideId = id) with
  | some p => .ok p.features
  | none => .error (.unknownGuideId id)

end Index

end ApiGuide
