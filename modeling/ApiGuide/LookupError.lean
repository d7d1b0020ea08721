import ApiGuide.Text.Quoted

/-!
What can be looked up in vain.
-/

namespace ApiGuide

/-- A name that nothing has. -/
inductive LookupError
  | unknownClass (name : Text)
  | unknownGuideId (id : Text)
  deriving DecidableEq

/-- The wording of a lookup error. -/
def LookupError.message : LookupError → Text
  | .unknownClass name => "no such class: ".toList ++ name
  | .unknownGuideId id => "no features for guide id: ".toList ++ Text.quoted id

end ApiGuide
