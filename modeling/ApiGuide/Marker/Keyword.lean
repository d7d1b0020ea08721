import ApiGuide.Marker.Cut
import ApiGuide.Model
import ApiGuide.Text.Word

/-!
Markers that are a keyword and nothing else: the visibility of an item and its ujs flag.
-/

namespace ApiGuide.Marker

open Text

/-- What follows a keyword that is not the start of a longer word. -/
def keyword? (word t : Text) : Option Text :=
  match after? word t with
  | some rest => if atWordEnd rest then some rest else none
  | none => none

theorem keyword?_eq_some_iff {word t rest : Text} :
    keyword? word t = some rest ↔ t = word ++ rest ∧ atWordEnd rest = true := by
  rw [keyword?]
  constructor
  · intro h
    split at h
    · next after hafter =>
      split at h
      · next hend =>
        cases h
        exact ⟨eq_append_of_after? hafter, hend⟩
      · cases h
    · cases h
  · rintro ⟨rfl, hend⟩
    rw [after?_append]
    exact if_pos hend

/-- The visibility whose keyword stands at the front of the text. -/
def visibilityHere? (t : Text) : Option (Visibility × Text) :=
  Visibility.all.findSome? fun v => (keyword? ('@' :: v.keyword) t).map fun rest => (v, rest)

/-- The leftmost visibility keyword and the text without it. -/
def visibility? (t : Text) : Option (Visibility × Text) :=
  cut? visibilityHere? t

/-- The visibility of a text, stable when it has no keyword, and the text without the keyword. -/
def takeVisibility (t : Text) : Visibility × Text :=
  (visibility? t).getD (.stable, t)

/-- The ujs keyword stands at the front of the text. -/
def ujsHere? (t : Text) : Option (Bool × Text) :=
  (keyword? "@ujs".toList t).map fun rest => (true, rest)

/-- Whether the text has the ujs keyword, and the text without the leftmost one. -/
def takeUjs (t : Text) : Bool × Text :=
  (cut? ujsHere? t).getD (false, t)

end ApiGuide.Marker
