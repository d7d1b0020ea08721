import ApiGuide.Text.Basic

/-!
Paths with slashes between their components.
-/

namespace ApiGuide.Path

open Text

/-- Appends a relative path. An absolute path replaces what stands before it, and an empty one
    leaves a slash at the end. -/
def join (base path : Text) : Text :=
  if path.head? = some '/' then path
  else if base = [] ∨ base.getLast? = some '/' then base ++ path
  else base ++ '/' :: path

/-- The names between the slashes, without empty ones and without the dots that stay in a folder. -/
def names (path : Text) : List Text :=
  (splitOn '/' path).filter fun name => !name.isEmpty && name != ['.']

/-- A component as paths are ordered by: the root first, then a leading dot, the parent folder, and
    other names by code point. -/
inductive Component
  | root
  | here
  | parent
  | name (text : Text)
  deriving DecidableEq

/-- Components of different kinds are ordered by kind. -/
def Component.rank : Component → Nat
  | .root => 0
  | .here => 1
  | .parent => 2
  | .name _ => 3

/-- The text of a name. -/
def Component.text : Component → Text
  | .name text => text
  | _ => []

/-- The order of components. -/
def Component.order (a b : Component) : Ordering :=
  (compare a.rank b.rank).then (compare a.text b.text)

instance : Ord Component :=
  ⟨Component.order⟩

/-- The components of a path. A dot counts only at the front. -/
def components (path : Text) : List Component :=
  let start : List Component :=
    if path.head? = some '/' then [.root]
    else if (splitOn '/' path).head? = some ['.'] then [.here]
    else []
  start ++ (names path).map fun name => if name = "..".toList then .parent else .name name

/-- The order of paths: component by component. -/
def order (p q : Text) : Ordering :=
  compare (components p) (components q)

end ApiGuide.Path
