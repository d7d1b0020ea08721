import Mathlib.Data.List.Basic

/-!
Lists in the order of a comparison.
-/

namespace ApiGuide

variable {α : Type} {cmp : α → α → Ordering}

/-- Every member of the list comes strictly before those after it. -/
def Ascending (cmp : α → α → Ordering) (l : List α) : Prop :=
  l.Pairwise fun a b => cmp a b = .lt

theorem pairwise_isLE_mergeSort [Std.TransCmp cmp] (l : List α) :
    (l.mergeSort fun a b => (cmp a b).isLE).Pairwise fun a b => (cmp a b).isLE = true := by
  apply List.pairwise_mergeSort
  · intro a b c hab hbc
    exact Std.TransCmp.isLE_trans hab hbc
  · intro a b
    have hswap : cmp a b = (cmp b a).swap := Std.OrientedCmp.eq_swap
    rw [hswap]
    cases cmp b a <;> rfl

theorem Ascending.nodup [Std.TransCmp cmp] {l : List α} (h : Ascending cmp l) : l.Nodup := by
  apply h.imp
  rintro a _ hlt rfl
  have hself : cmp a a = .eq := Std.ReflCmp.compare_self
  rw [hself] at hlt
  cases hlt

/-- A list in strict order is determined by its members. -/
theorem Ascending.ext [Std.TransCmp cmp] {l l' : List α} (h : Ascending cmp l) (h' : Ascending cmp l')
    (hmem : ∀ a, a ∈ l ↔ a ∈ l') : l = l' := by
  have hperm : l.Perm l' := (List.perm_ext_iff_of_nodup h.nodup h'.nodup).2 hmem
  refine hperm.eq_of_pairwise ?_ h h'
  intro a b _ _ hab hba
  have hswap : cmp a b = (cmp b a).swap := Std.OrientedCmp.eq_swap
  rw [hab, hba] at hswap
  cases hswap

end ApiGuide
