import ApiGuide.Proofs.Index.Entries

/-!
The order of features is a total order of their names, and the order and equality of pages are those of
the names that represent them.

The sort name forgets leading signs and upper case, so it alone cannot tell names apart. The exact name
breaks its ties.
-/

namespace ApiGuide

/-- A comparison puts things in a total order by their names: the other way round it is turned over, it
    is transitive, and only things of exactly the same name come at the same place. -/
structure OrdersByName {α : Type} (cmp : α → α → Ordering) (name : α → Text) : Prop where
  swap : ∀ a b, cmp b a = (cmp a b).swap
  lt_trans : ∀ a b c, cmp a b = .lt → cmp b c = .lt → cmp a c = .lt
  eq_iff : ∀ a b, cmp a b = .eq ↔ name a = name b

theorem OrdersByName.of_transCmp {α : Type} {cmp : α → α → Ordering} [Std.TransCmp cmp] {name : α → Text}
    (h : ∀ a b, cmp a b = .eq ↔ name a = name b) : OrdersByName cmp name where
  swap _ _ := Std.OrientedCmp.eq_swap
  lt_trans _ _ _ := Std.TransCmp.lt_trans
  eq_iff := h

/-- Things that are compared by a part of theirs are ordered by the name of that part. -/
theorem OrdersByName.comap {α β : Type} {cmp : α → α → Ordering} {name : α → Text} (h : OrdersByName cmp name)
    (part : β → α) : OrdersByName (fun a b => cmp (part a) (part b)) fun a => name (part a) where
  swap a b := h.swap (part a) (part b)
  lt_trans a b c := h.lt_trans (part a) (part b) (part c)
  eq_iff a b := h.eq_iff (part a) (part b)

theorem Feature.ordersByName : OrdersByName Feature.order Feature.name :=
  .of_transCmp fun _ _ => order_eq_iff

namespace Page

theorem lt_iff_order {p q : Page} : p < q ↔ p.order q = .lt :=
  Iff.rfl

theorem le_iff_order {p q : Page} : p ≤ q ↔ p.order q ≠ .gt := by
  have hle : p ≤ q ↔ (p.order q).isLE = true := Iff.rfl
  rw [hle, Ordering.isLE_iff_ne_gt]

theorem beq_iff_order {p q : Page} : (p == q) = true ↔ p.order q = .eq := by
  have hbeq : (p == q) = (p.order q == .eq) := rfl
  rw [hbeq, beq_iff_eq]

end Page

/-- The order of features is a total order of their names. Names with the same sort name still have an
    order. Pages are ordered, and are the same, as the features that represent them. -/
theorem order_totally_by_name :
    OrdersByName Feature.order Feature.name ∧
    (∀ f g : Feature, f.sortName = g.sortName → f.name ≠ g.name → f.order g ≠ .eq) ∧
    OrdersByName (compare : Page → Page → Ordering) (·.representative.name) ∧
    ∀ p q : Page, compare p q = p.representative.order q.representative ∧
      (p < q ↔ p.representative.order q.representative = .lt) ∧
      (p ≤ q ↔ p.representative.order q.representative ≠ .gt) ∧
      ((p == q) = true ↔ p.representative.order q.representative = .eq) := by
  refine ⟨Feature.ordersByName, ?_, Feature.ordersByName.comap Page.representative, ?_⟩
  · intro f g _ hname horder
    exact hname (Feature.order_eq_iff.1 horder)
  · intro p q
    exact ⟨rfl, Page.lt_iff_order, Page.le_iff_order, Page.beq_iff_order⟩

/-- A class and two functions with one sort name, in strict order. -/
theorem order_totally_sameSortName :
    let shouted := Index.functionOf "up" "Up.Link"
    let bracketed := Index.functionOf "up" "[up.link"
    let plain := Feature.ofClass { name := "up.link".toList, visibility := .internal }
    (shouted.sortName = bracketed.sortName ∧ bracketed.sortName = plain.sortName) ∧
    (shouted.order bracketed = .lt ∧ bracketed.order plain = .lt) ∧
    (shouted.order plain = .lt ∧ plain.order shouted = .gt ∧ bracketed.order plain ≠ .eq) := by
  intro shouted bracketed plain
  have hsort : bracketed.sortName = plain.sortName := by decide +kernel
  have hfirst : shouted.order bracketed = .lt := by decide +kernel
  have hsecond : bracketed.order plain = .lt := by decide +kernel
  obtain ⟨horder, hties, -⟩ := order_totally_by_name
  have hall : shouted.order plain = .lt := horder.lt_trans _ _ _ hfirst hsecond
  have hback : plain.order shouted = .gt := by
    rw [horder.swap, hall]
    rfl
  exact ⟨⟨by decide +kernel, hsort⟩, ⟨hfirst, hsecond⟩, hall, hback, hties _ _ hsort (by decide +kernel)⟩

end ApiGuide
