import ApiGuide.Files.Search
import ApiGuide.Proofs.Ascending
import ApiGuide.Proofs.Files.Path

/-!
The order of what searches find. Sorting leaves equal paths side by side, so keeping one of each run
gives a list in strict order.
-/

namespace ApiGuide.Search

theorem ascending_distinctAfter {last : Text} {paths : List Text}
    (h : (last :: paths).Pairwise fun p q => (Path.order p q).isLE = true) :
    Ascending Path.order (last :: distinctAfter last paths) := by
  induction paths generalizing last with
  | nil => exact List.pairwise_singleton _ _
  | cons p rest ih =>
    obtain ⟨hlast, hpaths⟩ := List.pairwise_cons.1 h
    rw [distinctAfter]
    split
    · exact ih (h.sublist (by simp))
    · next hne =>
      have hlt : Path.order last p = .lt := by
        rcases Ordering.isLE_iff_eq_lt_or_eq_eq.1 (hlast p (by simp)) with hlt | heq
        · exact hlt
        · exact absurd heq hne
      have hrest := ih hpaths
      refine List.pairwise_cons.2 ⟨?_, hrest⟩
      intro q hq
      rcases List.mem_cons.1 hq with rfl | hq
      · exact hlt
      · exact Std.TransCmp.lt_trans hlt ((List.pairwise_cons.1 hrest).1 q hq)

theorem mem_distinctAfter {last : Text} {paths : List Text}
    (h : ∀ p ∈ last :: paths, ∀ q ∈ last :: paths, Path.order p q = .eq → p = q) {path : Text} :
    path ∈ last :: distinctAfter last paths ↔ path ∈ last :: paths := by
  induction paths generalizing last with
  | nil => rfl
  | cons p rest ih =>
    rw [distinctAfter]
    split
    · next heq =>
      obtain rfl : last = p := h last (by simp) p (by simp) heq
      rw [ih fun q hq r hr => h q (by simp_all) r (by simp_all)]
      simp
    · rw [List.mem_cons, ih fun q hq r hr => h q (List.mem_cons_of_mem _ hq) r (List.mem_cons_of_mem _ hr),
        ← List.mem_cons]

theorem ascending_sorted (paths : List Text) : Ascending Path.order (sorted paths) := by
  have hsorted : (paths.mergeSort fun p q => (Path.order p q).isLE).Pairwise
      fun p q => (Path.order p q).isLE = true := pairwise_isLE_mergeSort paths
  rw [sorted]
  split
  · exact List.Pairwise.nil
  · next p rest heq =>
    rw [heq] at hsorted
    exact ascending_distinctAfter hsorted

/-- Sorting loses nothing where equal paths are written alike. -/
theorem mem_sorted {paths : List Text} (h : ∀ p ∈ paths, ∀ q ∈ paths, Path.order p q = .eq → p = q)
    {path : Text} : path ∈ sorted paths ↔ path ∈ paths := by
  have hmem {p : Text} : p ∈ (paths.mergeSort fun p q => (Path.order p q).isLE) ↔ p ∈ paths :=
    List.mem_mergeSort
  rw [sorted]
  split
  · next heq => rw [← hmem, heq]
  · next p rest heq =>
    rw [← hmem, heq]
    apply mem_distinctAfter
    rw [← heq]
    simpa only [hmem] using h

theorem distinctAfter_of_ascending {last : Text} {paths : List Text}
    (h : Ascending Path.order (last :: paths)) : distinctAfter last paths = paths := by
  induction paths generalizing last with
  | nil => rfl
  | cons p rest ih =>
    obtain ⟨hlast, hrest⟩ := List.pairwise_cons.1 h
    have hlt : Path.order last p = .lt := hlast p (by simp)
    rw [distinctAfter, if_neg (by simp [hlt]), ih hrest]

/-- Paths in strict order are sorted. -/
theorem sorted_of_ascending {paths : List Text} (h : Ascending Path.order paths) : sorted paths = paths := by
  have hsort : (paths.mergeSort fun p q => (Path.order p q).isLE) = paths := by
    apply List.mergeSort_of_pairwise
    exact h.imp fun hlt => by simp [hlt]
  rw [sorted, hsort]
  cases paths with
  | nil => rfl
  | cons p rest => exact congrArg (p :: ·) (distinctAfter_of_ascending h)

end ApiGuide.Search
