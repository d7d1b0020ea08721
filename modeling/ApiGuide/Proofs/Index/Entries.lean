import ApiGuide.Proofs.Ascending
import ApiGuide.Proofs.Index.Grouping

/-!
The entries of an index stand in strict order, and the order in which features were met shows nowhere
in them but inside of a page.

Features of different pages have different names, and the order of features tells different names
apart, also where their sort names are the same.
-/

namespace ApiGuide

instance : Std.TransCmp Feature.order :=
  inferInstanceAs (Std.TransCmp (compareLex (compareOn Feature.sortName) (compareOn Feature.name)))

instance : Std.TransCmp Page.order where
  eq_swap {p q} := by
    have hswap : p.representative.order q.representative =
        (q.representative.order p.representative).swap := Std.OrientedCmp.eq_swap
    exact hswap
  isLE_trans {p q r} hpq hqr := by
    have hle : (p.representative.order r.representative).isLE = true := Std.TransCmp.isLE_trans hpq hqr
    exact hle

/-- Only features of the same name come at the same place. -/
theorem Feature.order_eq_iff {f g : Feature} : f.order g = .eq ↔ f.name = g.name := by
  rw [order, Ordering.then_eq_eq, Std.LawfulEqCmp.compare_eq_iff_eq, Std.LawfulEqCmp.compare_eq_iff_eq]
  constructor
  · exact fun h => h.2
  · intro h
    exact ⟨by rw [sortName, sortName, h], h⟩

theorem Page.eq_of_features {p q : Page} (hid : p.guideId = q.guideId) (h : p.features = q.features) :
    p = q := by
  cases p
  cases q
  simp_all [features]

/-- Features that are in the same order inside of each page. Lists of them are permutations of each
    other, and only features of different pages may have changed places. -/
def SamePages (features other : List Feature) : Prop :=
  ∀ id, features.filter (·.guideId = id) = other.filter (·.guideId = id)

theorem SamePages.symm {features other : List Feature} (h : SamePages features other) :
    SamePages other features :=
  fun id => (h id).symm

theorem SamePages.mem_iff {features other : List Feature} (h : SamePages features other) {f : Feature} :
    f ∈ features ↔ f ∈ other := by
  have hf := congrArg (f ∈ ·) (h f.guideId)
  simpa using hf

/-- A page of one list of features is one of the other, with the same features on it. -/
theorem SamePages.mem_pages {features other : List Feature} (h : SamePages features other)
    {pages pages' : List Page} (hpages : Grouped features pages) (hpages' : Grouped other pages') {p : Page}
    (hp : p ∈ pages) : p ∈ pages' := by
  have hid : p.guideId ∈ pages'.map (·.guideId) := by
    have hknown : p.guideId ∈ pages.map (·.guideId) := List.mem_map_of_mem hp
    rw [hpages.guideIds_eq, List.mem_eraseDups, List.mem_map] at hknown
    obtain ⟨f, hf, hfid⟩ := hknown
    rw [hpages'.guideIds_eq, List.mem_eraseDups, List.mem_map]
    exact ⟨f, h.mem_iff.1 hf, hfid⟩
  obtain ⟨q, hq, hqid⟩ := List.mem_map.1 hid
  have heq : p = q := by
    apply Page.eq_of_features hqid.symm
    rw [hpages.features_eq p hp, hpages'.features_eq q hq, hqid]
    exact h p.guideId
  rwa [heq]

namespace Index

theorem nodup_entries (features : List Feature) :
    (ofList features).entries.Pairwise fun p q => p.guideId ≠ q.guideId := by
  have hperm : (ofList features).entries.Perm (ofList features).pages := List.mergeSort_perm _ _
  have hnodup := (hperm.map (·.guideId)).nodup_iff.2 (grouped_ofList features).nodup
  exact List.pairwise_map.1 hnodup

theorem ascending_entries (features : List Feature) : Ascending Page.order (ofList features).entries := by
  have hsorted := (pairwise_isLE_mergeSort (ofList features).pages).and (nodup_entries features)
  refine hsorted.imp_of_mem ?_
  rintro p q hp hq ⟨hle, hne⟩
  have h := grouped_ofList features
  rcases Ordering.isLE_iff_eq_lt_or_eq_eq.1 hle with hlt | heq
  · exact hlt
  · have hname : p.representative.name = q.representative.name := Feature.order_eq_iff.1 heq
    have hid : p.representative.guideId = q.representative.guideId := by
      rw [Feature.guideId, Feature.guideId, hname]
    rw [h.guideId_representative (mem_entries.1 hp), h.guideId_representative (mem_entries.1 hq)] at hid
    exact absurd hid hne

theorem entries_eq_of_samePages {features other : List Feature} (h : SamePages features other) :
    (ofList features).entries = (ofList other).entries := by
  have hpages := grouped_ofList features
  have hpages' := grouped_ofList other
  apply (ascending_entries features).ext (ascending_entries other)
  intro p
  rw [mem_entries, mem_entries]
  exact ⟨h.mem_pages hpages hpages', h.symm.mem_pages hpages' hpages⟩

theorem find_eq_of_samePages {features other : List Feature} (h : SamePages features other) (id : Text) :
    (ofList features).find id = (ofList other).find id := by
  have hmet : (∃ f ∈ features, f.guideId = id) ↔ ∃ f ∈ other, f.guideId = id := by
    simp only [h.mem_iff]
  rw [find_ofList, find_ofList, h id]
  simp only [hmet]

/-- Each entry of an index comes strictly before all entries after it. Of the order in which the
    features were met, the entries and the look-ups show only the order inside of each page. -/
theorem entries_ascending_of_any_order (features : List Feature) :
    (ofList features).entries.Pairwise (fun p q => p.order q = .lt) ∧
    ∀ other : List Feature, SamePages features other →
      (ofList features).entries = (ofList other).entries ∧
      ∀ id, (ofList features).find id = (ofList other).find id :=
  ⟨ascending_entries features, fun _ h => ⟨entries_eq_of_samePages h, find_eq_of_samePages h⟩⟩

/-- A function of a class, as a feature. -/
def functionOf (owner name : String) : Feature :=
  .ofFunction { name := name.toList, owner := owner.toList }

/-- A selector on two classes, and two names that sort alike. -/
def metFirst : List Feature :=
  [functionOf "A" ".up-current", functionOf "A" "[up-close]", functionOf "A" "up-current",
    functionOf "B" "[up-close]"]

/-- The same features, met in another order. -/
def metLater : List Feature :=
  [functionOf "A" "[up-close]", functionOf "B" "[up-close]", functionOf "A" "up-current",
    functionOf "A" ".up-current"]

theorem entries_metFirst_metLater :
    metFirst.Perm metLater ∧ SamePages metFirst metLater ∧
    (ofList metFirst).entries = (ofList metLater).entries ∧
    (ofList metFirst).find "up-close".toList = (ofList metLater).find "up-close".toList ∧
    (ofList metFirst).entries.Pairwise (fun p q => p.order q = .lt) := by
  have hsame : SamePages metFirst metLater := by
    have hdot : (functionOf "A" ".up-current").guideId = ".up-current".toList := by decide +kernel
    have hplain : (functionOf "A" "up-current").guideId = "up-current".toList := by decide +kernel
    have hclose (owner : String) : (functionOf owner "[up-close]").guideId = "up-close".toList := by
      have hname : Slug.ofName "[up-close]".toList = "up-close".toList := by decide +kernel
      exact hname
    intro id
    simp only [metFirst, metLater, List.filter_cons, hdot, hplain, hclose, decide_eq_true_eq]
    by_cases hid : "up-close".toList = id
    · subst hid
      rfl
    · by_cases hid' : "up-current".toList = id
      · subst hid'
        rfl
      · simp only [hid, hid', if_false]
  obtain ⟨hascending, hother⟩ := entries_ascending_of_any_order metFirst
  obtain ⟨hentries, hfind⟩ := hother metLater hsame
  exact ⟨by decide +kernel, hsame, hentries, hfind _, hascending⟩

end Index

end ApiGuide
