import ApiGuide.Index

/-!
The index as a grouping of its features by guide id.
-/

namespace ApiGuide

/-- The pages group the features: their ids are the guide ids without repetition in the order of
    their first occurrence, and each page has the features with its id in their order. -/
structure Grouped (features : List Feature) (pages : List Page) : Prop where
  guideIds_eq : pages.map (·.guideId) = (features.map (·.guideId)).eraseDups
  nodup : (pages.map (·.guideId)).Nodup
  features_eq : ∀ p ∈ pages, p.features = features.filter (·.guideId = p.guideId)
  perm : (pages.flatMap (·.features)).Perm features

theorem eraseDups_concat (ids : List Text) (id : Text) :
    (ids ++ [id]).eraseDups = if id ∈ ids then ids.eraseDups else ids.eraseDups ++ [id] := by
  rw [List.eraseDups_append, List.removeAll]
  by_cases hmem : id ∈ ids
  · simp [hmem]
  · simp [hmem, List.eraseDups_cons]

theorem guideIds_placeOnPage (id : Text) (f : Feature) (pages : List Page) :
    (placeOnPage id f pages).map (·.guideId) =
      if id ∈ pages.map (·.guideId) then pages.map (·.guideId) else pages.map (·.guideId) ++ [id] := by
  induction pages with
  | nil => rfl
  | cons p rest ih =>
    rw [placeOnPage]
    by_cases hid : p.guideId = id
    · simp [hid]
    · rw [if_neg hid, List.map_cons, ih]
      simp only [List.map_cons, List.mem_cons, Ne.symm hid, false_or]
      split <;> rfl

theorem flatMap_features_placeOnPage (id : Text) (f : Feature) (pages : List Page) :
    ((placeOnPage id f pages).flatMap (·.features)).Perm (pages.flatMap (·.features) ++ [f]) := by
  induction pages with
  | nil => exact .refl _
  | cons p rest ih =>
    rw [placeOnPage]
    split
    · simp only [List.flatMap_cons, Page.features, List.cons_append, List.append_assoc, List.nil_append]
      exact .cons _ (.append_left _ (List.perm_append_singleton f _).symm)
    · simp only [List.flatMap_cons, List.append_assoc]
      exact .append_left _ ih

/-- What is on a page after a feature was placed: other pages are as they were, and the page of the
    feature has it last, whether the page is new or not. -/
theorem features_of_mem_placeOnPage {id : Text} {f : Feature} {pages : List Page}
    (hnodup : (pages.map (·.guideId)).Nodup) {p : Page} (hp : p ∈ placeOnPage id f pages) :
    (p.guideId ≠ id ∧ p ∈ pages) ∨
    (p.guideId = id ∧ ∃ q ∈ pages, q.guideId = id ∧ p.features = q.features ++ [f]) ∨
    (p.guideId = id ∧ id ∉ pages.map (·.guideId) ∧ p.features = [f]) := by
  induction pages with
  | nil =>
    obtain rfl : p = ⟨id, f, []⟩ := by simpa [placeOnPage] using hp
    exact .inr (.inr ⟨rfl, by simp, rfl⟩)
  | cons q rest ih =>
    obtain ⟨hq, hrest⟩ := List.nodup_cons.1 hnodup
    rw [placeOnPage] at hp
    by_cases hid : q.guideId = id
    · rw [if_pos hid] at hp
      rcases List.mem_cons.1 hp with rfl | hmem
      · exact .inr (.inl ⟨hid, q, by simp, hid, rfl⟩)
      · refine .inl ⟨?_, by simp [hmem]⟩
        intro heq
        exact hq (List.mem_map.2 ⟨p, hmem, heq.trans hid.symm⟩)
    · rw [if_neg hid] at hp
      rcases List.mem_cons.1 hp with rfl | hmem
      · exact .inl ⟨hid, by simp⟩
      · obtain ⟨hne, hmem⟩ | ⟨heq, q', hq', hid', hfeatures⟩ | ⟨heq, hnew, hfeatures⟩ := ih hrest hmem
        · exact .inl ⟨hne, by simp [hmem]⟩
        · exact .inr (.inl ⟨heq, q', by simp [hq'], hid', hfeatures⟩)
        · refine .inr (.inr ⟨heq, ?_, hfeatures⟩)
          simpa [Ne.symm hid] using hnew

/-- Placing one more feature keeps the grouping. -/
theorem Grouped.placeOnPage {features : List Feature} {pages : List Page} (h : Grouped features pages)
    (f : Feature) : Grouped (features ++ [f]) (placeOnPage f.guideId f pages) := by
  have hmem : f.guideId ∈ pages.map (·.guideId) ↔ f.guideId ∈ features.map (·.guideId) := by
    rw [h.guideIds_eq, List.mem_eraseDups]
  refine ⟨?_, ?_, ?_, ?_⟩
  · rw [guideIds_placeOnPage, List.map_append, List.map_singleton, eraseDups_concat, h.guideIds_eq]
    simp only [List.mem_eraseDups]
  · rw [guideIds_placeOnPage]
    split
    · exact h.nodup
    · next hnew =>
      rw [List.nodup_append]
      refine ⟨h.nodup, by simp, ?_⟩
      intro a ha b hb hab
      obtain rfl : b = f.guideId := by simpa using hb
      exact hnew (hab ▸ ha)
  · intro p hp
    rw [List.filter_append]
    obtain ⟨hne, hold⟩ | ⟨hid, q, hq, hqid, hfeatures⟩ | ⟨hid, hnew, hfeatures⟩ :=
      features_of_mem_placeOnPage h.nodup hp
    · rw [h.features_eq p hold]
      simp [Ne.symm hne]
    · rw [hfeatures, h.features_eq q hq, hqid, hid]
      simp
    · have hnone : features.filter (·.guideId = p.guideId) = [] := by
        rw [hmem] at hnew
        simp only [List.filter_eq_nil_iff, decide_eq_true_eq]
        intro g hg hgid
        exact hnew (List.mem_map.2 ⟨g, hg, hgid.trans hid⟩)
      rw [hfeatures, hnone, hid]
      simp
  · exact (flatMap_features_placeOnPage _ _ _).trans (h.perm.append_right [f])

theorem Grouped.foldl {features : List Feature} {pages : List Page} (h : Grouped features pages)
    (more : List Feature) :
    Grouped (features ++ more)
      (more.foldl (fun pages f => ApiGuide.placeOnPage f.guideId f pages) pages) := by
  induction more generalizing features pages with
  | nil => simpa using h
  | cons f more ih => simpa using ih (h.placeOnPage f)

/-- A page is found by its id, and its representative is the first feature with that id. -/
theorem Grouped.find?_representative {features : List Feature} {pages : List Page}
    (h : Grouped features pages) {p : Page} (hp : p ∈ pages) :
    features.find? (·.guideId = p.guideId) = some p.representative := by
  rw [← List.head?_filter, ← h.features_eq p hp]
  rfl

theorem Grouped.guideId_representative {features : List Feature} {pages : List Page}
    (h : Grouped features pages) {p : Page} (hp : p ∈ pages) :
    p.representative.guideId = p.guideId := by
  have hfound := List.find?_some (h.find?_representative hp)
  simpa using hfound

namespace Index

theorem grouped_ofList (features : List Feature) : Grouped features (ofList features).pages := by
  have hempty : Grouped [] [] := ⟨rfl, .nil, by simp, .nil⟩
  exact hempty.foldl features

theorem mem_entries {index : Index} {p : Page} : p ∈ index.entries ↔ p ∈ index.pages :=
  List.mem_mergeSort

theorem find_ofList (features : List Feature) (id : Text) :
    (ofList features).find id =
      if ∃ f ∈ features, f.guideId = id then .ok (features.filter (·.guideId = id))
      else .error (.unknownGuideId id) := by
  have h := grouped_ofList features
  rw [find]
  cases hfind : (ofList features).pages.find? (·.guideId = id) with
  | some p =>
    have hid : p.guideId = id := by simpa using List.find?_some hfind
    have hp := List.mem_of_find?_eq_some hfind
    have hfeatures := h.features_eq p hp
    rw [hid] at hfeatures
    have hrepresentative : p.representative ∈ features.filter (·.guideId = id) := by
      rw [← hfeatures]
      simp [Page.features]
    obtain ⟨hmem, hrid⟩ := List.mem_filter.1 hrepresentative
    rw [if_pos ⟨p.representative, hmem, by simpa using hrid⟩]
    exact congrArg _ hfeatures
  | none =>
    rw [if_neg]
    rintro ⟨f, hf, hid⟩
    have hknown : id ∈ (ofList features).pages.map (·.guideId) := by
      rw [h.guideIds_eq, List.mem_eraseDups]
      exact List.mem_map.2 ⟨f, hf, hid⟩
    obtain ⟨p, hp, hpid⟩ := List.mem_map.1 hknown
    have hno := List.find?_eq_none.1 hfind p hp
    simp [hpid] at hno

/-- The index of a list loses and repeats nothing. Its guide ids are those of the features without
    repetition, in the order of first occurrence; a look-up gives all features with an id in their
    order, and fails exactly when there is none; the entries are one page for each id, with its
    features and the first of them as representative; together the entries hold the features, and
    these are kept as they were. -/
theorem ofList_partitions_features (features : List Feature) :
    (ofList features).guideIds = (features.map (·.guideId)).eraseDups ∧
    (∀ id, (∃ f ∈ features, f.guideId = id) →
      (ofList features).find id = .ok (features.filter (·.guideId = id))) ∧
    (∀ id, (ofList features).find id = .error (.unknownGuideId id) ↔ ∀ f ∈ features, f.guideId ≠ id) ∧
    ((ofList features).entries.map (·.representative.guideId)).Perm (ofList features).guideIds ∧
    (ofList features).guideIds.Nodup ∧
    (∀ p ∈ (ofList features).entries, p.guideId = p.representative.guideId ∧ p.features ≠ [] ∧
      p.features = features.filter (·.guideId = p.guideId) ∧
      features.find? (·.guideId = p.guideId) = some p.representative) ∧
    ((ofList features).entries.flatMap (·.features)).Perm features ∧
    (ofList features).features = features := by
  have h := grouped_ofList features
  have hperm : (ofList features).entries.Perm (ofList features).pages := List.mergeSort_perm _ _
  refine ⟨h.guideIds_eq, ?_, ?_, ?_, h.nodup, ?_, ?_, rfl⟩
  · intro id hid
    rw [find_ofList, if_pos hid]
  · intro id
    rw [find_ofList]
    by_cases hid : ∃ f ∈ features, f.guideId = id
    · rw [if_pos hid]
      obtain ⟨f, hf, hfid⟩ := hid
      simp only [reduceCtorEq, false_iff]
      intro hnone
      exact hnone f hf hfid
    · rw [if_neg hid]
      simpa using hid
  · have hids : (ofList features).pages.map (·.representative.guideId) = (ofList features).guideIds :=
      List.map_congr_left fun p hp => h.guideId_representative hp
    rw [← hids]
    exact hperm.map _
  · intro p hp
    have hpage := mem_entries.1 hp
    exact ⟨(h.guideId_representative hpage).symm, by simp [Page.features], h.features_eq p hpage,
      h.find?_representative hpage⟩
  · exact (hperm.flatMap_right _).trans h.perm

end Index

end ApiGuide
