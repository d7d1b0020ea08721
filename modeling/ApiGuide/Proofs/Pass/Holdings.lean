import ApiGuide.Proofs.Pass.History

/-!
What it changes to leave the active class before every source.

A holding is a class with all functions up to the next class, wherever sources end, and remembers of
each function whether its source documents it before any class. Without leaves, a pass has the
holdings as they are. With a leave before every source it has them without those early functions.
-/

namespace ApiGuide

/-- A block of a source, and whether it comes before the first class block of that source. -/
structure Placed where
  block : Text
  early : Bool

/-- The block documents a class. -/
def isClassBlock (block : Text) : Bool :=
  (ClassDoc.parse? block).isSome

/-- The blocks of a source in their places. All are early if none documents a class. -/
def placed (source : Text) : List Placed :=
  ((Block.texts source).takeWhile (!isClassBlock ·)).map (⟨·, true⟩)
    ++ ((Block.texts source).dropWhile (!isClassBlock ·)).map (⟨·, false⟩)

/-- A documented function, and whether its block is early. -/
structure Held where
  function : FunctionDoc
  early : Bool

/-- The functions documented up to the first class block. -/
def heldUpToClass (blocks : List Placed) : List Held :=
  (blocks.takeWhile (!isClassBlock ·.block)).filterMap fun b =>
    (Call.block b.block).function?.map (⟨·, b.early⟩)

/-- A class, and the functions documented after it and before the next class. -/
structure Holding where
  doc : ClassDoc
  held : List Held

/-- The holdings of the classes that blocks document. -/
def holdings : List Placed → List Holding
  | [] => []
  | b :: rest =>
    match ClassDoc.parse? b.block with
    | some c => ⟨c, heldUpToClass rest⟩ :: holdings rest
    | none => holdings rest

/-- The class with functions that it owns. -/
def ClassDoc.owning (c : ClassDoc) (functions : List FunctionDoc) : ClassDoc :=
  { c with functions := functions.map ({ · with owner := c.name }) }

/-- The class with all functions of its holding. -/
def Holding.whole (h : Holding) : ClassDoc :=
  h.doc.owning (h.held.map (·.function))

/-- The class without the early functions of its holding. -/
def Holding.late (h : Holding) : ClassDoc :=
  h.doc.owning ((h.held.filter (!·.early)).map (·.function))

/-- The calls that a source comes down to, with or without a leave before them. -/
def sourceCalls (leaving : Bool) (source : Text) : List Call :=
  (if leaving then [.leave] else []) ++ (Block.texts source).map .block

theorem map_block_placed (source : Text) : (placed source).map (·.block) = Block.texts source := by
  simp [placed, Function.comp_def]

theorem endsClass_block (block : Text) : (Call.block block).endsClass = isClassBlock block :=
  rfl

theorem ownFunctions_block_cons (block : Text) (rest : List Call) :
    ownFunctions (.block block :: rest) =
      if isClassBlock block then [] else (Call.block block).function?.toList ++ ownFunctions rest := by
  rw [ownFunctions, List.takeWhile_cons, endsClass_block]
  cases isClassBlock block with
  | true => rfl
  | false => cases hfunction : (Call.block block).function? <;> simp [ownFunctions, hfunction]

theorem heldUpToClass_cons (b : Placed) (rest : List Placed) :
    heldUpToClass (b :: rest) =
      if isClassBlock b.block then []
      else ((Call.block b.block).function?.map (⟨·, b.early⟩)).toList ++ heldUpToClass rest := by
  rw [heldUpToClass, List.takeWhile_cons]
  cases isClassBlock b.block with
  | true => rfl
  | false => cases hfunction : (Call.block b.block).function? <;> simp [heldUpToClass, hfunction]

/-- Without leaves, classes take their whole holdings. -/
theorem documented_eq_whole (blocks : List Placed) :
    documented (blocks.map (.block ·.block)) = (holdings blocks).map (·.whole) := by
  have hown (blocks : List Placed) :
      ownFunctions (blocks.map (.block ·.block)) = (heldUpToClass blocks).map (·.function) := by
    induction blocks with
    | nil => rfl
    | cons b rest ih =>
      rw [List.map_cons, ownFunctions_block_cons, heldUpToClass_cons, ih]
      split
      · rfl
      · cases (Call.block b.block).function? <;> rfl
  induction blocks with
  | nil => rfl
  | cons b rest ih =>
    rw [List.map_cons, documented, holdings, ih, hown, Call.class?]
    cases ClassDoc.parse? b.block <;> rfl

/-- What is documented before the first class of some sources is early in its own source. -/
theorem early_of_mem_heldUpToClass {sources : List Text} {h : Held}
    (hmem : h ∈ heldUpToClass (sources.flatMap placed)) : h.early = true := by
  have hfront (texts : List Text) (more : List Placed) (hmore : h ∈ heldUpToClass more → h.early = true)
      (hmem : h ∈ heldUpToClass (texts.map (⟨·, true⟩) ++ more)) : h.early = true := by
    induction texts with
    | nil => exact hmore hmem
    | cons text texts ih =>
      rw [List.map_cons, List.cons_append, heldUpToClass_cons] at hmem
      split at hmem
      · cases hmem
      · rcases List.mem_append.1 hmem with hfirst | hrest
        · obtain ⟨f, -, rfl⟩ := Option.map_eq_some_iff.1 (Option.mem_toList.1 hfirst)
          rfl
        · exact ih hrest
  induction sources with
  | nil => cases hmem
  | cons source rest ih =>
    rw [List.flatMap_cons, placed, List.append_assoc] at hmem
    refine hfront _ _ (fun hmore => ?_) hmem
    -- After its early blocks a source has a class block, or nothing.
    cases hlate : (Block.texts source).dropWhile (!isClassBlock ·) with
    | nil =>
      rw [hlate] at hmore
      exact ih hmore
    | cons text texts =>
      have hclass : isClassBlock text = true := by
        have hhead := List.head?_dropWhile_not (fun b => !isClassBlock b) (Block.texts source)
        rw [hlate] at hhead
        simpa using hhead
      rw [hlate, List.map_cons, List.cons_append, heldUpToClass_cons, if_pos hclass] at hmore
      cases hmore

section Late

variable {calls : List Call} {blocks : List Placed}

/-- What follows a source: the next source leaves the class, so its functions up to a class belong to
    none, and they are early there. -/
structure LeavesFirst (calls : List Call) (blocks : List Placed) : Prop where
  own_nil : ownFunctions calls = []
  early : ∀ h ∈ heldUpToClass blocks, h.early = true
  documented_eq : documented calls = (holdings blocks).map (·.late)

theorem LeavesFirst.ownFunctions_eq (h : LeavesFirst calls blocks) (texts : List Text) :
    ownFunctions (texts.map .block ++ calls) =
      ((heldUpToClass (texts.map (⟨·, false⟩) ++ blocks)).filter (!·.early)).map (·.function) := by
  induction texts with
  | nil =>
    have hnone : (heldUpToClass blocks).filter (!·.early) = [] := by
      rw [List.filter_eq_nil_iff]
      intro held hmem
      simp [h.early held hmem]
    rw [List.map_nil, List.map_nil, List.nil_append, List.nil_append, h.own_nil, hnone, List.map_nil]
  | cons text texts ih =>
    rw [List.map_cons, List.map_cons, List.cons_append, List.cons_append, ownFunctions_block_cons,
      heldUpToClass_cons, ih]
    split
    · rfl
    · cases (Call.block text).function? <;> rfl

theorem LeavesFirst.documented_append (h : LeavesFirst calls blocks) (texts : List Text) :
    documented (texts.map .block ++ calls) =
      (holdings (texts.map (⟨·, false⟩) ++ blocks)).map (·.late) := by
  induction texts with
  | nil => exact h.documented_eq
  | cons text texts ih =>
    rw [List.map_cons, List.map_cons, List.cons_append, List.cons_append, documented, holdings, ih,
      h.ownFunctions_eq, Call.class?]
    cases ClassDoc.parse? text <;> rfl

theorem documented_append_of_no_class {texts : List Text} (h : ∀ text ∈ texts, isClassBlock text = false)
    (calls : List Call) : documented (texts.map .block ++ calls) = documented calls := by
  induction texts with
  | nil => rfl
  | cons text texts ih =>
    have hnone : ClassDoc.parse? text = none := by simpa [isClassBlock] using h text (by simp)
    rw [List.map_cons, List.cons_append, documented, Call.class?, hnone]
    exact ih fun t ht => h t (by simp [ht])

theorem holdings_append_of_no_class {texts : List Text} (h : ∀ text ∈ texts, isClassBlock text = false)
    (blocks : List Placed) : holdings (texts.map (⟨·, true⟩) ++ blocks) = holdings blocks := by
  induction texts with
  | nil => rfl
  | cons text texts ih =>
    have hnone : ClassDoc.parse? text = none := by simpa [isClassBlock] using h text (by simp)
    rw [List.map_cons, List.cons_append, holdings, hnone]
    exact ih fun t ht => h t (by simp [ht])

end Late

theorem isClassBlock_of_mem_takeWhile {texts : List Text} {text : Text}
    (h : text ∈ texts.takeWhile (!isClassBlock ·)) : isClassBlock text = false := by
  simpa using List.all_eq_true.1 List.all_takeWhile text h

theorem leavesFirst_sources (sources : List Text) :
    LeavesFirst (sources.flatMap (sourceCalls true)) (sources.flatMap placed) := by
  induction sources with
  | nil => exact ⟨rfl, by simp [heldUpToClass], rfl⟩
  | cons source rest ih =>
    refine ⟨rfl, fun held => early_of_mem_heldUpToClass, ?_⟩
    have hblocks : (Block.texts source).map Call.block =
        ((Block.texts source).takeWhile (!isClassBlock ·)).map .block
          ++ ((Block.texts source).dropWhile (!isClassBlock ·)).map .block := by
      rw [← List.map_append, List.takeWhile_append_dropWhile]
    have hcalls : documented (sourceCalls true source ++ rest.flatMap (sourceCalls true)) =
        documented ((Block.texts source).map .block ++ rest.flatMap (sourceCalls true)) := rfl
    rw [List.flatMap_cons, List.flatMap_cons, hcalls, hblocks, placed, List.append_assoc, List.append_assoc,
      documented_append_of_no_class fun _ => isClassBlock_of_mem_takeWhile,
      holdings_append_of_no_class fun _ => isClassBlock_of_mem_takeWhile, ih.documented_append]

/-- The first block of the source that documents a class or a function documents a class. -/
def StartsWithClass (source : Text) : Prop :=
  ∀ block ∈ (Block.texts source).find? (fun b => isClassBlock b || (Call.block b).function?.isSome),
    isClassBlock block = true

theorem function?_of_startsWithClass {source block : Text} (h : StartsWithClass source)
    (hmem : block ∈ (Block.texts source).takeWhile (!isClassBlock ·)) :
    (Call.block block).function? = none := by
  rw [← Option.not_isSome_iff_eq_none]
  intro hfunction
  cases hfind : ((Block.texts source).takeWhile (!isClassBlock ·)).find?
      (fun b => isClassBlock b || (Call.block b).function?.isSome) with
  | none => simpa [hfunction] using List.find?_eq_none.1 hfind block hmem
  | some first =>
    have hclass := isClassBlock_of_mem_takeWhile (List.mem_of_find?_eq_some hfind)
    have hwhole := h first (by
      rw [← List.takeWhile_append_dropWhile (p := (!isClassBlock ·)) (l := Block.texts source),
        List.find?_append, hfind]
      rfl)
    rw [hclass] at hwhole
    cases hwhole

theorem filter_heldUpToClass {blocks : List Placed}
    (h : ∀ b ∈ blocks, b.early = true → (Call.block b.block).function? = none) :
    (heldUpToClass blocks).filter (!·.early) = heldUpToClass blocks := by
  rw [List.filter_eq_self]
  intro held hmem
  obtain ⟨b, hb, hfunction⟩ := List.mem_filterMap.1 hmem
  obtain ⟨f, hf, rfl⟩ := Option.map_eq_some_iff.1 hfunction
  cases hearly : b.early with
  | false => rfl
  | true =>
    rw [h b ((List.takeWhile_prefix _).subset hb) hearly] at hf
    cases hf

/-- Sources that start with a class hold no early function, so their holdings are all late. -/
theorem late_eq_whole {sources : List Text} (h : ∀ source ∈ sources, StartsWithClass source) :
    (holdings (sources.flatMap placed)).map (·.late) = (holdings (sources.flatMap placed)).map (·.whole) := by
  have hblocks : ∀ b ∈ sources.flatMap placed, b.early = true → (Call.block b.block).function? = none := by
    intro b hmem hearly
    obtain ⟨source, hsource, hb⟩ := List.mem_flatMap.1 hmem
    rcases List.mem_append.1 hb with hb | hb
    · obtain ⟨block, hblock, rfl⟩ := List.mem_map.1 hb
      exact function?_of_startsWithClass (h source hsource) hblock
    · obtain ⟨block, -, rfl⟩ := List.mem_map.1 hb
      cases hearly
  generalize sources.flatMap placed = blocks at hblocks
  induction blocks with
  | nil => rfl
  | cons b rest ih =>
    have hrest : ∀ c ∈ rest, c.early = true → (Call.block c.block).function? = none :=
      fun c hc => hblocks c (by simp [hc])
    rw [holdings]
    cases ClassDoc.parse? b.block with
    | none => exact ih hrest
    | some c =>
      rw [List.map_cons, List.map_cons, ih hrest, Holding.late, filter_heldUpToClass hrest]
      rfl

end ApiGuide
