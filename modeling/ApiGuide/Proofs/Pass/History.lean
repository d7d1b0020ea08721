import ApiGuide.Proofs.Pass.Run

/-!
What the classes of a pass say about the calls that led to them.

A pass knows only the position of its active class. The history of its calls knows more: which class
a block documented, and which function blocks came between it and the next class or leave. The two
agree after every run, whatever was refused on the way.
-/

namespace ApiGuide

/-- The functions of a class whose block came right before the calls. -/
def ownFunctions (calls : List Call) : List FunctionDoc :=
  (calls.takeWhile (!·.endsClass)).filterMap (·.function?)

/-- The classes of a history: one for every class block, with the functions documented after it and
    before the next class block or leave. -/
def documented : List Call → List ClassDoc
  | [] => []
  | call :: rest =>
    match call.class? with
    | some c =>
      { c with functions := (ownFunctions rest).map ({ · with owner := c.name }) } :: documented rest
    | none => documented rest

/-- No class was documented since the start or the last leave. -/
def NoClassSinceLeave (calls : List Call) : Prop :=
  ∀ before call after, calls = before ++ call :: after → call.class?.isSome → .leave ∈ after

theorem noClassSinceLeave_cons {call : Call} {rest : List Call} :
    NoClassSinceLeave (call :: rest) ↔
      (call.class?.isSome → .leave ∈ rest) ∧ NoClassSinceLeave rest := by
  constructor
  · intro h
    refine ⟨h [] call rest rfl, ?_⟩
    rintro before c after rfl
    exact h (call :: before) c after rfl
  · rintro ⟨hhead, hrest⟩ before c after heq
    cases before with
    | nil =>
      obtain ⟨rfl, rfl⟩ : call = c ∧ rest = after := by simpa using heq
      exact hhead
    | cons b before =>
      obtain ⟨rfl, rfl⟩ : call = b ∧ rest = before ++ c :: after := by simpa using heq
      exact hrest before c after rfl

/-- The functions of a class name it as their owner. -/
theorem owner_of_mem_documented {calls : List Call} {c : ClassDoc} {f : FunctionDoc}
    (hc : c ∈ documented calls) (hf : f ∈ c.functions) : f.owner = c.name := by
  induction calls with
  | nil => cases hc
  | cons call rest ih =>
    rw [documented] at hc
    split at hc
    · rcases List.mem_cons.1 hc with rfl | hmem
      · obtain ⟨g, -, rfl⟩ := List.mem_map.1 hf
        rfl
      · exact ih hmem
    · exact ih hc

namespace Pass

/-- The state after functions that come one after the other. -/
def attachAll (p : Pass) (functions : List FunctionDoc) : Pass :=
  functions.foldl attach p

theorem attachAll_of_position_none {p : Pass} (h : p.position = none) (functions : List FunctionDoc) :
    p.attachAll functions = p := by
  induction functions with
  | nil => rfl
  | cons f rest ih =>
    rw [attachAll, List.foldl_cons, attach_of_position_none h]
    exact ih

theorem classes_attachAll_enterClass (p : Pass) (c : ClassDoc) (functions : List FunctionDoc) :
    ((p.enterClass c).attachAll functions).classes =
      p.classes ++ [{ c with functions := c.functions ++ functions.map ({ · with owner := c.name }) }] := by
  induction functions generalizing c with
  | nil => simp [attachAll, enterClass]
  | cons f rest ih =>
    have hrest := ih (c.addFunction f)
    rw [attachAll] at hrest
    rw [attachAll, List.foldl_cons, attach_enterClass, hrest]
    simp [ClassDoc.addFunction]

/-- From any state on, a run gives its first functions to the class that was active at its start and
    then adds the classes of its own history. -/
theorem classes_run (p : Pass) (calls : List Call) :
    (p.run calls).classes = (p.attachAll (ownFunctions calls)).classes ++ documented calls := by
  -- The state is arbitrary, since after a class block the run goes on with that class active.
  induction calls generalizing p with
  | nil => simp [ownFunctions, attachAll, documented]
  | cons call rest ih =>
    rw [run_cons, ih, documented]
    obtain ⟨c, hclass, hempty, hends, hcall⟩ | ⟨rfl, hcall⟩ | ⟨f, -, hclass, hfunction, hends, hcall⟩ |
      ⟨-, hclass, hfunction, hends, hcall⟩ := call_cases p call
    · have hown : ownFunctions (call :: rest) = [] := by simp [ownFunctions, hends]
      rw [hcall, hown, hclass, classes_attachAll_enterClass, hempty]
      simp [attachAll]
    · have hown : ownFunctions (.leave :: rest) = [] := by simp [ownFunctions, Call.endsClass]
      rw [hcall, hown, attachAll_of_position_none rfl]
      rfl
    · have hown : ownFunctions (call :: rest) = f :: ownFunctions rest := by
        simp [ownFunctions, hends, hfunction]
      rw [hcall, hown, hclass]
      rfl
    · have hown : ownFunctions (call :: rest) = ownFunctions rest := by
        simp [ownFunctions, hends, hfunction]
      rw [hcall, hown, hclass]

/-- A run ends without an active class when all classes of it were left, and so was the class active
    at its start, if there was one. -/
theorem position_run_eq_none_iff (p : Pass) (calls : List Call) :
    (p.run calls).position = none ↔
      NoClassSinceLeave calls ∧ (p.position = none ∨ .leave ∈ calls) := by
  induction calls generalizing p with
  | nil => simp [NoClassSinceLeave]
  | cons call rest ih =>
    rw [run_cons, ih, noClassSinceLeave_cons]
    obtain ⟨c, hclass, -, -, hcall⟩ | ⟨rfl, hcall⟩ | ⟨f, hleave, hclass, -, -, hcall⟩ |
      ⟨hleave, hclass, -, -, hcall⟩ := call_cases p call
    · have hleave : call ≠ .leave := by
        rintro rfl
        cases hclass
      simp only [hcall, hclass, enterClass, reduceCtorEq, false_or, Option.isSome_some, forall_const,
        List.mem_cons, hleave.symm]
      constructor
      · rintro ⟨hrest, hmem⟩
        exact ⟨⟨hmem, hrest⟩, .inr hmem⟩
      · rintro ⟨⟨hmem, hrest⟩, -⟩
        exact ⟨hrest, hmem⟩
    · simp [hcall, Call.class?, leaveClass]
    · simp [hcall, hclass, hleave.symm]
    · simp [hcall, hclass, hleave.symm]

theorem active_run_eq_none_iff (strict : Bool) (calls : List Call) :
    ((start strict).run calls).active = none ↔ NoClassSinceLeave calls := by
  rw [active_eq_none_iff, position_run_eq_none_iff]
  simp [start]

/-- A function block without an active class leaves the whole pass as it was. -/
theorem call_of_active_none {p : Pass} {call : Call} (hactive : p.active = none)
    (hfunction : call.function?.isSome) : p.call call = p := by
  have hposition := (active_eq_none_iff p).1 hactive
  obtain ⟨c, hclass, -, -, -⟩ | ⟨rfl, -⟩ | ⟨f, -, -, -, -, hcall⟩ | ⟨-, -, hnone, -, -⟩ := call_cases p call
  · cases call with
    | leave => cases hclass
    | block text =>
      have hparse : ClassDoc.parse? text = some c := hclass
      simp [Call.function?, hparse] at hfunction
  · cases hfunction
  · rw [hcall, attach_of_position_none hposition]
  · simp [hnone] at hfunction

/-- Every run from an empty pass follows its history: the classes are the documented ones with their
    functions, owners are right, a function without a class since the start or the last leave changes
    nothing, and the active class is missing or the last one. A source that is then read without an
    error continues the history by its blocks, and its count is what it adds. -/
theorem run_follows_history (strict : Bool) (calls : List Call) :
    ((start strict).run calls).classes = documented calls ∧
    (∀ c ∈ ((start strict).run calls).classes, ∀ f ∈ c.functions, f.owner = c.name) ∧
    (∀ before call after, calls = before ++ call :: after → call.function?.isSome →
      NoClassSinceLeave before → (start strict).run calls = (start strict).run (before ++ after)) ∧
    (∀ i, ((start strict).run calls).position = some i → i + 1 = ((start strict).run calls).classes.length) ∧
    (((start strict).run calls).active = none ∨ ∃ c, ((start strict).run calls).active = some c ∧
      ((start strict).run calls).classes.getLast? = some c) ∧
    (((start strict).run calls).active = none ↔ NoClassSinceLeave calls) ∧
    (∀ source n after, ((start strict).run calls).readSource source = (.ok n, after) →
      after.classes = documented (calls ++ (Block.texts source).map .block) ∧
      after.size = ((start strict).run calls).size + n) := by
  have hclasses (calls : List Call) : ((start strict).run calls).classes = documented calls := by
    rw [classes_run, attachAll_of_position_none rfl]
    rfl
  have hlast : ((start strict).run calls).ActiveIsLast := ActiveIsLast.run (by intro i hi; cases hi) calls
  refine ⟨hclasses calls, ?_, ?_, hlast, hlast.active_eq_getLast?, active_run_eq_none_iff strict calls, ?_⟩
  · intro c hc f hf
    rw [hclasses] at hc
    exact owner_of_mem_documented hc hf
  · rintro before call after rfl hfunction hbefore
    have hactive := (active_run_eq_none_iff strict before).2 hbefore
    rw [run_append, run_append, run_cons, call_of_active_none hactive hfunction]
  · intro source n after hread
    obtain ⟨hrun, hsize⟩ := readBlocks_ok hread
    rw [← run_append] at hrun
    exact ⟨hrun ▸ hclasses _, hsize⟩

/-- A function before any class, a class with a function, and a function after the class was left. -/
def mixedCalls : List Call :=
  [.block "@method a".toList, .block "@class C".toList, .block "@method b".toList, .leave,
    .block "@method c".toList]

/-- A function without a class, and then a class with a function. -/
def mixedSource : Text :=
  "###*\n@method d\n###\n###*\n@class D\n###\n###*\n@method e\n###".toList

theorem readSource_mixedCalls :
    ((start false).run mixedCalls).classes =
      [{ name := "C".toList, functions := [{ name := "b".toList, owner := "C".toList }] }] ∧
    ∃ after, ((start false).run mixedCalls).readSource mixedSource = (.ok 2, after) ∧
      after.size = ((start false).run mixedCalls).size + 2 := by
  obtain ⟨hclasses, -, -, -, -, -, hsource⟩ := run_follows_history false mixedCalls
  have hdocumented : documented mixedCalls =
      [{ name := "C".toList, functions := [{ name := "b".toList, owner := "C".toList }] }] := by
    decide +kernel
  have hcount : (((start false).run mixedCalls).readSource mixedSource).1.toOption = some 2 := by
    decide +kernel
  refine ⟨hclasses.trans hdocumented, ?_⟩
  rcases hread : ((start false).run mixedCalls).readSource mixedSource with ⟨answer, after⟩
  rw [hread] at hcount
  cases answer with
  | error e => cases hcount
  | ok n =>
    obtain rfl : n = 2 := Option.some.inj hcount
    exact ⟨after, rfl, (hsource mixedSource 2 after hread).2⟩

end Pass

end ApiGuide
