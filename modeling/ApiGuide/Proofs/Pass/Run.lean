import ApiGuide.Pass

/-!
Runs of a pass: what one call can do to the classes and the active class, and what follows for any
number of calls.
-/

namespace ApiGuide

/-- What a pass is asked to do. -/
inductive Call
  | block (text : Text)
  | leave

namespace Call

/-- The class that a call documents. -/
def class? : Call → Option ClassDoc
  | block text => ClassDoc.parse? text
  | leave => none

/-- The function that a call documents: a block with a class marker documents none, nor does one
    with a parameter that cannot be read. -/
def function? : Call → Option FunctionDoc
  | block text =>
    match ClassDoc.parse? text, FunctionDoc.parse? text with
    | none, .ok (some f) => some f
    | _, _ => none
  | leave => none

/-- No function after the call belongs to a class before it. -/
def endsClass (call : Call) : Bool :=
  match call with
  | block _ => call.class?.isSome
  | leave => true

end Call

/-- A class is read without functions; those come with later blocks. -/
theorem ClassDoc.functions_of_parse? {block : Text} {c : ClassDoc} (h : ClassDoc.parse? block = some c) :
    c.functions = [] := by
  unfold ClassDoc.parse? at h
  split at h
  · cases h
  · cases h
    rfl

namespace Pass

/-- The state after a call, whatever the call answered. -/
def call (p : Pass) : Call → Pass
  | .block text => (p.readBlock text).2
  | .leave => p.leaveClass

/-- The state after calls one after the other. -/
def run (p : Pass) (calls : List Call) : Pass :=
  calls.foldl call p

/-- The number of classes and functions of a pass. -/
def size (p : Pass) : Nat :=
  p.classes.length + (p.classes.flatMap (·.functions)).length

@[simp]
theorem run_nil (p : Pass) : p.run [] = p := rfl

@[simp]
theorem run_cons (p : Pass) (c : Call) (rest : List Call) : p.run (c :: rest) = (p.call c).run rest :=
  rfl

theorem run_append (p : Pass) (calls more : List Call) : p.run (calls ++ more) = (p.run calls).run more :=
  List.foldl_append

theorem active_eq_none_iff (p : Pass) : p.active = none ↔ p.position = none := by
  simp [active]

theorem attach_of_position_none {p : Pass} (h : p.position = none) (f : FunctionDoc) : p.attach f = p := by
  simp [attach, h]

@[simp]
theorem position_attach (p : Pass) (f : FunctionDoc) : (p.attach f).position = p.position := by
  unfold attach
  split <;> rfl

@[simp]
theorem length_classes_attach (p : Pass) (f : FunctionDoc) :
    (p.attach f).classes.length = p.classes.length := by
  unfold attach
  split <;> simp

/-- A function that comes right after a class joins that class. -/
theorem attach_enterClass (p : Pass) (c : ClassDoc) (f : FunctionDoc) :
    (p.enterClass c).attach f = p.enterClass (c.addFunction f) := by
  have hmodify : (p.classes ++ [c]).modify p.classes.length (·.addFunction f) =
      p.classes ++ [c.addFunction f] := by
    rw [List.modify_eq_take_cons_drop (by simp)]
    simp
  simp [attach, enterClass, hmodify]

/-- Everything that a call can do. Refused and skipped blocks fall under the last two cases: a
    function without an active class is attached to nothing. -/
theorem call_cases (p : Pass) (call : Call) :
    (∃ c, call.class? = some c ∧ c.functions = [] ∧ call.endsClass = true ∧
      p.call call = p.enterClass c) ∨
    (call = .leave ∧ p.call call = p.leaveClass) ∨
    (∃ f, call ≠ .leave ∧ call.class? = none ∧ call.function? = some f ∧ call.endsClass = false ∧
      p.call call = p.attach f) ∨
    (call ≠ .leave ∧ call.class? = none ∧ call.function? = none ∧ call.endsClass = false ∧
      p.call call = p) := by
  cases call with
  | leave => exact .inr (.inl ⟨rfl, rfl⟩)
  | block text =>
    simp only [Pass.call, readBlock, Call.class?, Call.function?, Call.endsClass]
    cases hclass : ClassDoc.parse? text with
    | some c => exact .inl ⟨c, rfl, ClassDoc.functions_of_parse? hclass, rfl, rfl⟩
    | none =>
      refine .inr (.inr ?_)
      cases hfunction : FunctionDoc.parse? text with
      | error e => exact .inr ⟨by simp, rfl, rfl, rfl, rfl⟩
      | ok found =>
        cases found with
        | none =>
          refine .inr ⟨by simp, rfl, rfl, rfl, ?_⟩
          dsimp only
          split <;> rfl
        | some f =>
          refine .inl ⟨f, by simp, rfl, rfl, rfl, ?_⟩
          cases hactive : p.active with
          | some c => rfl
          | none =>
            rw [attach_of_position_none ((active_eq_none_iff p).1 hactive)]
            dsimp only
            split <;> rfl

theorem size_enterClass (p : Pass) {c : ClassDoc} (h : c.functions = []) :
    (p.enterClass c).size = p.size + 1 := by
  simp [size, enterClass, h]
  omega

theorem size_attach {p : Pass} {i : Nat} (h : p.position = some i) (f : FunctionDoc) :
    (p.attach f).size = p.size + 1 := by
  have hi : i < p.classes.length := p.position_lt i h
  have hsplit : p.classes = p.classes.take i ++ p.classes[i] :: p.classes.drop (i + 1) := by simp
  have hattach : (p.attach f).classes =
      p.classes.take i ++ (p.classes[i]).addFunction f :: p.classes.drop (i + 1) := by
    simp only [attach, h]
    exact List.modify_eq_take_cons_drop hi
  have hfunctions := congrArg (fun classes : List ClassDoc => (classes.flatMap (·.functions)).length) hsplit
  simp only [List.flatMap_append, List.flatMap_cons, List.length_append] at hfunctions
  rw [size, size, length_classes_attach, hattach]
  simp only [List.flatMap_append, List.flatMap_cons, ClassDoc.addFunction, List.length_append,
    List.length_singleton]
  omega

/-- A block that is read adds to the classes and functions exactly when it counts. -/
theorem size_readBlock {p q : Pass} {block : Text} {reading : Reading}
    (h : p.readBlock block = (.ok reading, q)) : q.size = p.size + reading.count := by
  unfold readBlock at h
  split at h
  · next c hclass =>
    cases h
    exact size_enterClass p (ClassDoc.functions_of_parse? hclass)
  · split at h
    · cases h
    · next f _ =>
      split at h
      · next c hactive =>
        cases h
        cases hposition : p.position with
        | none =>
          rw [(active_eq_none_iff p).2 hposition] at hactive
          cases hactive
        | some i => exact size_attach hposition f
      · split at h <;> cases h
        rfl
    · split at h <;> cases h
      rfl

theorem readBlocks_cons_eq_ok_iff {p q : Pass} {first : Text} {blocks : List Text} {n : Nat} :
    p.readBlocks (first :: blocks) = (.ok n, q) ↔
      ∃ reading m, (p.readBlock first).1 = .ok reading ∧
        (p.call (.block first)).readBlocks blocks = (.ok m, q) ∧ n = reading.count + m := by
  rw [readBlocks, Pass.call]
  rcases p.readBlock first with ⟨_ | reading, p'⟩
  · simp
  · dsimp only
    rcases p'.readBlocks blocks with ⟨_ | m, p''⟩
    · simp
    · constructor
      · intro h
        cases h
        exact ⟨reading, m, rfl, rfl, rfl⟩
      · rintro ⟨reading', m', hreading, hrest, rfl⟩
        cases hreading
        cases hrest
        rfl

/-- Blocks that are all read are calls one after the other, and what is counted is what they add. -/
theorem readBlocks_ok {p q : Pass} {blocks : List Text} {n : Nat} (h : p.readBlocks blocks = (.ok n, q)) :
    q = p.run (blocks.map .block) ∧ q.size = p.size + n := by
  induction blocks generalizing p n with
  | nil =>
    cases h
    exact ⟨rfl, rfl⟩
  | cons block rest ih =>
    obtain ⟨reading, m, hblock, hrest, rfl⟩ := readBlocks_cons_eq_ok_iff.1 h
    obtain ⟨hrun, hsize⟩ := ih hrest
    have hstep : (p.call (.block block)).size = p.size + reading.count := size_readBlock (Prod.ext hblock rfl)
    exact ⟨hrun, by omega⟩

/-- The active class, if there is one, is the last class. -/
def ActiveIsLast (p : Pass) : Prop :=
  ∀ i ∈ p.position, i + 1 = p.classes.length

theorem ActiveIsLast.call {p : Pass} (h : p.ActiveIsLast) (call : Call) : (p.call call).ActiveIsLast := by
  obtain ⟨c, -, -, -, hcall⟩ | ⟨-, hcall⟩ | ⟨f, -, -, -, -, hcall⟩ | ⟨-, -, -, -, hcall⟩ := call_cases p call
  · rw [hcall]
    intro i hi
    obtain rfl : p.classes.length = i := by simpa [enterClass] using hi
    simp [enterClass]
  · rw [hcall]
    intro i hi
    cases hi
  · rw [hcall]
    simpa [ActiveIsLast] using h
  · rwa [hcall]

theorem ActiveIsLast.run {p : Pass} (h : p.ActiveIsLast) (calls : List Call) :
    (p.run calls).ActiveIsLast := by
  induction calls generalizing p with
  | nil => exact h
  | cons call rest ih => exact ih (h.call call)

theorem ActiveIsLast.active_eq_getLast? {p : Pass} (h : p.ActiveIsLast) :
    p.active = none ∨ ∃ c, p.active = some c ∧ p.classes.getLast? = some c := by
  obtain ⟨classes, position, strict, hlt⟩ := p
  cases position with
  | none => exact .inl rfl
  | some i =>
    have hi : i + 1 = classes.length := h i rfl
    have hlast : classes.length - 1 = i := by omega
    refine .inr ⟨classes.get ⟨i, hlt i rfl⟩, rfl, ?_⟩
    simp [List.getLast?_eq_getElem?, hlast]

end Pass

end ApiGuide
