import ApiGuide.Proofs.Pass.Refusal

/-!
Strict and lenient passes over the same sources.

Strictness never shows in the state: a call leads a strict and a lenient pass to the same classes and
the same active class. It shows only in the answers, and there a strict pass refuses exactly the
blocks that a lenient pass ignores or refuses itself.
-/

namespace ApiGuide

open Marker

theorem ClassDoc.parse?_eq_none_iff {block : Text} :
    ClassDoc.parse? block = none ↔ className? block = none := by
  unfold ClassDoc.parse?
  split <;> simp_all

/-- The only thing wrong with a function block is a parameter, and the refusal shows the block. -/
theorem ParamDoc.parseAll_error {block t : Text} {e : ParseError}
    (h : ParamDoc.parseAll block t = .error e) : ∃ param, e = .invalidParam param block := by
  fun_induction ParamDoc.parseAll block t with
  | case1 => cases h
  | case2 t group outside _ e' hparse =>
    cases h
    unfold ParamDoc.parse at hparse
    dsimp only at hparse
    split at hparse <;> cases hparse
    exact ⟨_, rfl⟩
  | case3 t group outside _ param _ e' hrest ih =>
    cases h
    exact ih hrest
  | case4 => cases h

theorem FunctionDoc.parse?_error {block : Text} {e : ParseError}
    (h : FunctionDoc.parse? block = .error e) : ∃ param, e = .invalidParam param block := by
  unfold FunctionDoc.parse? at h
  dsimp only at h
  split at h
  · cases h
  · split at h
    · next hparams =>
      cases h
      exact ParamDoc.parseAll_error hparams
    · cases h

theorem FunctionDoc.parse?_eq_ok_none_iff {block : Text} :
    FunctionDoc.parse? block = .ok none ↔ functionName? block = none := by
  unfold FunctionDoc.parse?
  dsimp only
  split
  · simp_all
  · split <;> simp_all

/-- What a pass takes in: the text of a source, or a leave of the active class. -/
inductive Intake
  | source (text : Text)
  | leave

namespace Intake

/-- The calls that an intake comes down to. -/
def calls : Intake → List Call
  | source text => (Block.texts text).map .block
  | leave => [.leave]

/-- The number of blocks of a source. -/
def blockCount? : Intake → Option Nat
  | source text => some (Block.texts text).length
  | leave => none

end Intake

namespace Pass

/-- Takes in sources and leaves up to the first source that is refused. Gives the count of every
    source. -/
def takeIn (p : Pass) : List Intake → Except ParseError (List Nat) × Pass
  | [] => (.ok [], p)
  | .leave :: rest => p.leaveClass.takeIn rest
  | .source text :: rest =>
    match p.readSource text with
    | (.error e, q) => (.error e, q)
    | (.ok n, q) =>
      match q.takeIn rest with
      | (.error e, q') => (.error e, q')
      | (.ok counts, q') => (.ok (n :: counts), q')

/-- The pass with another strictness. -/
def withStrict (p : Pass) (strict : Bool) : Pass :=
  { p with strict }

/-- Why a strict pass refuses a block, told by what the lenient pass does with it. -/
inductive RefusedAs (lenient : Pass) (block : Text) : ParseError → Prop
  | functionWithoutClass {f : FunctionDoc} (hfunction : (Call.block block).function? = some f)
      (hactive : lenient.active = none) (hignored : lenient.readBlock block = (.ok .ignored, lenient)) :
      RefusedAs lenient block (.functionWithoutClass f.name)
  | unrecognizedBlock (hclass : className? block = none) (hfunction : functionName? block = none)
      (hignored : lenient.readBlock block = (.ok .ignored, lenient)) :
      RefusedAs lenient block (.unrecognizedBlock block)
  | invalidParam {param : Text}
      (herror : lenient.readBlock block = (.error (.invalidParam param block), lenient)) :
      RefusedAs lenient block (.invalidParam param block)

/-- Every block among the calls is read and counts, in the state that the calls before it lead to. -/
def AllCount (p : Pass) (calls : List Call) : Prop :=
  ∀ before block after, calls = before ++ .block block :: after →
    ∃ reading, ((p.run before).readBlock block).1 = .ok reading ∧ reading ≠ .ignored

theorem attach_withStrict (p : Pass) (f : FunctionDoc) (strict : Bool) :
    (p.withStrict strict).attach f = (p.attach f).withStrict strict := by
  obtain ⟨classes, position, _, hlt⟩ := p
  cases position <;> rfl

theorem call_withStrict (p : Pass) (strict : Bool) (call : Call) :
    (p.withStrict strict).call call = (p.call call).withStrict strict := by
  cases call with
  | leave => rfl
  | block text =>
    have hactive : (p.withStrict strict).active = p.active := rfl
    simp only [Pass.call, readBlock, hactive]
    cases ClassDoc.parse? text with
    | some c => rfl
    | none =>
      cases FunctionDoc.parse? text with
      | error e => rfl
      | ok found =>
        cases found with
        | none => cases strict <;> cases p.strict <;> rfl
        | some f =>
          cases p.active with
          | some c => exact attach_withStrict p f strict
          | none => cases strict <;> cases p.strict <;> rfl

theorem run_withStrict (p : Pass) (strict : Bool) (calls : List Call) :
    (p.withStrict strict).run calls = (p.run calls).withStrict strict := by
  induction calls generalizing p with
  | nil => rfl
  | cons call rest ih => rw [run_cons, run_cons, call_withStrict, ih]

/-- A block counts whatever the strictness, or a strict pass refuses it. -/
theorem readBlock_withStrict_cases (p : Pass) (block : Text) :
    (∃ reading, reading ≠ .ignored ∧ ∀ strict,
      (p.withStrict strict).readBlock block = (.ok reading, (p.call (.block block)).withStrict strict)) ∨
    ∃ e, (p.withStrict false).RefusedAs block e ∧ ((p.withStrict true).readBlock block).1 = .error e := by
  have hstate (strict : Bool) :
      ((p.withStrict strict).readBlock block).2 = (p.call (.block block)).withStrict strict :=
    call_withStrict p strict (.block block)
  cases hclass : ClassDoc.parse? block with
  | some c =>
    refine .inl ⟨.classDoc c.name, by simp, fun strict => Prod.ext ?_ (hstate strict)⟩
    simp only [readBlock, hclass]
  | none =>
    cases hfunction : FunctionDoc.parse? block with
    | error e =>
      obtain ⟨param, rfl⟩ := FunctionDoc.parse?_error hfunction
      refine .inr ⟨.invalidParam param block, .invalidParam ?_, ?_⟩
      · simp only [readBlock, hclass, hfunction]
      · simp only [readBlock, hclass, hfunction]
    | ok found =>
      cases found with
      | none =>
        refine .inr ⟨.unrecognizedBlock block, .unrecognizedBlock (ClassDoc.parse?_eq_none_iff.1 hclass)
          (FunctionDoc.parse?_eq_ok_none_iff.1 hfunction) ?_, ?_⟩
        · simp [readBlock, hclass, hfunction, withStrict]
        · simp [readBlock, hclass, hfunction, withStrict]
      | some f =>
        cases hactive : p.active with
        | some c =>
          have hactive' (strict : Bool) : (p.withStrict strict).active = some c := hactive
          refine .inl ⟨.functionDoc c.name f.name, by simp, fun strict => Prod.ext ?_ (hstate strict)⟩
          simp only [readBlock, hclass, hfunction, hactive']
        | none =>
          have hactive' (strict : Bool) : (p.withStrict strict).active = none := hactive
          have hcall : (Call.block block).function? = some f := by
            simp only [Call.function?, hclass, hfunction]
          refine .inr ⟨.functionWithoutClass f.name,
            .functionWithoutClass hcall (hactive' false) ?_, ?_⟩
          · simp only [readBlock, hclass, hfunction, hactive']
            rfl
          · simp only [readBlock, hclass, hfunction, hactive']
            rfl

theorem ReadsAll.allCount {p : Pass} {calls : List Call} (h : (p.withStrict true).ReadsAll calls) :
    (p.withStrict false).AllCount calls := by
  intro before block after heq
  obtain ⟨reading, hread⟩ := h before block after heq
  rw [run_withStrict] at hread ⊢
  obtain ⟨reading', hcounts, hboth⟩ | ⟨e, -, herror⟩ := readBlock_withStrict_cases (p.run before) block
  · exact ⟨reading', by rw [hboth false], hcounts⟩
  · rw [hread] at herror
    cases herror

/-- Blocks that a strict pass reads all count, and a lenient pass reads them alike. -/
theorem readBlocks_strict_ok {p q : Pass} {blocks : List Text} {n : Nat}
    (h : (p.withStrict true).readBlocks blocks = (.ok n, q)) :
    n = blocks.length ∧ q = (p.run (blocks.map .block)).withStrict true ∧
      (p.withStrict false).readBlocks blocks = (.ok n, (p.run (blocks.map .block)).withStrict false) := by
  induction blocks generalizing p n with
  | nil =>
    cases h
    exact ⟨rfl, rfl, rfl⟩
  | cons block rest ih =>
    obtain ⟨reading, m, hblock, hrest, rfl⟩ := readBlocks_cons_eq_ok_iff.1 h
    obtain ⟨reading', hcounts, hboth⟩ | ⟨e, -, herror⟩ := readBlock_withStrict_cases p block
    · obtain rfl : reading' = reading := by simpa [hboth true] using hblock
      have hone : reading'.count = 1 := by cases reading' <;> simp_all [Reading.count]
      rw [call_withStrict] at hrest
      obtain ⟨rfl, hq, hlenient⟩ := ih hrest
      refine ⟨by rw [hone, List.length_cons, Nat.add_comm], hq, ?_⟩
      refine readBlocks_cons_eq_ok_iff.2 ⟨reading', rest.length, by rw [hboth false], ?_, rfl⟩
      rw [call_withStrict]
      exact hlenient
    · rw [hblock] at herror
      cases herror

theorem takeIn_strict_ok {p q : Pass} {intakes : List Intake} {counts : List Nat}
    (h : (p.withStrict true).takeIn intakes = (.ok counts, q)) :
    counts = intakes.filterMap (·.blockCount?) ∧
      (p.withStrict false).takeIn intakes = (.ok counts, q.withStrict false) := by
  induction intakes generalizing p counts with
  | nil =>
    cases h
    exact ⟨rfl, rfl⟩
  | cons intake rest ih =>
    cases intake with
    | leave => exact ih (p := p.leaveClass) h
    | source text =>
      rw [takeIn] at h
      split at h
      · cases h
      · next n q' hsource =>
        obtain ⟨rfl, rfl, hlenient⟩ := readBlocks_strict_ok hsource
        split at h
        · cases h
        · next more q'' hrest =>
          cases h
          obtain ⟨rfl, hlenientRest⟩ := ih hrest
          refine ⟨rfl, ?_⟩
          rw [takeIn, readSource, hlenient]
          dsimp only
          rw [hlenientRest]

/-- What is taken in is refused at the first block that is, wherever the sources end. -/
theorem takeIn_error {p q : Pass} {intakes : List Intake} {e : ParseError}
    (h : p.takeIn intakes = (.error e, q)) :
    ∃ before block after, intakes.flatMap (·.calls) = before ++ .block block :: after ∧
      p.ReadsAll before ∧ q = p.run before ∧ (q.readBlock block).1 = .error e := by
  induction intakes generalizing p with
  | nil => cases h
  | cons intake rest ih =>
    rw [List.flatMap_cons]
    cases intake with
    | leave =>
      obtain ⟨before, block, after, hcalls, hreads, hq, herror⟩ := ih (p := p.leaveClass) h
      refine ⟨.leave :: before, block, after, ?_, readsAll_leave_cons.2 hreads, hq, herror⟩
      rw [hcalls]
      rfl
    | source text =>
      rw [takeIn] at h
      split at h
      · next e' q' hsource =>
        cases h
        obtain ⟨done, block, more, htexts, hreads, hq, herror⟩ := exists_first_refused hsource
        refine ⟨done.map .block, block, more.map .block ++ rest.flatMap (·.calls), ?_, hreads, hq, herror⟩
        simp [Intake.calls, htexts]
      · next n q' hsource =>
        split at h
        · next e' q'' hrest =>
          cases h
          obtain ⟨before, block, after, hcalls, hreads, hq, herror⟩ := ih hrest
          obtain ⟨rfl, -⟩ := readBlocks_ok hsource
          refine ⟨Intake.calls (.source text) ++ before, block, after, ?_, ?_, ?_, herror⟩
          · rw [hcalls, List.append_assoc]
          · exact readsAll_append.2 ⟨readsAll_of_readBlocks_ok hsource, hreads⟩
          · rw [run_append]
            exact hq
        · cases h

/-- Strictness only refuses. Where a strict pass takes everything in, a lenient one does so with the
    same counts, classes and active class, and every block counts. Where it does not, it stops at the
    first block that the lenient pass ignores or refuses, in the state that the lenient pass has
    there, and says why. -/
theorem strict_only_refuses (p : Pass) (intakes : List Intake) :
    (∀ counts q, (p.withStrict true).takeIn intakes = (.ok counts, q) →
      (p.withStrict false).takeIn intakes = (.ok counts, q.withStrict false) ∧
      counts = intakes.filterMap (·.blockCount?)) ∧
    (∀ e q, (p.withStrict true).takeIn intakes = (.error e, q) →
      ∃ before block after, intakes.flatMap (·.calls) = before ++ .block block :: after ∧
        (p.withStrict false).AllCount before ∧
        ((p.withStrict false).run before).RefusedAs block e ∧
        q = ((p.withStrict false).run before).withStrict true) := by
  refine ⟨fun counts q h => (takeIn_strict_ok h).symm, ?_⟩
  intro e q h
  obtain ⟨before, block, after, hcalls, hreads, rfl, herror⟩ := takeIn_error h
  refine ⟨before, block, after, hcalls, hreads.allCount, ?_, ?_⟩
  · rw [run_withStrict] at herror ⊢
    obtain ⟨reading, -, hboth⟩ | ⟨e', hrefused, herror'⟩ := readBlock_withStrict_cases (p.run before) block
    · rw [hboth true] at herror
      cases herror
    · rw [herror] at herror'
      cases herror'
      exact hrefused
  · rw [run_withStrict, run_withStrict]
    rfl

/-- A class with a function in one source, and a function in a source of its own. -/
def twoSources : List Intake :=
  [.source "###*\n@class C\n###\n###*\n@method a\n###".toList, .source "###*\n@method b\n###".toList]

/-- The same sources with a leave between them. -/
def twoSourcesApart : List Intake :=
  twoSources.intersperse .leave

theorem strict_only_refuses_twoSources :
    (∃ q, ((start false).withStrict true).takeIn twoSources = (.ok [2, 1], q) ∧
      ((start false).withStrict false).takeIn twoSources = (.ok [2, 1], q.withStrict false)) ∧
    ∃ q before block,
      ((start false).withStrict true).takeIn twoSourcesApart = (.error (.functionWithoutClass "b".toList), q) ∧
      (((start false).withStrict false).run before).RefusedAs block (.functionWithoutClass "b".toList) ∧
      q = (((start false).withStrict false).run before).withStrict true := by
  constructor
  · have hcounts : (((start false).withStrict true).takeIn twoSources).1.toOption = some [2, 1] := by
      decide +kernel
    rcases hread : ((start false).withStrict true).takeIn twoSources with ⟨answer, q⟩
    rw [hread] at hcounts
    cases answer with
    | error e => cases hcounts
    | ok counts =>
      obtain rfl : counts = [2, 1] := Option.some.inj hcounts
      exact ⟨q, rfl, ((strict_only_refuses (start false) twoSources).1 [2, 1] q hread).1⟩
  · have hrefused : (match (((start false).withStrict true).takeIn twoSourcesApart).1 with
        | .ok _ => none
        | .error e => some e) = some (.functionWithoutClass "b".toList) := by
      decide +kernel
    rcases hread : ((start false).withStrict true).takeIn twoSourcesApart with ⟨answer, q⟩
    rw [hread] at hrefused
    cases answer with
    | ok counts => cases hrefused
    | error e =>
      obtain rfl : e = .functionWithoutClass "b".toList := Option.some.inj hrefused
      obtain ⟨before, block, -, -, -, hrefusedAs, hq⟩ :=
        (strict_only_refuses (start false) twoSourcesApart).2 _ q hread
      exact ⟨q, before, block, rfl, hrefusedAs, hq⟩

end Pass

end ApiGuide
