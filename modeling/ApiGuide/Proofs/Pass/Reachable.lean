import ApiGuide.Proofs.Parse.WellFormed
import ApiGuide.Proofs.Pass.Refusal

/-!
Everything in a pass is well-formed, in every state that a pass can come to.
-/

namespace ApiGuide

theorem Call.wellFormed_of_class? {call : Call} {c : ClassDoc} (h : call.class? = some c) : c.WellFormed := by
  cases call with
  | block text => exact ClassDoc.parse?_wellFormed h
  | leave => cases h

theorem Call.wellFormed_of_function? {call : Call} {f : FunctionDoc} (h : call.function? = some f) :
    f.WellFormed := by
  cases call with
  | block text =>
    rw [function?] at h
    split at h
    · next hfunction =>
      cases h
      exact FunctionDoc.parse?_wellFormed hfunction
    · cases h
  | leave => cases h

theorem ClassDoc.WellFormed.addFunction {c : ClassDoc} (hc : c.WellFormed) {f : FunctionDoc}
    (hf : f.WellFormed) : (c.addFunction f).WellFormed := by
  refine ⟨hc.name, ?_⟩
  intro g hg
  rcases List.mem_append.1 hg with hold | hnew
  · exact hc.functions g hold
  · obtain rfl := List.mem_singleton.1 hnew
    exact ⟨hf.name, hf.params⟩

namespace Pass

/-- All classes of the pass are well-formed. -/
def WellFormed (p : Pass) : Prop :=
  ∀ c ∈ p.classes, c.WellFormed

theorem WellFormed.enterClass {p : Pass} (hp : p.WellFormed) {c : ClassDoc} (hc : c.WellFormed) :
    (p.enterClass c).WellFormed := by
  intro d hd
  rcases List.mem_append.1 hd with hold | hnew
  · exact hp d hold
  · obtain rfl := List.mem_singleton.1 hnew
    exact hc

theorem WellFormed.attach {p : Pass} (hp : p.WellFormed) {f : FunctionDoc} (hf : f.WellFormed) :
    (p.attach f).WellFormed := by
  unfold Pass.attach
  split
  · next i hposition =>
    obtain ⟨before, c, after, hclasses, -, hmodify⟩ :=
      List.exists_of_modify (·.addFunction f) (p.position_lt i hposition)
    have hc : c.WellFormed := hp c (by simp [hclasses])
    intro d hd
    simp only [hmodify, List.mem_append, List.mem_cons] at hd
    rcases hd with hbefore | rfl | hafter
    · exact hp d (by simp [hclasses, hbefore])
    · exact hc.addFunction hf
    · exact hp d (by simp [hclasses, hafter])
  · exact hp

theorem WellFormed.call {p : Pass} (hp : p.WellFormed) (call : Call) : (p.call call).WellFormed := by
  obtain ⟨c, hclass, -, -, hcall⟩ | ⟨-, hcall⟩ | ⟨f, -, -, hfunction, -, hcall⟩ | ⟨-, -, -, -, hcall⟩ :=
    call_cases p call
  · rw [hcall]
    exact hp.enterClass (Call.wellFormed_of_class? hclass)
  · rw [hcall]
    exact hp
  · rw [hcall]
    exact hp.attach (Call.wellFormed_of_function? hfunction)
  · rw [hcall]
    exact hp

theorem WellFormed.run {p : Pass} (hp : p.WellFormed) (calls : List Call) : (p.run calls).WellFormed := by
  induction calls generalizing p with
  | nil => exact hp
  | cons call rest ih => exact ih (hp.call call)

/-- Blocks lead where the first of them lead as single calls: all of them, or those before the first
    that is refused. -/
theorem exists_run_of_readBlocks (p : Pass) (blocks : List Text) :
    ∃ done, done <+: blocks ∧ (p.readBlocks blocks).2 = p.run (done.map .block) := by
  rcases hread : p.readBlocks blocks with ⟨e | n, after⟩
  · obtain ⟨done, block, rest, rfl, -, hafter, -⟩ := exists_first_refused hread
    exact ⟨done, List.prefix_append done _, hafter⟩
  · exact ⟨blocks, List.prefix_rfl, (readBlocks_ok hread).1⟩

/-- The states that a pass can come to, from its start, by reading sources and single blocks, whether
    they are refused or not, and by leaving the active class. -/
inductive Reachable (strict : Bool) : Pass → Prop
  | start : Reachable strict (start strict)
  | block {p : Pass} (h : Reachable strict p) (text : Text) : Reachable strict (p.readBlock text).2
  | source {p : Pass} (h : Reachable strict p) (text : Text) : Reachable strict (p.readSource text).2
  | leave {p : Pass} (h : Reachable strict p) : Reachable strict p.leaveClass

/-- In every state that a pass can come to, all classes are well-formed, with all their functions and
    the parameters of those. -/
theorem classes_wellFormed_of_reachable {strict : Bool} {p : Pass} (h : Reachable strict p) :
    ∀ c ∈ p.classes, c.WellFormed := by
  have hp : p.WellFormed := by
    induction h with
    | start =>
      intro c hc
      cases hc
    | block _ text ih => exact ih.call (.block text)
    | @source q _ text ih =>
      obtain ⟨done, -, hdone⟩ := q.exists_run_of_readBlocks (Block.texts text)
      rw [readSource, hdone]
      exact ih.run _
    | leave _ ih => exact ih
  exact hp

/-- A class, a function with an optional and a required parameter, and a function with a parameter that
    has no name. -/
def brokenLastSource : Text :=
  ("###*\n@class  up.link \n###\n###*\n@method up.follow\n@param {String} [target = 'a[href]' ]\n"
    ++ "@param url\n  the address \n###\n###*\n@method up.visit\n@param {String}\n###").toList

theorem brokenLastSource_wellFormed :
    ((start true).readSource brokenLastSource).1.toOption = none ∧
    ∃ c f, ((start true).readSource brokenLastSource).2.classes = [c] ∧ c.name = "up.link".toList ∧
      c.functions = [f] ∧ f.params.map (·.default) = [some "'a[href]'".toList, none] ∧ c.WellFormed := by
  have hreachable : Reachable true ((start true).readSource brokenLastSource).2 :=
    .source .start brokenLastSource
  have hclasses : ((start true).readSource brokenLastSource).2.classes =
      [{ name := "up.link".toList
         functions := [{ name := "up.follow".toList
                         params := [⟨"target".toList, true, some "'a[href]'".toList, ["String".toList], []⟩,
                           ⟨"url".toList, false, none, [], "the address".toList⟩]
                         prose := ['\n']
                         owner := "up.link".toList }] }] := by
    decide +kernel
  refine ⟨by decide +kernel, _, _, hclasses, rfl, rfl, rfl, ?_⟩
  exact classes_wellFormed_of_reachable hreachable _ (by simp [hclasses])

end Pass

end ApiGuide
