import ApiGuide.Proofs.Pass.Run

/-!
What a refusal leaves behind.

A refused block changes nothing. A refused source therefore leaves the pass where the blocks before
the refused one brought it, and the blocks after that one have no say.
-/

namespace ApiGuide.Pass

/-- Every block among the calls is read, in the state that the calls before it lead to. -/
def ReadsAll (p : Pass) (calls : List Call) : Prop :=
  ∀ before block after, calls = before ++ .block block :: after →
    ∃ reading, ((p.run before).readBlock block).1 = .ok reading

theorem readsAll_nil (p : Pass) : p.ReadsAll [] := by
  intro before block after h
  simp at h

theorem readsAll_cons {p : Pass} {call : Call} {rest : List Call} :
    p.ReadsAll (call :: rest) ↔
      (∀ block, call = .block block → ∃ reading, (p.readBlock block).1 = .ok reading) ∧
        (p.call call).ReadsAll rest := by
  constructor
  · intro h
    refine ⟨?_, ?_⟩
    · rintro block rfl
      exact h [] block rest rfl
    · rintro before block after rfl
      exact h (call :: before) block after rfl
  · rintro ⟨hhead, hrest⟩ before block after heq
    cases before with
    | nil =>
      obtain ⟨rfl, rfl⟩ : call = .block block ∧ rest = after := by simpa using heq
      exact hhead block rfl
    | cons b before =>
      obtain ⟨rfl, rfl⟩ : call = b ∧ rest = before ++ .block block :: after := by simpa using heq
      exact hrest before block after rfl

theorem readsAll_block_cons {p : Pass} {block : Text} {rest : List Call} :
    p.ReadsAll (.block block :: rest) ↔
      (∃ reading, (p.readBlock block).1 = .ok reading) ∧ (p.call (.block block)).ReadsAll rest := by
  simp [readsAll_cons]

theorem readsAll_leave_cons {p : Pass} {rest : List Call} :
    p.ReadsAll (.leave :: rest) ↔ p.leaveClass.ReadsAll rest := by
  simp [readsAll_cons, Pass.call]

theorem readsAll_append {p : Pass} {calls more : List Call} :
    p.ReadsAll (calls ++ more) ↔ p.ReadsAll calls ∧ (p.run calls).ReadsAll more := by
  induction calls generalizing p with
  | nil => simp [readsAll_nil]
  | cons call rest ih => rw [List.cons_append, readsAll_cons, ih, readsAll_cons, run_cons, and_assoc]

theorem readBlock_error {p q : Pass} {block : Text} {e : ParseError}
    (h : p.readBlock block = (.error e, q)) : q = p := by
  unfold readBlock at h
  split at h
  · cases h
  · split at h
    · cases h
      rfl
    · split at h
      · cases h
      · split at h <;> cases h
        rfl
    · split at h <;> cases h
      rfl

theorem readBlock_eq_of_error {p : Pass} {block : Text} {e : ParseError}
    (h : (p.readBlock block).1 = .error e) : p.readBlock block = (.error e, p) := by
  have hblock : p.readBlock block = (.error e, (p.readBlock block).2) := Prod.ext h rfl
  have hstate := readBlock_error hblock
  rwa [hstate] at hblock

theorem readBlocks_cons_eq_error_iff {p q : Pass} {first : Text} {blocks : List Text} {e : ParseError} :
    p.readBlocks (first :: blocks) = (.error e, q) ↔
      p.readBlock first = (.error e, q) ∨
        ∃ reading, (p.readBlock first).1 = .ok reading ∧
          (p.call (.block first)).readBlocks blocks = (.error e, q) := by
  rw [readBlocks, Pass.call]
  rcases p.readBlock first with ⟨_ | reading, p'⟩
  · simp
  · dsimp only
    rcases p'.readBlocks blocks with ⟨_ | n, p''⟩ <;> simp

theorem readsAll_of_readBlocks_ok {p q : Pass} {blocks : List Text} {n : Nat}
    (h : p.readBlocks blocks = (.ok n, q)) : p.ReadsAll (blocks.map .block) := by
  induction blocks generalizing p n with
  | nil => exact readsAll_nil p
  | cons block rest ih =>
    obtain ⟨reading, m, hblock, hrest, -⟩ := readBlocks_cons_eq_ok_iff.1 h
    exact readsAll_block_cons.2 ⟨⟨reading, hblock⟩, ih hrest⟩

/-- Blocks are refused by the first of them that is: those before it are all read, and it meets the
    state that they lead to. -/
theorem exists_first_refused {p q : Pass} {blocks : List Text} {e : ParseError}
    (h : p.readBlocks blocks = (.error e, q)) :
    ∃ done block rest, blocks = done ++ block :: rest ∧ p.ReadsAll (done.map .block) ∧
      q = p.run (done.map .block) ∧ (q.readBlock block).1 = .error e := by
  induction blocks generalizing p with
  | nil => cases h
  | cons first blocks ih =>
    obtain hfirst | ⟨reading, hfirst, hrest⟩ := readBlocks_cons_eq_error_iff.1 h
    · obtain rfl := readBlock_error hfirst
      exact ⟨[], first, blocks, rfl, readsAll_nil q, rfl, by rw [hfirst]⟩
    · obtain ⟨done, block, rest, rfl, hreads, hq, herror⟩ := ih hrest
      exact ⟨first :: done, block, rest, rfl, readsAll_block_cons.2 ⟨⟨reading, hfirst⟩, hreads⟩, hq, herror⟩

theorem readBlocks_of_first_refused {p : Pass} {done : List Text} {block : Text} {e : ParseError}
    (hreads : p.ReadsAll (done.map .block))
    (herror : ((p.run (done.map .block)).readBlock block).1 = .error e) (rest : List Text) :
    p.readBlocks (done ++ block :: rest) = (.error e, p.run (done.map .block)) := by
  induction done generalizing p with
  | nil => exact readBlocks_cons_eq_error_iff.2 (.inl (readBlock_eq_of_error herror))
  | cons first done ih =>
    obtain ⟨⟨reading, hread⟩, hrest⟩ := readsAll_block_cons.1 hreads
    exact readBlocks_cons_eq_error_iff.2 (.inr ⟨reading, hread, ih hrest herror⟩)

/-- A refused block leaves the pass as it was. A refused source has a first refused block, ends in
    the state after the blocks before it, and any source that starts with the same blocks up to that
    one is refused alike. -/
theorem refusal_keeps_pass (p : Pass) :
    (∀ block e q, p.readBlock block = (.error e, q) → q = p) ∧
    (∀ source e q, p.readSource source = (.error e, q) →
      ∃ done block rest, Block.texts source = done ++ block :: rest ∧
        p.ReadsAll (done.map .block) ∧ q = p.run (done.map .block) ∧
        (q.readBlock block).1 = .error e ∧
        ∀ other, done ++ [block] <+: Block.texts other → p.readSource other = (.error e, q)) := by
  refine ⟨fun block e q h => readBlock_error h, ?_⟩
  intro source e q h
  obtain ⟨done, block, rest, htexts, hreads, rfl, herror⟩ := exists_first_refused h
  refine ⟨done, block, rest, htexts, hreads, rfl, herror, ?_⟩
  rintro other ⟨more, hother⟩
  rw [readSource, ← hother, List.append_assoc, List.singleton_append]
  exact readBlocks_of_first_refused hreads herror more

/-- A class, a function with a parameter that has no name, and another class. -/
def namelessParamSource : Text :=
  "###*\n@class C\n###\n###*\n@method m\n@param {String}\n###\n###*\n@class D\n###".toList

/-- The same source with one more class at its end. -/
def longerParamSource : Text :=
  namelessParamSource ++ "\n###*\n@class E\n###".toList

theorem refusal_keeps_pass_namelessParam :
    ∃ e q done block rest, (start true).readSource namelessParamSource = (.error e, q) ∧
      q.classes = [{ name := "C".toList }] ∧
      Block.texts namelessParamSource = done ++ block :: rest ∧
      q = (start true).run (done.map .block) ∧ q.readBlock block = (.error e, q) ∧
      (start true).readSource longerParamSource = (.error e, q) := by
  have hrefused : ((start true).readSource namelessParamSource).1.toOption = none := by decide +kernel
  have hclasses : ((start true).readSource namelessParamSource).2.classes = [{ name := "C".toList }] := by
    decide +kernel
  have hlonger : Block.texts longerParamSource = Block.texts namelessParamSource ++ ["@class E".toList] := by
    decide +kernel
  rcases hread : (start true).readSource namelessParamSource with ⟨answer, q⟩
  rw [hread] at hrefused hclasses
  cases answer with
  | ok n => cases hrefused
  | error e =>
    obtain ⟨done, block, rest, htexts, -, hq, herror, hother⟩ :=
      (refusal_keeps_pass (start true)).2 namelessParamSource e q hread
    have hblock : q.readBlock block = (.error e, (q.readBlock block).2) := Prod.ext herror rfl
    have hstate := (refusal_keeps_pass q).1 block e _ hblock
    rw [hstate] at hblock
    refine ⟨e, q, done, block, rest, rfl, hclasses, htexts, hq, hblock, hother longerParamSource ?_⟩
    rw [hlonger, htexts]
    exact ⟨rest ++ ["@class E".toList], by simp⟩

end ApiGuide.Pass
