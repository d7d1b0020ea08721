import ApiGuide.Proofs.Block.Concat
import ApiGuide.Proofs.Pass.Strict
import Mathlib.Algebra.Ring.Nat

/-!
How documented text is split into sources does not matter.

A pass goes from block to block and carries all it knows along, so it meets the end of a source only
through the blocks found there. Closed sources have the blocks of their concatenation.
-/

namespace ApiGuide.Pass

theorem readBlocks_append (p : Pass) (blocks more : List Text) :
    p.readBlocks (blocks ++ more) =
      match p.readBlocks blocks with
      | (.error e, q) => (.error e, q)
      | (.ok n, q) => ((q.readBlocks more).1.map (n + ·), (q.readBlocks more).2) := by
  induction blocks generalizing p with
  | nil =>
    rcases hmore : p.readBlocks more with ⟨_ | m, q⟩
    · simp [readBlocks, hmore, Except.map]
    · simp [readBlocks, hmore, Except.map]
  | cons block blocks ih =>
    rw [List.cons_append, readBlocks, readBlocks]
    rcases p.readBlock block with ⟨_ | reading, p'⟩
    · rfl
    · dsimp only
      rw [ih]
      rcases p'.readBlocks blocks with ⟨_ | n, p''⟩
      · rfl
      · dsimp only
        rcases p''.readBlocks more with ⟨_ | m, q⟩
        · rfl
        · simp [Except.map, Nat.add_assoc]

/-- Sources taken in one after the other are read like their blocks in one row. -/
theorem readBlocks_flatMap_texts (p : Pass) (sources : List Text) :
    p.readBlocks (sources.flatMap Block.texts) =
      ((p.takeIn (sources.map .source)).1.map List.sum, (p.takeIn (sources.map .source)).2) := by
  induction sources generalizing p with
  | nil => rfl
  | cons source rest ih =>
    rw [List.flatMap_cons, readBlocks_append, List.map_cons, takeIn, readSource]
    rcases p.readBlocks (Block.texts source) with ⟨_ | n, q⟩
    · rfl
    · dsimp only
      rw [ih]
      rcases q.takeIn (rest.map .source) with ⟨_ | counts, q'⟩
      · rfl
      · simp [Except.map]

/-- Closed sources taken in one after the other, up to the first that is refused, lead to the same
    state as their concatenation, with the same error or with counts that add up to its count. -/
theorem readSource_flatten (p : Pass) (sources : List Text)
    (hclosed : ∀ source ∈ sources, Block.Closed source) :
    p.readSource sources.flatten =
      ((p.takeIn (sources.map .source)).1.map List.sum, (p.takeIn (sources.map .source)).2) := by
  rw [readSource, Block.texts_flatten hclosed, readBlocks_flatMap_texts]

/-- A class after a line of code, with a carriage return in its last line. -/
def classFile : Text :=
  "up = 0\n###*\n@class C\n###\r\n".toList

/-- A function before a line of code. -/
def functionFile : Text :=
  "###*\n@method m\n###\nup.m = 1\n".toList

theorem closed_classFile : Block.Closed classFile :=
  Block.closed_of_part ⟨"up = 0\n".toList, "###*\n".toList, "@class C\n".toList, "###\n".toList⟩ []
    (by decide) (by decide) (by decide) (by decide)

theorem closed_functionFile : Block.Closed functionFile :=
  Block.closed_of_part ⟨[], "###*\n".toList, "@method m\n".toList, "###\n".toList⟩ "up.m = 1\n".toList
    (by decide) (by decide) (by decide) (by decide)

theorem readSource_classFile_functionFile :
    (∀ source ∈ [classFile, functionFile], Block.Closed source) ∧
    ((start true).takeIn [.source classFile, .source functionFile]).1.toOption = some [1, 1] ∧
    ((start true).takeIn [.source classFile, .source functionFile]).2.classes =
      [{ name := "C".toList, functions := [{ name := "m".toList, owner := "C".toList }] }] ∧
    (start true).readSource (classFile ++ functionFile) =
      (((start true).takeIn [.source classFile, .source functionFile]).1.map List.sum,
        ((start true).takeIn [.source classFile, .source functionFile]).2) := by
  have hclosed : ∀ source ∈ [classFile, functionFile], Block.Closed source := by
    simp [closed_classFile, closed_functionFile]
  refine ⟨hclosed, by decide +kernel, by decide +kernel, ?_⟩
  have hread := readSource_flatten (start true) [classFile, functionFile] hclosed
  rwa [List.flatten_cons, List.flatten_singleton] at hread

end ApiGuide.Pass
