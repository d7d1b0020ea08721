import ApiGuide.Block
import ApiGuide.Parse

/-!
One pass over documentation blocks.

A function belongs to the class documented last before it. A pass therefore keeps its classes and
the position of the one that still takes functions.
-/

namespace ApiGuide

/-- Adds a function to a class, which becomes its owner. -/
def ClassDoc.addFunction (c : ClassDoc) (f : FunctionDoc) : ClassDoc :=
  { c with functions := c.functions ++ [{ f with owner := c.name }] }

/-- The state of a pass: its classes in the order of their documentation, the position of the active
    class, which takes functions, and whether blocks that would be skipped are refused. -/
structure Pass where
  classes : List ClassDoc := []
  position : Option Nat := none
  strict : Bool := false
  position_lt : ∀ i ∈ position, i < classes.length := by simp

/-- What became of a block. -/
inductive Reading
  | classDoc (name : Text)
  | functionDoc (owner name : Text)
  | ignored
  deriving DecidableEq

/-- A block counts unless it was ignored. -/
def Reading.count : Reading → Nat
  | .ignored => 0
  | _ => 1

namespace Pass

/-- The state before any block. -/
def start (strict : Bool) : Pass :=
  { strict }

/-- The active class. -/
def active (p : Pass) : Option ClassDoc :=
  p.position.pmap (fun i h => p.classes.get ⟨i, h⟩) p.position_lt

/-- Leaves the active class, so that the next function needs a class of its own. -/
def leaveClass (p : Pass) : Pass :=
  { p with position := none, position_lt := by simp }

/-- Starts a class, which becomes the active one. -/
def enterClass (p : Pass) (c : ClassDoc) : Pass :=
  { p with
    classes := p.classes ++ [c]
    position := some p.classes.length
    position_lt := by simp }

/-- Gives a function to the active class, if there is one. -/
def attach (p : Pass) (f : FunctionDoc) : Pass :=
  match p.position with
  | some i =>
    { p with
      classes := p.classes.modify i (·.addFunction f)
      position_lt := by simpa using p.position_lt }
  | none => p

/-- Reads one block. A refused block leaves the pass as it was. -/
def readBlock (p : Pass) (block : Text) : Except ParseError Reading × Pass :=
  match ClassDoc.parse? block with
  | some c => (.ok (.classDoc c.name), p.enterClass c)
  | none =>
    match FunctionDoc.parse? block with
    | .error e => (.error e, p)
    | .ok (some f) =>
      match p.active with
      | some c => (.ok (.functionDoc c.name f.name), p.attach f)
      | none => if p.strict then (.error (.functionWithoutClass f.name), p) else (.ok .ignored, p)
    | .ok none => if p.strict then (.error (.unrecognizedBlock block), p) else (.ok .ignored, p)

/-- Reads blocks up to the first that is refused. Gives the number of blocks that counted. -/
def readBlocks (p : Pass) : List Text → Except ParseError Nat × Pass
  | [] => (.ok 0, p)
  | block :: rest =>
    match p.readBlock block with
    | (.error e, p') => (.error e, p')
    | (.ok reading, p') =>
      match p'.readBlocks rest with
      | (.error e, p'') => (.error e, p'')
      | (.ok n, p'') => (.ok (reading.count + n), p'')

/-- Reads all blocks of a source text. -/
def readSource (p : Pass) (source : Text) : Except ParseError Nat × Pass :=
  p.readBlocks (Block.texts source)

end Pass

end ApiGuide
