import ApiGuide.Text.Quoted

/-!
What can be wrong with a documentation block.
-/

namespace ApiGuide

/-- Why a block is refused. -/
inductive ParseError
  /-- A parameter has no name that can be read. -/
  | invalidParam (param block : Text)
  /-- A function comes before any class, in a strict pass. -/
  | functionWithoutClass (function : Text)
  /-- A block documents neither a class nor a function, in a strict pass. -/
  | unrecognizedBlock (block : Text)
  deriving DecidableEq

/-- The wording of a parse error. -/
def ParseError.message : ParseError → Text
  | .invalidParam param block =>
    "cannot parse parameter name in ".toList ++ Text.quoted param ++ " (block: ".toList
      ++ Text.quoted block ++ ")".toList
  | .functionWithoutClass function =>
    "function ".toList ++ function ++ " is documented before any class".toList
  | .unrecognizedBlock block =>
    "block has neither a class nor a function marker: ".toList ++ Text.quoted block

end ApiGuide
