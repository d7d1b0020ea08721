import ApiGuide.Marker.Keyword
import ApiGuide.Marker.Name
import ApiGuide.Marker.ParamGroup
import ApiGuide.Marker.ParamName
import ApiGuide.Marker.Types
import ApiGuide.ParseError
import ApiGuide.Text.Unindent

/-!
Classes, functions and parameters read from the text of a block.

Markers are cut out one after the other, and whatever remains is the prose.
-/

namespace ApiGuide

open Text Marker

/-- Reads a parameter from the text of its group. `block` is the text that a refusal shows. -/
def ParamDoc.parse (group block : Text) : Except ParseError ParamDoc :=
  let spec := trimStart group
  let (types, rest) := takeTypes spec
  match paramName? rest with
  | none => .error (.invalidParam (trim spec) block)
  | some (name, rest) =>
    .ok {
      name := name.name
      optional := name.optional
      default := name.default
      types := types
      prose := trim (unindentHanging rest) }

/-- Reads the parameter groups of a text, in order, up to the first that is refused. Gives the
    parameters and the text outside of the groups. -/
def ParamDoc.parseAll (block t : Text) : Except ParseError (List ParamDoc × Text) :=
  match _h : paramGroup? t with
  | none => .ok ([], t)
  | some (group, outside) =>
    match ParamDoc.parse group block with
    | .error e => .error e
    | .ok param =>
      match ParamDoc.parseAll block outside with
      | .error e => .error e
      | .ok (params, rest) => .ok (param :: params, rest)
termination_by t.length
decreasing_by exact length_lt_of_paramGroup? _h

/-- Reads a class from a block with a class marker. -/
def ClassDoc.parse? (block : Text) : Option ClassDoc :=
  match className? block with
  | none => none
  | some (name, rest) =>
    let (visibility, prose) := takeVisibility rest
    some { name, visibility, prose }

/-- Reads a function from a block with a function marker. It belongs to no class yet. -/
def FunctionDoc.parse? (block : Text) : Except ParseError (Option FunctionDoc) :=
  match functionName? block with
  | none => .ok none
  | some (name, rest) =>
    let (visibility, rest) := takeVisibility rest
    match ParamDoc.parseAll block rest with
    | .error e => .error e
    | .ok (params, rest) =>
      let (ujs, prose) := takeUjs rest
      .ok (some { name, visibility, params, ujs, prose })

end ApiGuide
