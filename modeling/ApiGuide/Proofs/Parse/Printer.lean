import ApiGuide.Parse

/-!
Functions and parameters written as documentation blocks, and the conditions under which what is
written can be told apart again.
-/

namespace ApiGuide

open Text Marker

/-- A run of blanks that moves a line to the right. -/
def IsIndent (run : Text) : Prop :=
  run ≠ [] ∧ allBlank run

namespace ParamDoc

/-- The types in braces, with pipes between them. -/
def printTypes (types : List Text) : Text :=
  if types = [] then [] else " \x7b".toList ++ joinWith ['|'] types ++ ['\x7d']

/-- The name, in brackets if it is optional, with its default if it has one. -/
def printName (p : ParamDoc) : Text :=
  match p.optional, p.default with
  | false, _ => p.name
  | true, none => '[' :: p.name ++ [']']
  | true, some d => '[' :: p.name ++ '=' :: d ++ [']']

/-- The lines of the prose. -/
def proseLines (p : ParamDoc) : List Text :=
  if p.prose = [] then [] else splitOn '\n' p.prose

/-- The marker line of the parameter and then its prose, moved to the right. -/
def print (run : Text) (p : ParamDoc) : Text :=
  paramKeyword ++ printTypes p.types ++ ' ' :: p.printName ++ '\n' ::
    (p.proseLines.map fun line => run ++ line ++ ['\n']).flatten

/-- Printed parameters one after the other, each with a run of its own. -/
def printAll (run : Nat → Text) (params : List ParamDoc) : Text :=
  (params.mapIdx fun i p => p.print (run i)).flatten

end ParamDoc

/-- The function as a block. -/
def FunctionDoc.print (run : Nat → Text) (f : FunctionDoc) : Text :=
  "@method ".toList ++ f.name ++ '\n' :: '@' :: f.visibility.keyword ++ '\n' ::
    ParamDoc.printAll run f.params ++ (if f.ujs then "@ujs\n".toList else []) ++ f.prose

/-- Characters outside of brackets, and bracket groups without brackets in them, all on one line. -/
inductive IsDefault : Text → Prop
  | nil : IsDefault []
  | char {c : Char} {d : Text} : c ≠ '[' → c ≠ ']' → c ≠ '\n' → IsDefault d → IsDefault (c :: d)
  | group {inside d : Text} : (∀ c ∈ inside, c ≠ '[' ∧ c ≠ ']' ∧ c ≠ '\n') → IsDefault d →
      IsDefault ('[' :: inside ++ ']' :: d)

theorem IsDefault.break_not_mem {d : Text} (h : IsDefault d) : '\n' ∉ d := by
  induction h with
  | nil => simp
  | char _ _ hbreak _ ih => simp [Ne.symm hbreak, ih]
  | @group inside _ hinside _ ih =>
    have hno : '\n' ∉ inside := fun hmem => (hinside '\n' hmem).2.2 rfl
    simp [hno, ih]

/-- A type that a type list can hold. -/
structure IsType (t : Text) : Prop where
  ne_nil : t ≠ []
  trimmed : trim t = t
  one_line : '\n' ∉ t
  no_pipe : '|' ∉ t
  no_brace : '\x7d' ∉ t

/-- A parameter that its marker line and its prose can show. -/
structure ParamDoc.Printable (p : ParamDoc) : Prop where
  name_ne_nil : p.name ≠ []
  name_chars : ∀ c ∈ p.name, isWhitespace c = false ∧ c ≠ '[' ∧ c ≠ ']'
  name_of_optional : p.optional = true → '=' ∉ p.name
  name_of_required : p.optional = false → p.types = [] → p.name.head? ≠ some '\x7b'
  types : ∀ t ∈ p.types, IsType t
  default_optional : ∀ d ∈ p.default, p.optional = true
  default_text : ∀ d ∈ p.default, IsDefault d
  default_first : ∀ d ∈ p.default, ∀ c ∈ d.head?, isBlank c = false
  default_last : ∀ d ∈ p.default, ∀ c ∈ d.getLast?, isBlank c = false
  prose_trimmed : trim p.prose = p.prose
  prose_unindented : unindent p.prose = p.prose

/-- A function whose name fits on a line and whose parameters can be shown. -/
structure FunctionDoc.Printable (f : FunctionDoc) : Prop where
  name_ne_nil : f.name ≠ []
  name_trimmed : trim f.name = f.name
  name_one_line : '\n' ∉ f.name
  params : ∀ p ∈ f.params, p.Printable

/-- The line opens a parameter group: it starts with the keyword, after blanks, and the keyword ends
    the line or a blank follows it. -/
def IsParamLine (line : Text) : Prop :=
  ∃ left rest, allBlank left ∧ line = left ++ paramKeyword ++ rest ∧ ∀ c ∈ rest.head?, isBlank c

/-- The ujs keyword stands somewhere in the text, and not as the start of a longer word. -/
def HasUjs (t : Text) : Prop :=
  ∃ before after, t = before ++ "@ujs".toList ++ after ∧ atWordEnd after

/-- The prose of a function cannot be taken for markers: no line of it opens a parameter group, it
    has no ujs keyword where none is meant, and its first line does not hang under a parameter. -/
structure FunctionDoc.ProseApart (f : FunctionDoc) : Prop where
  no_param : ∀ line ∈ lines f.prose, ¬ IsParamLine (firstLine line)
  no_ujs : f.ujs = false → ¬ HasUjs f.prose
  no_hanging : f.params ≠ [] → f.ujs = false → ∀ c ∈ f.prose.head?, isBlank c = false

/-- The line breaks that remain where the name, the visibility and the ujs flag were cut out. -/
def FunctionDoc.leftBreaks (f : FunctionDoc) : Text :=
  if f.ujs then ['\n', '\n', '\n'] else ['\n', '\n']

end ApiGuide
