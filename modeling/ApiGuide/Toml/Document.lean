import ApiGuide.Toml.Quoted

/-!
Documents of keys with values, in the part of TOML that settings are written in.

Values are strings, booleans and lists of strings. Everything else that TOML has (numbers, dates,
tables, dotted keys) can be no setting, so it is refused here.
-/

namespace ApiGuide.Toml

open Text

/-- A value. -/
inductive Value
  | string (s : Text)
  | boolean (b : Bool)
  | strings (items : List Text)
  deriving DecidableEq

/-- A character of a key without quotes. -/
def isBareKeyChar (c : Char) : Bool :=
  c.isAlphanum || c == '_' || c == '-'

/-- A key at the front of the text, with or without quotes. -/
def key? (t : Text) : Option (Text × Text) :=
  match t with
  | '"' :: inside => basic? .plain inside
  | '\'' :: inside => literal? inside
  | _ =>
    let name := t.takeWhile isBareKeyChar
    if name = [] then none else some (name, t.dropWhile isBareKeyChar)

/-- The text after the rest of a line that holds only blanks and a comment. -/
def lineEnd? (t : Text) : Option Text :=
  let u := skipBlanks t
  let u := if u.head? = some '#' then u.dropWhile isLineChar else u
  if u = [] ∨ atLineBreak u then some (skipLineBreak u) else none

/-- The text after blanks, comments and line breaks, as they may stand between the items of a
    list. -/
def skipTrivia : (inComment : Bool) → Text → Text
  | _, [] => []
  | inComment, c :: t =>
    if c = '\n' then skipTrivia false t
    else if atLineBreak (c :: t) then skipTrivia false t
    else if inComment && isLineChar c then skipTrivia true t
    else if !inComment && isBlank c then skipTrivia false t
    else if !inComment && c == '#' then skipTrivia true t
    else c :: t

/-- The strings of a list, from after its opening bracket or after a comma on. -/
def listItems? (t : Text) : Option (List Text × Text) :=
  match skipTrivia false t with
  | ']' :: rest => some ([], rest)
  | u =>
    match string? u with
    | none => none
    | some (s, rest) =>
      match skipTrivia false rest with
      | ']' :: rest => some ([s], rest)
      | ',' :: rest =>
        if rest.length < t.length then (listItems? rest).map fun (more, rest) => (s :: more, rest)
        else none
      | _ => none
termination_by t.length

/-- A value at the front of the text. -/
def value? (t : Text) : Option (Value × Text) :=
  match t with
  | '[' :: inside => (listItems? inside).map fun (items, rest) => (.strings items, rest)
  | _ =>
    match after? "true".toList t, after? "false".toList t with
    | some rest, _ => some (.boolean true, rest)
    | _, some rest => some (.boolean false, rest)
    | none, none => (string? t).map fun (s, rest) => (.string s, rest)

/-- A key, an equals sign, a value, and the end of the line. -/
def entry? (t : Text) : Option ((Text × Value) × Text) :=
  match key? (skipBlanks t) with
  | none => none
  | some (key, t₁) =>
    match skipBlanks t₁ with
    | '=' :: t₂ =>
      match value? (skipBlanks t₂) with
      | none => none
      | some (value, t₃) => (lineEnd? t₃).map fun rest => ((key, value), rest)
    | _ => none

/-- The keys and values of the lines of a text. -/
def entries? (t : Text) : Option (List (Text × Value)) :=
  if t = [] then some []
  else
    match lineEnd? t with
    | some rest => if rest.length < t.length then entries? rest else none
    | none =>
      match entry? t with
      | none => none
      | some (entry, rest) =>
        if rest.length < t.length then (entries? rest).map (entry :: ·) else none
termination_by t.length

/-- The keys and values of a document, in the order in which they are written. A byte order mark at
    its front does not count. -/
def document? (t : Text) : Option (List (Text × Value)) :=
  match t with
  | '\ufeff' :: rest => entries? rest
  | _ => entries? t

end ApiGuide.Toml
