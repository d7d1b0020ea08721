import ApiGuide.Text.Basic

/-!
Quoted strings of TOML: basic and literal ones, each on one line or on several.

Every reader here starts after the opening quotes and gives the string and the text after the
closing quotes.
-/

namespace ApiGuide.Toml

open Text

/-- A character that may stand for itself on a line: a tab, or anything but a control character. -/
def isLineChar (c : Char) : Bool :=
  c == '\t' || (0x20 ≤ c.toNat && c.toNat != 0x7f)

/-- The text starts with a line break. -/
def atLineBreak : Text → Bool
  | '\n' :: _ => true
  | '\r' :: '\n' :: _ => true
  | _ => false

/-- Drops one line break. -/
def skipLineBreak : Text → Text
  | '\n' :: t => t
  | '\r' :: '\n' :: t => t
  | t => t

/-- Where a reader of a basic string is. -/
inductive Mode
  /-- Between characters. -/
  | plain
  /-- After a backslash. -/
  | escape
  /-- In the digits of a code point: how many are missing, and the value so far. -/
  | code (missing value : Nat)
  /-- After a backslash that ends its line: blanks and line breaks do not count. -/
  | skip

/-- The character that a backslash and a letter write. -/
def shortEscape? (c : Char) : Option Char :=
  match c with
  | 'b' => some '\x08'
  | 't' => some '\t'
  | 'n' => some '\n'
  | 'f' => some '\x0c'
  | 'r' => some '\r'
  | '"' => some '"'
  | '\\' => some '\\'
  | _ => none

/-- The number of digits of the code point that a backslash and a letter announce. -/
def longEscape? (c : Char) : Option Nat :=
  match c with
  | 'u' => some 4
  | 'U' => some 8
  | _ => none

/-- The value of a hexadecimal digit. -/
def hexDigit? (c : Char) : Option Nat :=
  if c.isDigit then some (c.toNat - '0'.toNat)
  else if 'a' ≤ c ∧ c ≤ 'f' then some (c.toNat - 'a'.toNat + 10)
  else if 'A' ≤ c ∧ c ≤ 'F' then some (c.toNat - 'A'.toNat + 10)
  else none

/-- The character of a code point. Surrogates have none. -/
def charOfCode? (code : Nat) : Option Char :=
  if code.isValidChar then some (Char.ofNat code) else none

/-- Puts a character in front of a string that was read. -/
def push (c : Char) (found : Option (Text × Text)) : Option (Text × Text) :=
  found.map fun (s, rest) => (c :: s, rest)

/-- A basic string on one line. -/
def basic? : Mode → Text → Option (Text × Text)
  | _, [] => none
  | .escape, c :: t =>
    match shortEscape? c, longEscape? c with
    | some d, _ => push d (basic? .plain t)
    | none, some digits => basic? (.code digits 0) t
    | none, none => none
  | .code missing value, c :: t =>
    match hexDigit? c with
    | none => none
    | some d =>
      if missing ≤ 1 then
        match charOfCode? (value * 16 + d) with
        | some e => push e (basic? .plain t)
        | none => none
      else basic? (.code (missing - 1) (value * 16 + d)) t
  | _, c :: t =>
    if c = '"' then some ([], t)
    else if c = '\\' then basic? .escape t
    else if isLineChar c then push c (basic? .plain t)
    else none

/-- A literal string on one line. -/
def literal? : Text → Option (Text × Text)
  | [] => none
  | c :: t =>
    if c = '\'' then some ([], t) else if isLineChar c then push c (literal? t) else none

/-- The end of a string on several lines: three quotes, and up to two more before them that belong
    to the string. -/
def closeQuotes? (quote : Char) (t : Text) : Option (Text × Text) :=
  let run := (t.takeWhile (· == quote)).length
  if run < 3 then none
  else
    let inside := min (run - 3) 2
    some (List.replicate inside quote, t.drop (inside + 3))

/-- A basic string on several lines. Its line breaks are read as line feeds. -/
def longBasic? : Mode → Text → Option (Text × Text)
  | _, [] => none
  | .escape, c :: t =>
    match shortEscape? c, longEscape? c with
    | some d, _ => push d (longBasic? .plain t)
    | none, some digits => longBasic? (.code digits 0) t
    | none, none => none
  | .code missing value, c :: t =>
    match hexDigit? c with
    | none => none
    | some d =>
      if missing ≤ 1 then
        match charOfCode? (value * 16 + d) with
        | some e => push e (longBasic? .plain t)
        | none => none
      else longBasic? (.code (missing - 1) (value * 16 + d)) t
  | mode, c :: t =>
    let inString : Option (Text × Text) :=
      if c = '"' then
        match closeQuotes? '"' (c :: t) with
        | some found => some found
        | none => push c (longBasic? .plain t)
      else if c = '\\' then
        if atLineBreak (skipBlanks t) then longBasic? .skip t else longBasic? .escape t
      else if c = '\n' then push c (longBasic? .plain t)
      else if atLineBreak (c :: t) then longBasic? .plain t
      else if isLineChar c then push c (longBasic? .plain t)
      else none
    match mode with
    | .skip => if isBlank c || atLineBreak (c :: t) then longBasic? .skip t else inString
    | _ => inString

/-- A literal string on several lines. Its line breaks are read as line feeds. -/
def longLiteral? : Text → Option (Text × Text)
  | [] => none
  | c :: t =>
    if c = '\'' then
      match closeQuotes? '\'' (c :: t) with
      | some found => some found
      | none => push c (longLiteral? t)
    else if c = '\n' then push c (longLiteral? t)
    else if atLineBreak (c :: t) then longLiteral? t
    else if isLineChar c then push c (longLiteral? t)
    else none

/-- A string of any of the four forms, from its opening quotes on. The line break right after three
    opening quotes does not count. -/
def string? (t : Text) : Option (Text × Text) :=
  match t with
  | '"' :: '"' :: '"' :: inside => longBasic? .plain (skipLineBreak inside)
  | '"' :: inside => basic? .plain inside
  | '\'' :: '\'' :: '\'' :: inside => longLiteral? (skipLineBreak inside)
  | '\'' :: inside => literal? inside
  | _ => none

end ApiGuide.Toml
