import ApiGuide.Text.Basic

/-!
JSON values and how they are laid out.

Items and fields stand on lines of their own, two blanks deeper than what holds them. Fields keep
their order.
-/

namespace ApiGuide

/-- A JSON value. The only numbers are counts. -/
inductive JsonValue
  | null
  | boolean (b : Bool)
  | number (n : Nat)
  | string (s : Text)
  | array (items : List JsonValue)
  | object (fields : List (Text × JsonValue))

namespace JsonValue

open Text

/-- A string, or null without one. -/
def ofOption (s : Option Text) : JsonValue :=
  match s with
  | some s => .string s
  | none => .null

/-- An array of strings. -/
def strings (items : List Text) : JsonValue :=
  .array (items.map .string)

/-- A hexadecimal digit in lower case. -/
def hexDigit (n : Nat) : Char :=
  Nat.digitChar n

/-- A character inside a string. Quotes, backslashes and control characters are escaped. -/
def escapeChar (c : Char) : Text :=
  if c = '"' then "\\\"".toList
  else if c = '\\' then "\\\\".toList
  else if c = '\x08' then "\\b".toList
  else if c = '\t' then "\\t".toList
  else if c = '\n' then "\\n".toList
  else if c = '\x0c' then "\\f".toList
  else if c = '\r' then "\\r".toList
  else if c.toNat < 0x20 then
    "\\u00".toList ++ [hexDigit (c.toNat / 16), hexDigit (c.toNat % 16)]
  else [c]

/-- A string with its quotes. -/
def stringText (s : Text) : Text :=
  '"' :: s.flatMap escapeChar ++ ['"']

/-- A line break and the blanks of a depth. -/
def newline (depth : Nat) : Text :=
  '\n' :: List.replicate (2 * depth) ' '

mutual

/-- A value at a depth. -/
def layout (depth : Nat) : JsonValue → Text
  | .null => "null".toList
  | .boolean true => "true".toList
  | .boolean false => "false".toList
  | .number n => ofNat n
  | .string s => stringText s
  | .array [] => "[]".toList
  | .array (item :: items) =>
    '[' :: newline (depth + 1) ++ layout (depth + 1) item ++ layoutItems (depth + 1) items
      ++ newline depth ++ [']']
  | .object [] => "\x7b\x7d".toList
  | .object (field :: fields) =>
    '\x7b' :: newline (depth + 1) ++ layoutField (depth + 1) field
      ++ layoutFields (depth + 1) fields ++ newline depth ++ ['\x7d']

/-- The items after the first. -/
def layoutItems (depth : Nat) : List JsonValue → Text
  | [] => []
  | item :: items => ',' :: newline depth ++ layout depth item ++ layoutItems depth items

/-- A key and its value. -/
def layoutField (depth : Nat) : Text × JsonValue → Text
  | (key, value) => stringText key ++ ": ".toList ++ layout depth value

/-- The fields after the first. -/
def layoutFields (depth : Nat) : List (Text × JsonValue) → Text
  | [] => []
  | field :: fields =>
    ',' :: newline depth ++ layoutField depth field ++ layoutFields depth fields

end

/-- A value as a document of its own. -/
def toText (v : JsonValue) : Text :=
  layout 0 v

end JsonValue

end ApiGuide
