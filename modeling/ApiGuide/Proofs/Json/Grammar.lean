import ApiGuide.Json
import ApiGuide.Toml.Quoted

/-!
The JSON grammar: which texts spell a value.

The grammar goes from the value to its spellings. White space may stand around every token, and a
character of a string may be escaped in several ways. The only numbers are counts, so there are no
signs, fractions and exponents. Fields keep their order.
-/

namespace ApiGuide.JsonValue

open Text Toml

/-- Induction over a value, with a hypothesis for every item of an array and for the value of every
    field of an object. -/
@[elab_as_elim]
theorem induction_parts {motive : JsonValue → Prop} (null : motive .null)
    (boolean : ∀ b, motive (.boolean b)) (number : ∀ n, motive (.number n))
    (string : ∀ s, motive (.string s))
    (array : ∀ items, (∀ item ∈ items, motive item) → motive (.array items))
    (object : ∀ fields, (∀ field ∈ fields, motive field.2) → motive (.object fields)) :
    ∀ v, motive v
  | .null => null
  | .boolean b => boolean b
  | .number n => number n
  | .string s => string s
  | .array items => array items fun item hitem =>
    have hsmaller := List.sizeOf_lt_of_mem hitem
    induction_parts null boolean number string array object item
  | .object fields => object fields fun (key, value) hfield =>
    have hsmaller : sizeOf value < sizeOf fields := by
      have hpair := List.sizeOf_lt_of_mem hfield
      simp only [Prod.mk.sizeOf_spec] at hpair
      omega
    induction_parts null boolean number string array object value

/-- White space between tokens. -/
def isSpace (c : Char) : Bool :=
  c == ' ' || c == '\t' || c == '\n' || c == '\r'

/-- The text is white space, or empty. -/
def AllSpace (t : Text) : Prop :=
  ∀ c ∈ t, isSpace c = true

/-- The text has the property, once white space at its ends is left away. -/
def Padded (P : Text → Prop) (t : Text) : Prop :=
  ∃ left body right, t = left ++ body ++ right ∧ AllSpace left ∧ AllSpace right ∧ P body

/-- A character that stands for itself inside a string. -/
def isPlain (c : Char) : Bool :=
  0x20 ≤ c.toNat && c != '"' && c != '\\'

/-- What a backslash and a character stand for. -/
def shortEscapes : List (Char × Char) :=
  [('"', '"'), ('\\', '\\'), ('/', '/'), ('b', '\x08'), ('f', '\x0c'), ('n', '\n'), ('r', '\r'),
    ('t', '\t')]

/-- Four hexadecimal digits and the number they write. -/
def IsUnit (n : Nat) (digits : Text) : Prop :=
  ∃ a b c d i j k l, digits = [a, b, c, d] ∧ hexDigit? a = some i ∧ hexDigit? b = some j ∧
    hexDigit? c = some k ∧ hexDigit? d = some l ∧ n = ((i * 16 + j) * 16 + k) * 16 + l

/-- The first half of a surrogate pair. -/
def isHighSurrogate (n : Nat) : Bool :=
  0xd800 ≤ n && n < 0xdc00

/-- The second half of a surrogate pair. -/
def isLowSurrogate (n : Nat) : Bool :=
  0xdc00 ≤ n && n < 0xe000

/-- The code point of a surrogate pair. -/
def pairCode (high low : Nat) : Nat :=
  0x10000 + (high - 0xd800) * 0x400 + (low - 0xdc00)

/-- The spellings of a character inside a string. -/
inductive SpellsChar : Char → Text → Prop
  | plain {c : Char} : isPlain c = true → SpellsChar c [c]
  | short {letter c : Char} : (letter, c) ∈ shortEscapes → SpellsChar c ['\\', letter]
  | unit {c : Char} {digits : Text} : IsUnit c.toNat digits → SpellsChar c ('\\' :: 'u' :: digits)
  | pair {c : Char} {high low : Nat} {digits more : Text} : IsUnit high digits → IsUnit low more →
      isHighSurrogate high = true → isLowSurrogate low = true → c.toNat = pairCode high low →
      SpellsChar c ('\\' :: 'u' :: digits ++ '\\' :: 'u' :: more)

/-- The spellings of the characters of a string, one after the other. -/
def SpellsChars : Text → Text → Prop
  | [], t => t = []
  | c :: s, t => ∃ first rest, t = first ++ rest ∧ SpellsChar c first ∧ SpellsChars s rest

/-- The spellings of a string, with its quotes. -/
def SpellsString (s t : Text) : Prop :=
  ∃ inside, t = '"' :: inside ++ ['"'] ∧ SpellsChars s inside

/-- The spelling of a count: its decimal digits, the first of which is no zero unless it is alone. -/
def SpellsCount (n : Nat) (t : Text) : Prop :=
  t ≠ [] ∧ (∀ c ∈ t, c.isDigit = true) ∧ (t.head? = some '0' → t = ['0']) ∧ digitsValue t = n

/-- Parts with commas between them. Where there is none, there may be white space. -/
def Several : List (Text → Prop) → Text → Prop
  | [], t => AllSpace t
  | [P], t => P t
  | P :: Q :: parts, t => ∃ first rest, t = first ++ ',' :: rest ∧ P first ∧ Several (Q :: parts) rest

/-- A key, a colon and a value, with white space around both. -/
def Keyed (key : Text) (P : Text → Prop) (t : Text) : Prop :=
  ∃ before after, t = before ++ ':' :: after ∧ Padded (SpellsString key) before ∧ Padded P after

mutual

/-- The spellings of a value. -/
def Spells : JsonValue → Text → Prop
  | .null, t => t = "null".toList
  | .boolean b, t => t = (if b then "true" else "false").toList
  | .number n, t => SpellsCount n t
  | .string s, t => SpellsString s t
  | .array items, t => ∃ inside, t = '[' :: inside ++ [']'] ∧ Several (itemSpellings items) inside
  | .object fields, t =>
    ∃ inside, t = '\x7b' :: inside ++ ['\x7d'] ∧ Several (fieldSpellings fields) inside

/-- The spellings of each item. -/
def itemSpellings : List JsonValue → List (Text → Prop)
  | [] => []
  | item :: items => Padded (Spells item) :: itemSpellings items

/-- The spellings of each field. -/
def fieldSpellings : List (Text × JsonValue) → List (Text → Prop)
  | [] => []
  | (key, value) :: fields => Keyed key (Spells value) :: fieldSpellings fields

end

theorem itemSpellings_eq_map (items : List JsonValue) :
    itemSpellings items = items.map fun item => Padded (Spells item) := by
  induction items with
  | nil => rw [itemSpellings, List.map_nil]
  | cons item items ih => rw [itemSpellings, ih, List.map_cons]

theorem fieldSpellings_eq_map (fields : List (Text × JsonValue)) :
    fieldSpellings fields = fields.map fun field => Keyed field.1 (Spells field.2) := by
  induction fields with
  | nil => rw [fieldSpellings, List.map_nil]
  | cons field fields ih => rw [fieldSpellings, ih, List.map_cons]

/-- The text is a JSON document of the value: one spelling of it, with white space around. -/
def IsDocument (v : JsonValue) (t : Text) : Prop :=
  Padded (Spells v) t

end ApiGuide.JsonValue
