import ApiGuide.Calendar.Date
import ApiGuide.Text.Whitespace

/-!
Commit timestamps such as `2017-12-06 08:14:52 +0100`.

Only the date as it is written matters: neither the time nor the offset moves it. They still have to
be a time and an offset.
-/

namespace ApiGuide.Timestamp

open Text

/-- One to `most` digits at the front of the text. -/
def digits? (most : Nat) (t : Text) : Option (Nat × Text) :=
  let digits := (t.take most).takeWhile Char.isDigit
  if digits = [] then none else some (digitsValue digits, t.drop digits.length)

/-- A number of one or two digits, after white space. -/
def field? (t : Text) : Option (Nat × Text) :=
  digits? 2 (trimStart t)

/-- A year, after white space: up to four digits, or a sign and any number of digits. -/
def year? (t : Text) : Option (Int × Text) :=
  match trimStart t with
  | '-' :: rest => (digits? rest.length rest).map fun (n, rest) => (-(n : Int), rest)
  | '+' :: rest => (digits? rest.length rest).map fun (n, rest) => ((n : Int), rest)
  | rest => (digits? 4 rest).map fun (n, rest) => ((n : Int), rest)

/-- What follows a mark. -/
def mark? (c : Char) : Text → Option Text
  | [] => none
  | d :: rest => if c = d then some rest else none

/-- Exactly two digits. -/
def twoDigits? : Text → Option (Nat × Text)
  | a :: b :: rest => if a.isDigit && b.isDigit then some (digitsValue [a, b], rest) else none
  | _ => none

/-- The sign of an offset. A minus sign may also be the mathematical one. -/
def sign? : Text → Option (Int × Text)
  | '+' :: rest => some (1, rest)
  | '-' :: rest => some (-1, rest)
  | '\u2212' :: rest => some (-1, rest)
  | _ => none

/-- An offset in minutes, after white space: hours, then minutes below sixty, with colons and white
    space between them. It is less than a day. -/
def offset? (t : Text) : Option (Int × Text) := do
  let (sign, rest) ← sign? (trimStart t)
  let (hours, rest) ← twoDigits? rest
  let (minutes, rest) ← twoDigits? (rest.dropWhile fun c => c == ':' || isWhitespace c)
  if hours < 24 ∧ minutes < 60 then some (sign * (hours * 60 + minutes : Nat), rest) else none

/-- A day of the calendar that is kept. -/
def date? (t : Text) : Option (Date × Text) := do
  let (year, rest) ← year? t
  let rest ← mark? '-' rest
  let (month, rest) ← field? rest
  let rest ← mark? '-' rest
  let (day, rest) ← field? rest
  let date : Date := ⟨year, month, day⟩
  if date.isValid ∧ Date.first.year ≤ year ∧ year ≤ Date.last.year then some (date, rest) else none

/-- A time in seconds. The sixtieth second counts like the one before it. -/
def time? (t : Text) : Option (Nat × Text) := do
  let (hour, rest) ← field? t
  let rest ← mark? ':' rest
  let (minute, rest) ← field? rest
  let rest ← mark? ':' rest
  let (second, rest) ← field? rest
  if hour < 24 ∧ minute < 60 ∧ second ≤ 60 then
    some (hour * 3600 + minute * 60 + min second 59, rest)
  else none

/-- The same instant at offset zero lies on a day that is kept. Only the first and the last day can
    fail. -/
def inRange (date : Date) (seconds : Nat) (offset : Int) : Bool :=
  let shifted := (seconds : Int) - offset * 60
  !(date = Date.first && shifted < 0) && !(date = Date.last && 86400 ≤ shifted)

/-- The date of a timestamp, if the text is one and nothing else. -/
def parse? (t : Text) : Option Date := do
  let (date, rest) ← date? (trim t)
  let (seconds, rest) ← time? (trimStart rest)
  let (offset, rest) ← offset? (trimStart rest)
  if rest = [] ∧ inRange date seconds offset then some date else none

end ApiGuide.Timestamp
