import Remittance.Json.Basic
import Remittance.Decimal.Shortest
import Remittance.Text.Quoted

/-! # Writing JSON

A value is written on one line without blanks. In strings only the quote, the backslash and the
control characters are escaped, with a letter if they have one. `leaves` lists what has to be written
for a value, one part after the other. -/

namespace Remittance.Json

/-- A character as it stands in a string. -/
def escaped (c : Char) : List Char :=
  if c = '"' ∨ c = '\\' then ['\\', c]
  else if c = '\n' then ['\\', 'n']
  else if c = '\r' then ['\\', 'r']
  else if c = '\t' then ['\\', 't']
  else if c.toNat = 0x08 then ['\\', 'b']
  else if c.toNat = 0x0C then ['\\', 'f']
  else if c.toNat < 0x20 then '\\' :: 'u' :: Text.hexDigits 4 c.toNat
  else [c]

/-- A string between quotes. -/
def stringText (s : String) : String :=
  String.ofList ('"' :: (s.toList.flatMap escaped ++ ['"']))

mutual

/-- The text of a value. -/
def text : Json → String
  | .null => "null"
  | .bool b => if b then "true" else "false"
  | .int n => toString n
  | .real x => x.text
  | .string s => stringText s
  | .array items => "[" ++ itemsText items ++ "]"
  | .object fields => "\x7b" ++ fieldsText fields ++ "\x7d"

/-- The texts of the elements of an array, with commas between them. -/
def itemsText : List Json → String
  | [] => ""
  | [v] => text v
  | v :: vs => text v ++ "," ++ itemsText vs

/-- The texts of the fields of an object, with commas between them. -/
def fieldsText : List (String × Json) → String
  | [] => ""
  | [(name, v)] => stringText name ++ ":" ++ text v
  | (name, v) :: fs => stringText name ++ ":" ++ text v ++ "," ++ fieldsText fs

end

mutual

/-- The values without parts of their own in a value, in the order in which they are written. The
name of a field is written as a string before its value. -/
def leaves : Json → List Json
  | .array items => itemsLeaves items
  | .object fields => fieldsLeaves fields
  | v => [v]

/-- The leaves of the elements of an array. -/
def itemsLeaves : List Json → List Json
  | [] => []
  | v :: vs => leaves v ++ itemsLeaves vs

/-- The leaves of the fields of an object. -/
def fieldsLeaves : List (String × Json) → List Json
  | [] => []
  | (name, v) :: fs => .string name :: (leaves v ++ fieldsLeaves fs)

end

end Remittance.Json
