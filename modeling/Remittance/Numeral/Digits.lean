import Remittance.Text.DecimalDigit

/-! # Runs of digits

The part that all numerals share: a run of decimal digits, in which single underscores may stand
between digits, and the number that a list of digits denotes. -/

namespace Remittance.Numeral

/-- The longest run of digits that is converted to a number. -/
def digitLimit : Nat := 4300

/-- The number denoted by a list of digit values, the most significant first. -/
def ofDigits (ds : List Nat) : Nat :=
  ds.foldl (fun n d => 10 * n + d) 0

/-- The digits of a run, without the single underscores between them. A run begins and ends with a
digit and holds no two underscores in a row. -/
def groupedDigits? (digit : Char → Option Nat) : List Char → Option (List Nat)
  | [] => none
  | [c] => (digit c).map ([·])
  | c :: '_' :: cs => do
    let d ← digit c
    let ds ← groupedDigits? digit cs
    return d :: ds
  | c :: cs => do
    let d ← digit c
    let ds ← groupedDigits? digit cs
    return d :: ds

/-- The value of an ASCII digit, and of no other character. -/
def asciiDigit? (c : Char) : Option Nat :=
  if Text.isAsciiDigit c then some (Text.asciiDigitValue c) else none

/-- The number of ASCII digits with nothing between them. -/
def plain? (cs : List Char) : Option Nat :=
  (cs.mapM asciiDigit?).map ofDigits

end Remittance.Numeral
