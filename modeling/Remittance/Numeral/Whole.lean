import Remittance.Numeral.Digits
import Remittance.Text.Blank
import Remittance.Text.Quoted

/-! # Whole numbers in any script

The numeral of a year, a month or a day: digits of any script, with single underscores between
digits, after an optional plus and between optional spaces. A run of more than `digitLimit` digits
is refused before what follows it is looked at. -/

namespace Remittance.Numeral

/-- Why a text is no whole number. -/
inductive WholeFault where
  /-- The text is not a numeral. -/
  | malformed (text : String)
  /-- The numeral has too many digits. -/
  | tooLong (digits : Nat)
  deriving DecidableEq, Repr

/-- How a refused numeral is described: its quoted form is cut after 200 characters. -/
def WholeFault.message : WholeFault → String
  | .malformed text =>
    "invalid literal for int() with base 10: " ++
      String.ofList ((Text.quotedChars text.toList).take 200)
  | .tooLong digits =>
    s!"Exceeds the limit ({digitLimit} digits) for integer string conversion: value has " ++
      s!"{digits} digits; use sys.set_int_max_str_digits() to increase the limit"

/-- Whether `c` can stand in a run of digits. -/
def inRun (c : Char) : Bool :=
  c == '_' || (Text.digitValue? c).isSome

/-- Reads a whole number. -/
def whole (text : String) : Except WholeFault Nat :=
  let cs := Text.trimBy Text.isSpace text.toList
  let unsigned := if cs.head? = some '+' then cs.tail else cs
  match groupedDigits? Text.digitValue? (unsigned.takeWhile inRun) with
  | none => .error (.malformed text)
  | some ds =>
    if digitLimit < ds.length then .error (.tooLong ds.length)
    else if unsigned.dropWhile inRun = [] then .ok (ofDigits ds)
    else .error (.malformed text)

end Remittance.Numeral
