import Remittance.Instruction.Basic
import Remittance.Numeral.Digits
import Remittance.Reason

/-! # The fields of a sentence

The values in a sentence are single tokens: an amount, a currency, an execution date and account
ids. Each has a reader that takes the token or refuses it for one reason of its own, whatever stands
beside it. -/

namespace Remittance.Field

/-- Reads one token. -/
abbrev Reader (α : Type) := String → Except Reason α

/-- Reads a token that may be missing; a missing one is read as an empty one. -/
def Reader.ofMissing {α : Type} (reader : Reader α) (token : Option String) : Except Reason α :=
  reader (token.getD "")

/-- The digits of an amount: all of the token but a plus in front. -/
def amountDigits (token : String) : List Char :=
  if token.toList.head? = some '+' then token.toList.tail else token.toList

/-- An amount is a positive whole number in ASCII digits, at most `digitLimit` of them, after an
optional plus. -/
def amount : Reader Amount := fun token =>
  let ds := amountDigits token
  if ds.isEmpty || !ds.all Text.isAsciiDigit || decide (Numeral.digitLimit < ds.length) then
    throw .invalidAmount
  else
    let n := Numeral.ofDigits (ds.map Text.asciiDigitValue)
    if h : 0 < n then return ⟨n, h⟩ else throw .invalidAmount

/-- The currencies in which transfers are made. -/
def currencies : List String := ["NGN", "USD", "GBP", "GHS"]

/-- A currency is one of `currencies` in any casing, and is read in upper case. -/
def currency : Reader String := fun token =>
  if Text.upper token ∈ currencies then return Text.upper token else throw .unsupportedCurrency

/-- Whether `c` may stand in an account id. -/
def isIdChar (c : Char) : Bool :=
  c.isAlphanum || c == '@' || c == '.' || c == '-'

/-- An account id is a run of letters, digits, `@`, `.` and `-`. -/
def accountId : Reader String := fun token =>
  if token.toList.isEmpty || !token.toList.all isIdChar then throw .invalidAccountId
  else return token

/-- The year, the month and the day of a token of four, two and two digits. -/
def dateParts? (token : String) : Option (Nat × Nat × Nat) :=
  match token.toList with
  | [y₁, y₂, y₃, y₄, '-', m₁, m₂, '-', d₁, d₂] => do
    let year ← Numeral.plain? [y₁, y₂, y₃, y₄]
    let month ← Numeral.plain? [m₁, m₂]
    let day ← Numeral.plain? [d₁, d₂]
    return (year, month, day)
  | _ => none

/-- A date is written as year, month and day. Every month may have any day from 1 to 31. -/
def date : Reader String := fun token =>
  match dateParts? token with
  | some (_, month, day) =>
    if 1 ≤ month ∧ month ≤ 12 ∧ 1 ≤ day ∧ day ≤ 31 then return token else throw .invalidDate
  | none => throw .invalidDate

end Remittance.Field
