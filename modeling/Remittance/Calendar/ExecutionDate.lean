import Remittance.Calendar.Moment
import Remittance.Numeral.Whole

/-! # Execution dates

The date on which a transfer is to be executed is kept as the text it was given in. `dayOf` reads
it: three whole numbers with dashes between them, of which the day is counted from the first of the
month, so that a day past the end of a month falls into the next one. `isFuture` compares midnight
UTC of that day with a clock reading. -/

namespace Remittance.ExecutionDate

/-- Why a text has no place in the calendar, or cannot be compared with a clock reading. -/
inductive Fault where
  /-- A part is no whole number. -/
  | part (fault : Numeral.WholeFault)
  | tooFewParts (count : Nat)
  | tooManyParts
  /-- The year or the month exceeds 64 bits. -/
  | beyondLongWord
  /-- The year or the month exceeds 32 bits. -/
  | beyondWord
  | noSuchYear (year : Nat)
  | noSuchMonth
  /-- The days to be added exceed 32 bits. -/
  | daysBeyondWord
  /-- The days to be added exceed the longest duration. -/
  | longDuration (days : Int)
  /-- The day lies outside the years 1 to 9999. -/
  | outOfRange
  /-- The clock does not tell its offset. -/
  | unplaced
  deriving DecidableEq, Repr

/-- The description of a fault. -/
def Fault.message : Fault → String
  | .part fault => fault.message
  | .tooFewParts count => s!"not enough values to unpack (expected 3, got {count})"
  | .tooManyParts => "too many values to unpack (expected 3)"
  | .beyondLongWord => "Python int too large to convert to C long"
  | .beyondWord => "signed integer is greater than maximum"
  | .noSuchYear year => s!"year {year} is out of range"
  | .noSuchMonth => "month must be in 1..12"
  | .daysBeyondWord => "Python int too large to convert to C int"
  | .longDuration days => s!"days={days}; must have magnitude <= 999999999"
  | .outOfRange => "date value out of range"
  | .unplaced => "can't compare offset-naive and offset-aware datetimes"

/-- The parts of a text between its dashes. -/
def parts : List Char → List (List Char)
  | [] => [[]]
  | c :: cs =>
    if c = '-' then [] :: parts cs
    else
      match parts cs with
      | p :: ps => (c :: p) :: ps
      | [] => [[c]]

/-- The year, the month and the day of a text. A fourth part must still be a whole number before it
counts as one too many. -/
def numbers (text : String) : Except Fault (Nat × Nat × Nat) := do
  let ns ← ((parts text.toList).take 4).mapM fun p =>
    (Numeral.whole (String.ofList p)).mapError .part
  match ns with
  | [year, month, day] => return (year, month, day)
  | _ => throw (if ns.length < 3 then .tooFewParts ns.length else .tooManyParts)

/-- Refuses a number that does not fit a signed word of 32 bits. -/
def fitWord (n : Nat) : Except Fault Unit :=
  if 0x8000000000000000 ≤ n then throw .beyondLongWord
  else if 0x80000000 ≤ n then throw .beyondWord
  else return ()

/-- Refuses a number of days that is no duration. -/
def fitDays (days : Int) : Except Fault Unit :=
  if 0x80000000 ≤ days then throw .daysBeyondWord
  else if 999999999 < days then throw (.longDuration days)
  else return ()

/-- The day that lies `day - 1` days after the first of the month. -/
def dayOf (text : String) : Except Fault Date := do
  let (year, month, day) ← numbers text
  fitWord year
  fitWord month
  if year < 1 ∨ 9999 < year then throw (.noSuchYear year)
  if month < 1 ∨ 12 < month then throw .noSuchMonth
  fitDays (day - 1)
  let n := (Date.mk year month 1).number + day - 1
  if n < Date.daysBeforeYear 1 ∨ Date.daysBeforeYear 10000 ≤ n then throw .outOfRange
  return Date.ofNumber n

/-- Midnight UTC of a day, as a text. -/
def midnightText (d : Date) : String :=
  d.text ++ "T00:00:00+00:00"

/-- Whether the year of a text is written as four zeros. Such dates lie before every clock reading.
-/
def inYearZero (text : String) : Bool :=
  "0000-".toList.isPrefixOf text.toList

/-- Whether midnight UTC of an execution date lies after the moment `now`. Without a date nothing is
waited for. -/
def isFuture (date : Option String) (now : Moment) : Except Fault Bool :=
  match date with
  | none => return false
  | some text => do
    if inYearZero text then return false
    let day ← dayOf text
    if !now.isPlaced then throw .unplaced
    return now.instant < Moment.midnight day

end Remittance.ExecutionDate
