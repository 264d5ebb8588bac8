/-! # The calendar

Dates of the proleptic Gregorian calendar, from the year 0 on. `Date.number` counts the days since
0000-01-01, so the distance of two dates is the difference of their numbers, and `Date.ofNumber`
finds the date with a given number: the last year that has begun by then, and in it the last month.
-/

namespace Remittance

/-- A year, a month and a day of the month, in any combination. -/
structure Date where
  year : Nat
  month : Nat
  day : Nat
  deriving DecidableEq, Repr

namespace Date

/-- Whether a year has 366 days. -/
def isLeap (year : Nat) : Bool :=
  year % 4 == 0 && (year % 100 != 0 || year % 400 == 0)

/-- The number of days of a month. -/
def monthLength (year month : Nat) : Nat :=
  if month = 2 then if isLeap year then 29 else 28
  else if month = 4 ∨ month = 6 ∨ month = 9 ∨ month = 11 then 30
  else 31

/-- Whether the date stands in the calendar. -/
def Exists (d : Date) : Prop :=
  1 ≤ d.month ∧ d.month ≤ 12 ∧ 1 ≤ d.day ∧ d.day ≤ monthLength d.year d.month

instance (d : Date) : Decidable d.Exists := by
  unfold Exists
  infer_instance

/-- The number of days of the years before `year`: of the years 0, 1, …, `year - 1` every fourth is
a leap year, less every hundredth, and every four hundredth again. -/
def daysBeforeYear (year : Nat) : Nat :=
  365 * year + (year + 3) / 4 + (year + 399) / 400 - (year + 99) / 100

/-- The number of days of the months of `year` before `month`. -/
def daysBeforeMonth (year : Nat) : Nat → Nat
  | 0 => 0
  | 1 => 0
  | month + 1 => daysBeforeMonth year month + monthLength year month

/-- The number of days from 0000-01-01 to the date. -/
def number (d : Date) : Nat :=
  daysBeforeYear d.year + daysBeforeMonth d.year d.month + d.day - 1

/-- The last year up to `year` that has begun by day `n`. -/
def lastYear (n : Nat) : Nat → Nat
  | 0 => 0
  | year + 1 => if daysBeforeYear (year + 1) ≤ n then year + 1 else lastYear n year

/-- The last month up to `month` that has begun by day `n` of the year. -/
def lastMonth (year n : Nat) : Nat → Nat
  | 0 => 1
  | month + 1 => if daysBeforeMonth year (month + 1) ≤ n then month + 1 else lastMonth year n month

/-- The date with the given number. -/
def ofNumber (n : Nat) : Date :=
  let year := lastYear n (n / 365)
  let rest := n - daysBeforeYear year
  let month := lastMonth year rest 12
  ⟨year, month, rest - daysBeforeMonth year month + 1⟩

/-- A number in decimal, with zeros in front up to the given width. -/
def padded (width n : Nat) : String :=
  let digits := toString n
  String.ofList (List.replicate (width - digits.length) '0') ++ digits

/-- The date as year, month and day with dashes between them. -/
def text (d : Date) : String :=
  padded 4 d.year ++ "-" ++ padded 2 d.month ++ "-" ++ padded 2 d.day

end Date

end Remittance
