import Remittance.Calendar.Date
import Remittance.Numeral.Digits

/-! # Moments

A moment is what a clock shows: a date, a time of day and, on a clock that knows where it stands, its
offset, the time by which it is ahead of UTC. Times are counted in microseconds. Moments are compared
by their instants, the microseconds since 0000-01-01 at midnight UTC; a clock without an offset is
taken to show UTC.
-/

namespace Remittance

/-- A clock reading. -/
structure Moment where
  date : Date
  /-- The microseconds since midnight. -/
  time : Nat
  /-- The microseconds ahead of UTC, on a clock that tells them. -/
  offset : Option Int
  deriving DecidableEq, Repr

namespace Moment

/-- The microseconds of a minute. -/
def minuteLength : Nat := 60000000

/-- The microseconds of a day. -/
def dayLength : Nat := 86400000000

/-- Midnight UTC of a date, in microseconds. -/
def midnight (d : Date) : Int :=
  (d.number * dayLength : Nat)

/-- The microseconds from 0000-01-01 at midnight UTC to the moment. -/
def instant (m : Moment) : Int :=
  midnight m.date + m.time - m.offset.getD 0

/-- Whether the clock tells its offset. -/
def isPlaced (m : Moment) : Bool :=
  m.offset.isSome

/-- The moment with its offset told: a clock without one shows UTC. -/
def placed (m : Moment) : Moment :=
  { m with offset := some (m.offset.getD 0) }

@[simp]
theorem instant_placed (m : Moment) : m.placed.instant = m.instant := by
  simp [instant, placed]

@[simp]
theorem isPlaced_placed (m : Moment) : m.placed.isPlaced = true := rfl

/-! ### Reading -/

/-- The offset that ends a clock reading. -/
def offset? : List Char → Option (Option Int)
  | [] => some none
  | ['Z'] => some (some 0)
  | [sign, a, b, ':', c, d] => do
    let hours ← Numeral.plain? [a, b]
    let minutes ← Numeral.plain? [c, d]
    let ahead : Int := ((60 * hours + minutes) * minuteLength : Nat)
    if sign = '+' then some (some ahead) else if sign = '-' then some (some (-ahead)) else none
  | _ => none

/-- The fraction of a second, in microseconds, and what follows it. -/
def fraction? : List Char → Option (Nat × List Char)
  | '.' :: cs => do
    let ds := cs.takeWhile Text.isAsciiDigit
    let n ← Numeral.plain? ds
    return (n * Nat.pow 10 (6 - ds.length), cs.dropWhile Text.isAsciiDigit)
  | cs => some (0, cs)

/-- Reads a clock reading: date and time of day with a `T` between them, a fraction of a second and
an offset if they are given. -/
def ofText? (s : String) : Option Moment :=
  match s.toList with
  | y₁ :: y₂ :: y₃ :: y₄ :: '-' :: m₁ :: m₂ :: '-' :: d₁ :: d₂ :: 'T' ::
      h₁ :: h₂ :: ':' :: n₁ :: n₂ :: ':' :: s₁ :: s₂ :: rest => do
    let year ← Numeral.plain? [y₁, y₂, y₃, y₄]
    let month ← Numeral.plain? [m₁, m₂]
    let day ← Numeral.plain? [d₁, d₂]
    let hour ← Numeral.plain? [h₁, h₂]
    let minute ← Numeral.plain? [n₁, n₂]
    let second ← Numeral.plain? [s₁, s₂]
    let (micros, rest) ← fraction? rest
    let offset ← offset? rest
    return ⟨⟨year, month, day⟩, ((hour * 60 + minute) * 60 + second) * 1000000 + micros, offset⟩
  | _ => none

end Moment

end Remittance
