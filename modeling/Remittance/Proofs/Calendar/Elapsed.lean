import Mathlib.Algebra.BigOperators.Group.List.Basic
import Mathlib.Algebra.Ring.Nat
import Remittance.Proofs.Calendar.Date

/-! # Elapsed days

`Date.elapsed` counts the days before a date one year and one month after the other, each with its
own length. The number of a date is this count (`number_eq_elapsed`), although it is worked out from
the leap years alone, and every number is that of the date found for it (`number_ofNumber`). So the
days of all years before a year, and of all months before a month, are taken up without a gap. -/

namespace Remittance.Date

/-- The number of days of a year. -/
def yearLength (year : Nat) : Nat :=
  if isLeap year then 366 else 365

/-- The days from 0000-01-01 to a date: the days of the years before it, those of the months before
it in its year, and those before it in its month. A day past the end of its month is counted on. -/
def elapsed (d : Date) : Nat :=
  ((List.range d.year).map yearLength).sum +
    ((List.range' 1 (d.month - 1)).map (monthLength d.year)).sum + (d.day - 1)

/-! ### The number of a date -/

theorem sum_yearLength (y : Nat) : ((List.range y).map yearLength).sum = daysBeforeYear y := by
  induction y with
  | zero => rfl
  | succ y ih =>
    rw [List.range_succ, List.map_append, List.sum_append, ih, daysBeforeYear_succ]
    simp [yearLength]

theorem sum_monthLength (y m : Nat) :
    ((List.range' 1 m).map (monthLength y)).sum = daysBeforeMonth y (m + 1) := by
  induction m with
  | zero => rfl
  | succ m ih =>
    have hnext : daysBeforeMonth y (m + 2) = daysBeforeMonth y (m + 1) + monthLength y (m + 1) := rfl
    rw [List.range'_1_concat, List.map_append, List.sum_append, ih, hnext]
    simp [Nat.add_comm 1 m]

/-- **The number of a date counts its days**, also past the end of a month. -/
theorem number_eq_elapsed {d : Date} (hmonth : 1 ≤ d.month) (hday : 1 ≤ d.day) :
    d.number = d.elapsed := by
  have hm := sum_monthLength d.year (d.month - 1)
  have hsucc : d.month - 1 + 1 = d.month := by omega
  rw [hsucc] at hm
  unfold elapsed number
  rw [sum_yearLength, hm]
  omega

theorem number_first_add {y m d : Nat} (hmonth : 1 ≤ m) (hday : 1 ≤ d) :
    (Date.mk y m 1).number + d - 1 = (Date.mk y m d).elapsed := by
  have h := number_eq_elapsed (d := ⟨y, m, d⟩) hmonth hday
  rw [← h]
  unfold number
  dsimp only
  omega

/-! ### The date with a number -/

theorem daysBeforeYear_lastYear_le (n y : Nat) : daysBeforeYear (lastYear n y) ≤ n := by
  induction y with
  | zero => simp [lastYear, daysBeforeYear]
  | succ y ih =>
    unfold lastYear
    split
    · assumption
    · exact ih

theorem daysBeforeMonth_lastMonth_le (y n m : Nat) : daysBeforeMonth y (lastMonth y n m) ≤ n := by
  induction m with
  | zero => exact Nat.zero_le n
  | succ m ih =>
    unfold lastMonth
    split
    · assumption
    · exact ih

/-- **Every number is that of its date.** -/
theorem number_ofNumber (n : Nat) : (ofNumber n).number = n := by
  have hyear := daysBeforeYear_lastYear_le n (n / 365)
  have hmonth := daysBeforeMonth_lastMonth_le (lastYear n (n / 365))
    (n - daysBeforeYear (lastYear n (n / 365))) 12
  unfold number ofNumber
  dsimp only
  omega

/-! ### The year 0 -/

theorem elapsed_lt_daysBeforeYear {d : Date} (hmonth : 1 ≤ d.month) (hmonth' : d.month ≤ 12)
    (hday : 1 ≤ d.day) (hday' : d.day ≤ 31) : d.elapsed < daysBeforeYear (d.year + 1) := by
  have h := daysBeforeMonth_le (y := d.year) hmonth'
  rw [← number_eq_elapsed hmonth hday]
  unfold number
  omega

theorem daysBeforeYear_le_elapsed (d : Date) : daysBeforeYear d.year ≤ d.elapsed := by
  unfold elapsed
  rw [sum_yearLength]
  omega

end Remittance.Date
