import Remittance.Calendar.Date

/-! # Counting days

The days before a year grow by the length of each year (`daysBeforeYear_succ`), and the first of a
month with thirty days more is still in its year (`daysBeforeMonth_le`). So a date of the years 1 to
9999 keeps its number inside these years, whatever its day up to 31 (`number_mem_years`). -/

namespace Remittance.Date

theorem daysBeforeYear_succ (y : Nat) :
    daysBeforeYear (y + 1) = daysBeforeYear y + if isLeap y then 366 else 365 := by
  have h4 : (y + 1 + 3) / 4 = (y + 3) / 4 + if y % 4 = 0 then 1 else 0 := by split <;> omega
  have h100 : (y + 1 + 99) / 100 = (y + 99) / 100 + if y % 100 = 0 then 1 else 0 := by
    split <;> omega
  have h400 : (y + 1 + 399) / 400 = (y + 399) / 400 + if y % 400 = 0 then 1 else 0 := by
    split <;> omega
  have hle : (y + 99) / 100 ≤ 365 * y + (y + 3) / 4 := by omega
  unfold daysBeforeYear
  rw [h4, h100, h400]
  by_cases m400 : y % 400 = 0
  · have m100 : y % 100 = 0 := by omega
    have m4 : y % 4 = 0 := by omega
    have hleap : isLeap y = true := by simp [isLeap, m4, m400]
    rw [hleap, if_pos m4, if_pos m100, if_pos m400, if_pos rfl]
    omega
  · by_cases m100 : y % 100 = 0
    · have m4 : y % 4 = 0 := by omega
      have hleap : isLeap y = false := by simp [isLeap, m100, m400]
      rw [hleap, if_pos m4, if_pos m100, if_neg m400, if_neg Bool.false_ne_true]
      omega
    · by_cases m4 : y % 4 = 0
      · have hleap : isLeap y = true := by simp [isLeap, m4, m100]
        rw [hleap, if_pos m4, if_neg m100, if_neg m400, if_pos rfl]
        omega
      · have hleap : isLeap y = false := by simp [isLeap, m4]
        rw [hleap, if_neg m4, if_neg m100, if_neg m400, if_neg Bool.false_ne_true]
        omega

theorem daysBeforeYear_le {y z : Nat} (h : y ≤ z) : daysBeforeYear y ≤ daysBeforeYear z := by
  induction h with
  | refl => exact Nat.le_refl _
  | step _ ih => rw [daysBeforeYear_succ]; exact Nat.le_trans ih (Nat.le_add_right _ _)

theorem daysBeforeMonth_succ_le (y m : Nat) : daysBeforeMonth y m ≤ daysBeforeMonth y (m + 1) := by
  cases m with
  | zero => exact Nat.le_refl _
  | succ m => exact Nat.le_add_right _ _

theorem daysBeforeMonth_mono {y m n : Nat} (h : m ≤ n) :
    daysBeforeMonth y m ≤ daysBeforeMonth y n := by
  induction h with
  | refl => exact Nat.le_refl _
  | step _ ih => exact Nat.le_trans ih (daysBeforeMonth_succ_le y _)

theorem daysBeforeMonth_twelve (y : Nat) :
    daysBeforeMonth y 12 = if isLeap y then 335 else 334 := by
  cases h : isLeap y <;> simp [daysBeforeMonth, monthLength, h]

theorem daysBeforeMonth_le {y m : Nat} (h : m ≤ 12) :
    daysBeforeYear y + daysBeforeMonth y m + 31 ≤ daysBeforeYear (y + 1) := by
  have hm := daysBeforeMonth_mono (y := y) h
  rw [daysBeforeMonth_twelve] at hm
  rw [daysBeforeYear_succ]
  cases hleap : isLeap y
  · rw [hleap, if_neg Bool.false_ne_true] at hm
    rw [if_neg Bool.false_ne_true]
    omega
  · rw [hleap, if_pos rfl] at hm
    rw [if_pos rfl]
    omega

/-- **The number of a date stays in the years 1 to 9999**, also past the end of a month. -/
theorem number_mem_years {y m d : Nat} (hy1 : 1 ≤ y) (hy : y ≤ 9999) (hm : m ≤ 12)
    (hd1 : 1 ≤ d) (hd : d ≤ 31) :
    daysBeforeYear 1 ≤ (Date.mk y m 1).number + d - 1 ∧
      (Date.mk y m 1).number + d - 1 < daysBeforeYear 10000 := by
  have hlow := daysBeforeYear_le hy1
  have hmonth := daysBeforeMonth_le (y := y) hm
  have hhigh := daysBeforeYear_le (show y + 1 ≤ 10000 by omega)
  dsimp only [number]
  omega

end Remittance.Date
