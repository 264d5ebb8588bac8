import Remittance.Proofs.Calendar.ExecutionDate
import Remittance.Proofs.Numeral.Decimal

/-! # Days past the end of a month

A date of the calendar is found again from its number (`Date.ofNumber_number`), as its number lies
among those of its year and its month. The days of a date that a sentence may give are counted from
the first of its month, and those past the end of the month are dates of the next one
(`Date.number_rollover`), which always belongs to the same year: only months of less than 31 days are
left in this way, and December is none of them. So such a date is read as the date it is written as,
or as one of the first days of the next month (`ExecutionDate.dayOf_rollover`). -/

namespace Remittance

namespace Date

/-! ### The months of a year -/

theorem monthLength_le (y m : Nat) : monthLength y m ≤ 31 := by
  unfold monthLength
  split_ifs <;> omega

theorem le_monthLength (y m : Nat) : 28 ≤ monthLength y m := by
  unfold monthLength
  split_ifs <;> omega

theorem monthLength_december (y : Nat) : monthLength y 12 = 31 := rfl

theorem daysBeforeMonth_succ {y m : Nat} (hm : 1 ≤ m) :
    daysBeforeMonth y (m + 1) = daysBeforeMonth y m + monthLength y m := by
  obtain ⟨k, rfl⟩ : ∃ k, m = k + 1 := ⟨m - 1, by omega⟩
  rfl

/-! ### The date with a number -/

theorem lastYear_eq {n y z : Nat} (hy : daysBeforeYear y ≤ n) (hn : n < daysBeforeYear (y + 1))
    (hz : y ≤ z) : lastYear n z = y := by
  induction z with
  | zero =>
    have h0 : y = 0 := by omega
    rw [h0]
    rfl
  | succ z ih =>
    unfold lastYear
    by_cases hstop : daysBeforeYear (z + 1) ≤ n
    · have hle : z + 1 ≤ y := by
        by_contra hlt
        have hmono := daysBeforeYear_le (show y + 1 ≤ z + 1 by omega)
        omega
      rw [if_pos hstop]
      omega
    · have hne : y ≠ z + 1 := by
        rintro rfl
        exact hstop hy
      rw [if_neg hstop]
      exact ih (by omega)

theorem lastMonth_eq {y n m k : Nat} (hm : 1 ≤ m) (hle : daysBeforeMonth y m ≤ n)
    (hn : n < daysBeforeMonth y (m + 1)) (hk : m ≤ k) : lastMonth y n k = m := by
  induction k with
  | zero => omega
  | succ k ih =>
    unfold lastMonth
    by_cases hstop : daysBeforeMonth y (k + 1) ≤ n
    · have hle' : k + 1 ≤ m := by
        by_contra hlt
        have hmono := daysBeforeMonth_mono (y := y) (show m + 1 ≤ k + 1 by omega)
        omega
      rw [if_pos hstop]
      omega
    · have hne : m ≠ k + 1 := by
        rintro rfl
        exact hstop hle
      rw [if_neg hstop]
      exact ih (by omega)

/-- **A date of the calendar is that of its number.** -/
theorem ofNumber_number {d : Date} (h : d.Exists) : ofNumber d.number = d := by
  obtain ⟨y, m, day⟩ := d
  obtain ⟨hm1, hm, hd1, hd⟩ := h
  dsimp only at hm1 hm hd1 hd
  have hmonth := daysBeforeMonth_succ (y := y) hm1
  have hyear := daysBeforeMonth_le (y := y) hm
  have hlen := monthLength_le y m
  have hbound : 365 * y ≤ daysBeforeYear y := by
    unfold daysBeforeYear
    omega
  have hnumber : (Date.mk y m day).number = daysBeforeYear y + daysBeforeMonth y m + day - 1 := rfl
  have hfound : lastYear (Date.mk y m day).number ((Date.mk y m day).number / 365) = y :=
    lastYear_eq (by omega) (by omega) (by omega)
  have hrest : (Date.mk y m day).number - daysBeforeYear y = daysBeforeMonth y m + day - 1 := by
    omega
  have hfound' : lastMonth y (daysBeforeMonth y m + day - 1) 12 = m :=
    lastMonth_eq hm1 (by omega) (by omega) hm
  unfold ofNumber
  dsimp only
  rw [hfound, hrest, hfound', Date.mk.injEq]
  omega

/-! ### Past the end of a month -/

/-- **The days past the end of a month are those of the next one.** -/
theorem number_rollover {y m d : Nat} (hm : 1 ≤ m) (hd : monthLength y m < d) :
    (Date.mk y m 1).number + d - 1 = (Date.mk y (m + 1) (d - monthLength y m)).number := by
  have hmonth := daysBeforeMonth_succ (y := y) hm
  unfold number
  dsimp only
  omega

theorem lt_twelve_of_monthLength_lt {y m d : Nat} (hm : m ≤ 12) (hd : d ≤ 31)
    (hpast : monthLength y m < d) : m < 12 := by
  by_contra hlast
  have hdecember : m = 12 := by omega
  rw [hdecember, monthLength_december] at hpast
  omega

theorem exists_rollover {y m d : Nat} (hm : m ≤ 12) (hd : d ≤ 31) (hpast : monthLength y m < d) :
    (Date.mk y (m + 1) (d - monthLength y m)).Exists := by
  have hlast := lt_twelve_of_monthLength_lt hm hd hpast
  have hlen := le_monthLength y m
  have hlen' := le_monthLength y (m + 1)
  refine ⟨?_, ?_, ?_, ?_⟩ <;> dsimp only <;> omega

/-! ### Dates as texts -/

theorem toList_padded_of_plain? {cs : List Char} {w n : Nat} (hw : 0 < w) (hlen : cs.length = w)
    (h : Numeral.plain? cs = some n) : (padded w n).toList = cs := by
  have hn : n < 10 ^ w := hlen ▸ Numeral.lt_of_plain? h
  have hdigits := Numeral.length_toString_le hw hn
  have hpadded : (padded w n).toList =
      List.replicate (w - (toString n).length) '0' ++ Nat.toDigits 10 n :=
    Numeral.toList_zeros_toString _ n
  have hplain : Numeral.plain? (padded w n).toList = some n := by
    rw [hpadded]
    exact Numeral.plain?_zeros_toDigits _ n
  refine Numeral.eq_of_plain? ?_ hplain h
  rw [hpadded, List.length_append, List.length_replicate, ← Numeral.length_toString]
  omega

/-- **A token with a date in it is the text of the date.** -/
theorem text_of_dateParts? {token : String} {year month day : Nat}
    (h : Field.dateParts? token = some (year, month, day)) :
    (Date.mk year month day).text = token := by
  obtain ⟨ys, ms, ds, htoken, hys, hms, hds, hy, hm, hd⟩ :=
    ExecutionDate.dateParts?_eq_some_iff.mp h
  rw [← String.toList_inj, htoken]
  unfold text
  simp only [String.toList_append, toList_padded_of_plain? (by omega) hys hy,
    toList_padded_of_plain? (by omega) hms hm, toList_padded_of_plain? (by omega) hds hd]
  simp

end Date

namespace ExecutionDate

theorem take_midnightText {token : String} {d : Date} (hlen : token.toList.length = 10)
    (h : d.text = token) : (midnightText d).toList.take 10 = token.toList := by
  unfold midnightText
  rw [h, String.toList_append, List.take_left' hlen]

/-- **A date that a sentence may give is read as a day of its year.** The token is the text of a
year, a month and a day. If the calendar has this date, it is the day found, and midnight UTC of it
is written with the token in front. Otherwise the days past the end of the month are counted on in
the next month, which belongs to the same year, so that no date leads past the year 9999. -/
theorem dayOf_rollover {token d : String} {year month day : Nat}
    (htoken : Field.date token = .ok d) (hparts : Field.dateParts? d = some (year, month, day))
    (hyear : 1 ≤ year) :
    d = token ∧ token = (Date.mk year month day).text ∧
    ∃ found, dayOf d = .ok found ∧ found.Exists ∧ found.year = year ∧ year ≤ 9999 ∧
      ((Date.mk year month day).Exists →
        found = ⟨year, month, day⟩ ∧ (midnightText found).toList.take 10 = token.toList) ∧
      (¬ (Date.mk year month day).Exists → month + 1 ≤ 12 ∧
        found = ⟨year, month + 1, day - Date.monthLength year month⟩) := by
  obtain ⟨rfl, year', month', day', hparts', hm1, hm, hd1, hd⟩ := Field.date_eq_ok_iff.mp htoken
  rw [hparts] at hparts'
  cases hparts'
  obtain ⟨ys, ms, ds, hsplit, hys, hms, hds, hy, -, -⟩ := dateParts?_eq_some_iff.mp hparts
  have hyear' : year < 10 ^ 4 := hys ▸ Numeral.lt_of_plain? hy
  have hday := dayOf_of_dateParts? hparts hyear ⟨hm1, hm⟩ ⟨hd1, hd⟩
  have htext := Date.text_of_dateParts? hparts
  have hlen : d.toList.length = 10 := by
    rw [hsplit]
    simp [hys, hms, hds]
  have hexists : (Date.mk year month day).Exists ↔ day ≤ Date.monthLength year month :=
    ⟨fun h => h.2.2.2, fun h => ⟨hm1, hm, hd1, h⟩⟩
  refine ⟨rfl, htext.symm, ?_⟩
  by_cases hstands : day ≤ Date.monthLength year month
  · have hfound : Date.ofNumber ((Date.mk year month 1).number + day - 1) = ⟨year, month, day⟩ := by
      have hnumber : (Date.mk year month 1).number + day - 1 = (Date.mk year month day).number := by
        unfold Date.number
        dsimp only
        omega
      rw [hnumber, Date.ofNumber_number (hexists.mpr hstands)]
    rw [hfound] at hday
    refine ⟨_, hday, hexists.mpr hstands, rfl, by omega, fun _ => ?_, fun hnot => ?_⟩
    · exact ⟨rfl, take_midnightText hlen htext⟩
    · exact absurd (hexists.mpr hstands) hnot
  · rw [Nat.not_le] at hstands
    have hrolled := Date.exists_rollover (y := year) hm hd hstands
    have hlast := Date.lt_twelve_of_monthLength_lt hm hd hstands
    rw [Date.number_rollover hm1 hstands, Date.ofNumber_number hrolled] at hday
    refine ⟨_, hday, hrolled, rfl, by omega, fun h => ?_, fun _ => ⟨hlast, rfl⟩⟩
    have hle := hexists.mp h
    omega

/-- The last day of all is read as it is written, and of a February that is too short three days are
left for March. -/
theorem dayOf_rollover_february :
    (Field.date "9999-12-31" = .ok "9999-12-31" ∧ dayOf "9999-12-31" = .ok ⟨9999, 12, 31⟩) ∧
    Field.date "2023-02-31" = .ok "2023-02-31" ∧ dayOf "2023-02-31" = .ok ⟨2023, 3, 3⟩ := by
  have hlast : Field.date "9999-12-31" = .ok "9999-12-31" := by rfl
  have hshort : Field.date "2023-02-31" = .ok "2023-02-31" := by rfl
  have hparts : Field.dateParts? "9999-12-31" = some (9999, 12, 31) := by rfl
  have hparts' : Field.dateParts? "2023-02-31" = some (2023, 2, 31) := by rfl
  obtain ⟨-, -, found, hfound, -, -, -, hstands, -⟩ := dayOf_rollover hlast hparts (by omega)
  obtain ⟨-, -, found', hfound', -, -, -, -, hpast⟩ := dayOf_rollover hshort hparts' (by omega)
  rw [hfound, hfound', (hstands (by decide)).1, (hpast (by decide)).2]
  exact ⟨⟨hlast, rfl⟩, hshort, rfl⟩

end ExecutionDate

end Remittance
