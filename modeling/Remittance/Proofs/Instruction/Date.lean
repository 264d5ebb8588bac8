import Remittance.Proofs.Calendar.Order

/-! # What a date is

A date is written with four, two and two ASCII digits and dashes between them, for one of the twelve
months and a day from 1 to 31 (`Written`). A token is taken as a date if and only if it is written in
this way (`date_eq_ok_iff_written`).

The calendar has a reader of its own: it splits the token at its dashes and reads each part as a whole
number of any script. On a token that was taken as a date it finds the three parts with the numbers
they were checked for (`numbers_of_chars`), so the day it counts is that of the date
(`exists_dayOf_of_chars`), and the one year that the calendar does not have is the year 0
(`dayOf_of_yearZero`). `date_written` puts both readers side by side. -/

namespace Remittance.ExecutionDate

/-- A date as it is written: the digits of its year, of its month and of its day. -/
structure Written where
  year : List Char
  month : List Char
  day : List Char
  length_year : year.length = 4
  length_month : month.length = 2
  length_day : day.length = 2
  isDigit : ∀ c ∈ year ++ month ++ day, c.isDigit = true
  month_range : 1 ≤ Nat.ofDigitChars 10 month 0 ∧ Nat.ofDigitChars 10 month 0 ≤ 12
  day_range : 1 ≤ Nat.ofDigitChars 10 day 0 ∧ Nat.ofDigitChars 10 day 0 ≤ 31

namespace Written

/-- The date with its dashes. -/
def chars (w : Written) : List Char :=
  w.year ++ '-' :: (w.month ++ '-' :: w.day)

/-- The date that is written. -/
def date (w : Written) : Date where
  year := Nat.ofDigitChars 10 w.year 0
  month := Nat.ofDigitChars 10 w.month 0
  day := Nat.ofDigitChars 10 w.day 0

variable (w : Written)

theorem isWritable : w.date.IsWritable := ⟨w.month_range, w.day_range⟩

theorem chars_ne_nil : w.chars ≠ [] :=
  List.append_ne_nil_of_right_ne_nil _ (List.cons_ne_nil _ _)

theorem plain?_of_subset {cs : List Char} (h : ∀ c ∈ cs, c ∈ w.year ++ w.month ++ w.day) :
    Numeral.plain? cs = some (Nat.ofDigitChars 10 cs 0) := by
  refine Numeral.plain?_eq_some_iff_ofDigitChars.mpr ⟨fun c hc => ?_, rfl⟩
  rw [Text.isAsciiDigit_eq_isDigit]
  exact w.isDigit c (h c hc)

theorem plain?_year : Numeral.plain? w.year = some w.date.year :=
  w.plain?_of_subset fun _ hc => by simp [hc]

theorem plain?_month : Numeral.plain? w.month = some w.date.month :=
  w.plain?_of_subset fun _ hc => by simp [hc]

theorem plain?_day : Numeral.plain? w.day = some w.date.day :=
  w.plain?_of_subset fun _ hc => by simp [hc]

end Written

variable {token : String} {w : Written}

/-! ### The tokens that are taken -/

theorem dateParts?_of_chars (h : token.toList = w.chars) :
    Field.dateParts? token = some (w.date.year, w.date.month, w.date.day) :=
  dateParts?_eq_some_iff.mpr ⟨w.year, w.month, w.day, h, w.length_year, w.length_month,
    w.length_day, w.plain?_year, w.plain?_month, w.plain?_day⟩

theorem exists_written {year month day : Nat}
    (hparts : Field.dateParts? token = some (year, month, day))
    (hmonth : 1 ≤ month ∧ month ≤ 12) (hday : 1 ≤ day ∧ day ≤ 31) :
    ∃ w : Written, token.toList = w.chars := by
  obtain ⟨ys, ms, ds, htoken, hys, hms, hds, hy, hm, hd⟩ := dateParts?_eq_some_iff.mp hparts
  obtain ⟨hy', -⟩ := Numeral.plain?_eq_some_iff_ofDigitChars.mp hy
  obtain ⟨hm', rfl⟩ := Numeral.plain?_eq_some_iff_ofDigitChars.mp hm
  obtain ⟨hd', rfl⟩ := Numeral.plain?_eq_some_iff_ofDigitChars.mp hd
  refine ⟨⟨ys, ms, ds, hys, hms, hds, fun c hc => ?_, hmonth, hday⟩, htoken⟩
  rw [← Text.isAsciiDigit_eq_isDigit]
  rcases List.mem_append.mp hc with hc | hc
  · rcases List.mem_append.mp hc with hc | hc
    · exact hy' c hc
    · exact hm' c hc
  · exact hd' c hc

/-- **A token is taken as a date if and only if it is written as one**, and it is taken as it is. -/
theorem date_eq_ok_iff_written {d : String} :
    Field.date token = .ok d ↔ d = token ∧ ∃ w : Written, token.toList = w.chars := by
  rw [Field.date_eq_ok_iff]
  refine and_congr_right fun _ => ?_
  constructor
  · rintro ⟨year, month, day, hparts, hm1, hm, hd1, hd⟩
    exact exists_written hparts ⟨hm1, hm⟩ ⟨hd1, hd⟩
  · rintro ⟨w, hw⟩
    exact ⟨_, _, _, dateParts?_of_chars hw, w.month_range.1, w.month_range.2, w.day_range.1,
      w.day_range.2⟩

theorem date_eq_error_iff {r : Reason} : Field.date token = .error r ↔
    r = .invalidDate ∧ ∀ w : Written, token.toList ≠ w.chars := by
  constructor
  · intro h
    refine ⟨Field.date_eq_error h, fun w hw => ?_⟩
    rw [date_eq_ok_iff_written.mpr ⟨rfl, w, hw⟩] at h
    cases h
  · rintro ⟨rfl, hno⟩
    cases h : Field.date token with
    | error r => rw [Field.date_eq_error h]
    | ok d =>
      obtain ⟨-, w, hw⟩ := date_eq_ok_iff_written.mp h
      exact absurd hw (hno w)

/-! ### What the calendar reads -/

theorem parts_chars (w : Written) : parts w.chars = [w.year, w.month, w.day] :=
  parts_dashed w.plain?_year w.plain?_month w.plain?_day

theorem numbers_of_chars (h : token.toList = w.chars) :
    numbers token = .ok (w.date.year, w.date.month, w.date.day) :=
  numbers_of_dateParts? (dateParts?_of_chars h)

/-- A date of the calendar's years has the day that lies as far behind the first of its month as it
says. -/
theorem exists_dayOf_of_chars (h : token.toList = w.chars) (hyear : 1 ≤ w.date.year) :
    ∃ x, dayOf token = .ok x ∧
      x.number = (Date.mk w.date.year w.date.month 1).number + (w.date.day - 1) := by
  refine ⟨_, dayOf_of_dateParts? (dateParts?_of_chars h) hyear w.month_range w.day_range, ?_⟩
  rw [Date.number_ofNumber]
  have := w.isWritable.day
  omega

theorem dayOf_of_yearZero (h : token.toList = w.chars) (hyear : w.date.year = 0) :
    dayOf token = .error (.noSuchYear 0) := by
  have hmonth : w.date.month < 10 ^ 4 := by
    have := w.isWritable.month
    omega
  have hzero : 0 < 10 ^ 4 := by decide
  simp only [dayOf, numbers_of_chars h, hyear, fitWord_of_lt hzero, fitWord_of_lt hmonth,
    Except.ok_bind]
  rfl

/-- **What a date is, for both of its readers.** A token is taken as a date, and as it is, if and only
if it is written as one; any other token and a missing one are refused as no date. The parts of a date
between its dashes are its year, its month and its day, and the calendar reads each of them as the
number that was checked. So the day that it finds is the one that the date says, if the year is not 0;
the calendar does not have this year, and says so. -/
theorem date_written :
    (∀ (token : Option String) (d : String), Field.Reader.ofMissing Field.date token = .ok d ↔
      token = some d ∧ ∃ w : Written, d.toList = w.chars) ∧
    (∀ (token : Option String) (r : Reason),
      Field.Reader.ofMissing Field.date token = .error r ↔
        r = .invalidDate ∧ ∀ d, token = some d → ∀ w : Written, d.toList ≠ w.chars) ∧
    Reason.invalidDate.code = "DT01" ∧
    ∀ (token : String) (w : Written), token.toList = w.chars →
      parts token.toList = [w.year, w.month, w.day] ∧
      [w.year, w.month, w.day].map (fun p => Numeral.whole (String.ofList p)) =
        [.ok w.date.year, .ok w.date.month, .ok w.date.day] ∧
      numbers token = .ok (w.date.year, w.date.month, w.date.day) ∧
      (1 ≤ w.date.year → ∃ x, dayOf token = .ok x ∧
        x.number = (Date.mk w.date.year w.date.month 1).number + (w.date.day - 1)) ∧
      (w.date.year = 0 → dayOf token = .error (.noSuchYear 0)) := by
  refine ⟨fun token d => ?_, fun token r => ?_, rfl, fun token w h => ⟨?_, ?_, numbers_of_chars h,
    exists_dayOf_of_chars h, dayOf_of_yearZero h⟩⟩
  · unfold Field.Reader.ofMissing
    rw [date_eq_ok_iff_written]
    cases token with
    | none =>
      constructor
      · rintro ⟨-, w, hw⟩
        exact absurd hw.symm w.chars_ne_nil
      · rintro ⟨h, -⟩
        cases h
    | some token =>
      rw [Option.getD_some, Option.some.injEq, eq_comm]
      exact and_congr_right fun h => by rw [h]
  · unfold Field.Reader.ofMissing
    rw [date_eq_error_iff]
    refine and_congr_right fun _ => ?_
    cases token with
    | none =>
      refine iff_of_true (fun w hw => w.chars_ne_nil hw.symm) fun d hd => ?_
      cases hd
    | some token => simp
  · rw [h, parts_chars]
  · simp only [List.map_cons, List.map_nil, whole_of_part (.inl w.length_year) w.plain?_year,
      whole_of_part (.inr w.length_month) w.plain?_month,
      whole_of_part (.inr w.length_day) w.plain?_day]

/-- Any month may have 31 days, and only ASCII digits count. -/
example : Field.date "2023-02-31" = .ok "2023-02-31" ∧
    Field.date "2023-02-32" = .error .invalidDate ∧
    Field.date "2023-02-3１" = .error .invalidDate ∧
    Field.date "+023-02-31" = .error .invalidDate := by
  decide +kernel

end Remittance.ExecutionDate
