import Remittance.Proofs.Calendar.Rollover

/-! # The order of dates

Dates are ordered by year, month and day (`Date.Before`). The texts of dates are ordered in this way
(`ExecutionDate.lt_iff_before`), as the year, the month and the day stand in them one after the other,
each in as many digits as in any other date. The days from 0000-01-01 are ordered in this way too
(`Date.elapsed_lt_iff_before`) among dates of the calendar and among dates of one month. So a token
comes before another one in the order of texts if and only if its midnight is the earlier one
(`ExecutionDate.lt_iff_midnight_lt`), unless one of the two is a day past the end of a month and the
other a day of another month. -/

namespace Remittance

namespace Date

/-- Whether a date comes before another one, by year, month and day. -/
def Before (d e : Date) : Prop :=
  d.year < e.year ∨ (d.year = e.year ∧ (d.month < e.month ∨ (d.month = e.month ∧ d.day < e.day)))

/-- The month and the day are such as a sentence may give. -/
structure IsWritable (d : Date) : Prop where
  month : 1 ≤ d.month ∧ d.month ≤ 12
  day : 1 ≤ d.day ∧ d.day ≤ 31

/-- Two dates whose days are in the order of the dates: both are in the calendar, or they have their
month in common. -/
def Comparable (d e : Date) : Prop :=
  (d.Exists ∧ e.Exists) ∨ (d.year = e.year ∧ d.month = e.month)

variable {d e : Date}

theorem Comparable.symm (h : d.Comparable e) : e.Comparable d := by
  rcases h with ⟨hd, he⟩ | ⟨hyear, hmonth⟩
  · exact .inl ⟨he, hd⟩
  · exact .inr ⟨hyear.symm, hmonth.symm⟩

theorem before_or_eq_or_before (d e : Date) : d.Before e ∨ d = e ∨ e.Before d := by
  obtain ⟨y, m, n⟩ := d
  obtain ⟨y', m', n'⟩ := e
  unfold Before
  rw [Date.mk.injEq]
  dsimp only
  omega

theorem elapsed_lt_of_before (hd : d.IsWritable) (he : e.IsWritable) (h : d.Comparable e)
    (hbefore : d.Before e) : d.elapsed < e.elapsed := by
  have hnumber := number_eq_elapsed hd.month.1 hd.day.1
  have hnumber' := number_eq_elapsed he.month.1 he.day.1
  rcases hbefore with hyear | ⟨hyear, hmonth | ⟨hmonth, hday⟩⟩
  · have hlt := elapsed_lt_daysBeforeYear hd.month.1 hd.month.2 hd.day.1 hd.day.2
    have hmono := daysBeforeYear_le (show d.year + 1 ≤ e.year by omega)
    have hle := daysBeforeYear_le_elapsed e
    omega
  · -- the day of the earlier date has to be one of its own month
    have hstands : d.day ≤ monthLength d.year d.month := by
      rcases h with ⟨hd, -⟩ | ⟨-, hsame⟩
      · exact hd.2.2.2
      · omega
    have hnext := daysBeforeMonth_succ (y := d.year) hd.month.1
    have hmono := daysBeforeMonth_mono (y := d.year) (show d.month + 1 ≤ e.month by omega)
    have hday := hd.day
    have hday' := he.day
    unfold number at hnumber hnumber'
    rw [← hyear] at hnumber'
    omega
  · have hday' := hd.day
    unfold number at hnumber hnumber'
    rw [← hyear, ← hmonth] at hnumber'
    omega

/-- **The days of dates are ordered as the dates**, in the calendar and in one month. -/
theorem elapsed_lt_iff_before (hd : d.IsWritable) (he : e.IsWritable) (h : d.Comparable e) :
    d.elapsed < e.elapsed ↔ d.Before e := by
  refine ⟨fun hlt => ?_, elapsed_lt_of_before hd he h⟩
  rcases before_or_eq_or_before d e with hbefore | rfl | hafter
  · exact hbefore
  · omega
  · have hgt := elapsed_lt_of_before he hd h.symm hafter
    omega

theorem elapsed_eq_iff (hd : d.IsWritable) (he : e.IsWritable) (h : d.Comparable e) :
    d.elapsed = e.elapsed ↔ d = e := by
  refine ⟨fun heq => ?_, fun heq => by rw [heq]⟩
  rcases before_or_eq_or_before d e with hbefore | hsame | hafter
  · have hlt := elapsed_lt_of_before hd he h hbefore
    omega
  · exact hsame
  · have hgt := elapsed_lt_of_before he hd h.symm hafter
    omega

end Date

namespace ExecutionDate

variable {a b : String} {x y : Date}

/-! ### The order of tokens -/

theorem isWritable_of_date (htoken : Field.date a = .ok b)
    (hparts : Field.dateParts? a = some (x.year, x.month, x.day)) : x.IsWritable := by
  obtain ⟨-, year, month, day, hparts', hm1, hm, hd1, hd⟩ := Field.date_eq_ok_iff.mp htoken
  rw [hparts] at hparts'
  cases hparts'
  exact ⟨⟨hm1, hm⟩, ⟨hd1, hd⟩⟩

/-- **Texts of dates are ordered as the dates.** -/
theorem lt_iff_before (ha : Field.dateParts? a = some (x.year, x.month, x.day))
    (hb : Field.dateParts? b = some (y.year, y.month, y.day)) : a < b ↔ x.Before y := by
  obtain ⟨ys, ms, ds, hsplit, hys, hms, hds, hy, hm, hd⟩ := dateParts?_eq_some_iff.mp ha
  obtain ⟨ys', ms', ds', hsplit', hys', hms', hds', hy', hm', hd'⟩ := dateParts?_eq_some_iff.mp hb
  have hlen : ys.length = ys'.length := by omega
  have hlen' : ms.length = ms'.length := by omega
  have hlen'' : ds.length = ds'.length := by omega
  have hyear : ys = ys' ↔ x.year = y.year := by
    refine ⟨fun h => ?_, fun h => Numeral.eq_of_plain? hlen hy (h ▸ hy')⟩
    rw [h, hy'] at hy
    exact (Option.some.inj hy).symm
  have hmonth : ms = ms' ↔ x.month = y.month := by
    refine ⟨fun h => ?_, fun h => Numeral.eq_of_plain? hlen' hm (h ▸ hm')⟩
    rw [h, hm'] at hm
    exact (Option.some.inj hm).symm
  rw [String.lt_iff, hsplit, hsplit', Text.append_lt_append_iff hlen, List.cons_lt_cons_iff,
    Text.append_lt_append_iff hlen', List.cons_lt_cons_iff, Numeral.lt_iff_of_plain? hlen hy hy',
    Numeral.lt_iff_of_plain? hlen' hm hm', Numeral.lt_iff_of_plain? hlen'' hd hd', hyear, hmonth]
  simp [Date.Before]

theorem eq_iff_of_dateParts? (ha : Field.dateParts? a = some (x.year, x.month, x.day))
    (hb : Field.dateParts? b = some (y.year, y.month, y.day)) : a = b ↔ x = y := by
  constructor
  · rintro rfl
    rw [ha] at hb
    obtain ⟨_, _, _⟩ := x
    cases hb
    rfl
  · rintro rfl
    rw [← Date.text_of_dateParts? ha, ← Date.text_of_dateParts? hb]

/-! ### The order of days -/

theorem exists_midnight (ha : Field.dateParts? a = some (x.year, x.month, x.day))
    (hx : x.IsWritable) (hyear : 1 ≤ x.year) :
    ∃ day, dayOf a = .ok day ∧ Moment.midnight day = (x.elapsed * Moment.dayLength : Int) := by
  refine ⟨_, dayOf_of_dateParts? ha hyear hx.month hx.day, ?_⟩
  unfold Moment.midnight
  rw [Date.number_ofNumber, Date.number_first_add hx.month.1 hx.day.1, Int.natCast_mul]

theorem isFuture_eq_decide {now : Moment} (htoken : Field.date a = .ok b)
    (ha : Field.dateParts? a = some (x.year, x.month, x.day)) (hyear : 1 ≤ x.year)
    (hnow : now.isPlaced = true) :
    isFuture (some a) now = .ok (decide (now.instant < x.elapsed * Moment.dayLength)) := by
  rw [isFuture_eq_due htoken hnow, due?_eq ha, if_pos hyear]
  rfl

/-- **Tokens are ordered as the midnights they stand for**, if both are dates of the calendar or have
their month in common: one is smaller as a text if and only if its day begins earlier, and two days
are the same only if the tokens are. Hence a clock that is behind the earlier date is behind the
later one. -/
theorem lt_iff_midnight_lt (ha : Field.date a = .ok a) (hb : Field.date b = .ok b)
    (hx : Field.dateParts? a = some (x.year, x.month, x.day))
    (hy : Field.dateParts? b = some (y.year, y.month, y.day)) (hxyear : 1 ≤ x.year)
    (hyyear : 1 ≤ y.year)
    (h : (x.Exists ∧ y.Exists) ∨ (x.year = y.year ∧ x.month = y.month)) :
    ∃ dayA dayB, dayOf a = .ok dayA ∧ dayOf b = .ok dayB ∧
      (a < b ↔ Moment.midnight dayA < Moment.midnight dayB) ∧
      (a = b ↔ Moment.midnight dayA = Moment.midnight dayB) ∧
      ∀ now : Moment, now.isPlaced = true → a < b → isFuture (some a) now = .ok true →
        isFuture (some b) now = .ok true := by
  have hxw := isWritable_of_date ha hx
  have hyw := isWritable_of_date hb hy
  have htokens : a < b ↔ x.elapsed < y.elapsed := by
    rw [lt_iff_before hx hy, Date.elapsed_lt_iff_before hxw hyw h]
  have htokens' : a = b ↔ x.elapsed = y.elapsed := by
    rw [eq_iff_of_dateParts? hx hy, Date.elapsed_eq_iff hxw hyw h]
  obtain ⟨dayA, hdayA, hmidnightA⟩ := exists_midnight hx hxw hxyear
  obtain ⟨dayB, hdayB, hmidnightB⟩ := exists_midnight hy hyw hyyear
  refine ⟨dayA, dayB, hdayA, hdayB, ?_, ?_, fun now hnow hlt hahead => ?_⟩
  · rw [hmidnightA, hmidnightB, htokens]
    unfold Moment.dayLength
    omega
  · rw [hmidnightA, hmidnightB, htokens']
    unfold Moment.dayLength
    omega
  · rw [isFuture_eq_decide ha hx hxyear hnow, Except.ok.injEq, decide_eq_true_eq] at hahead
    rw [isFuture_eq_decide hb hy hyyear hnow, Except.ok.injEq, decide_eq_true_eq]
    rw [htokens] at hlt
    unfold Moment.dayLength at hahead ⊢
    omega

/-- The last day of a year and the first day of the next, and two days past the end of one month. -/
theorem midnight_lt_newYear :
    (∃ dayA dayB, dayOf "2023-12-31" = .ok dayA ∧ dayOf "2024-01-01" = .ok dayB ∧
      Moment.midnight dayA < Moment.midnight dayB) ∧
    ∃ dayA dayB, dayOf "2024-02-30" = .ok dayA ∧ dayOf "2024-02-31" = .ok dayB ∧
      Moment.midnight dayA < Moment.midnight dayB := by
  constructor
  · obtain ⟨dayA, dayB, hdayA, hdayB, hlt, -⟩ :=
      lt_iff_midnight_lt (a := "2023-12-31") (b := "2024-01-01") (x := ⟨2023, 12, 31⟩)
        (y := ⟨2024, 1, 1⟩) (by rfl) (by rfl) (by rfl) (by rfl) (by decide) (by decide)
        (.inl (by decide))
    exact ⟨dayA, dayB, hdayA, hdayB, hlt.mp (by decide +kernel)⟩
  · obtain ⟨dayA, dayB, hdayA, hdayB, hlt, -⟩ :=
      lt_iff_midnight_lt (a := "2024-02-30") (b := "2024-02-31") (x := ⟨2024, 2, 30⟩)
        (y := ⟨2024, 2, 31⟩) (by rfl) (by rfl) (by rfl) (by rfl) (by decide) (by decide)
        (.inr (by decide))
    exact ⟨dayA, dayB, hdayA, hdayB, hlt.mp (by decide +kernel)⟩

/-- A day past the end of February comes after the first of March, although its token does not. -/
example : "2024-02-31" < "2024-03-01" ∧ dayOf "2024-02-31" = .ok ⟨2024, 3, 2⟩ ∧
    dayOf "2024-03-01" = .ok ⟨2024, 3, 1⟩ := by
  decide +kernel

end ExecutionDate

end Remittance
