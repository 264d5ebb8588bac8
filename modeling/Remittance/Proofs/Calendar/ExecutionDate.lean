import Mathlib.Data.List.Basic
import Remittance.Calendar.ExecutionDate
import Remittance.Proofs.Calendar.Elapsed
import Remittance.Proofs.Except
import Remittance.Proofs.Instruction.Field
import Remittance.Proofs.Numeral.Digits

/-! # Dates that a sentence may give

A token is taken as a date if it holds four, two and two digits with dashes between them
(`dateParts?_eq_some_iff`). The calendar reads the same three numbers from it
(`numbers_of_dateParts?`), so it finds a day for every such token of the years 1 to 9999
(`dayOf_of_dateParts?`); the year 0 is recognised by its text (`inYearZero_iff`). Hence a date that a
sentence may give lies ahead of a clock up to one instant, from which on it is due
(`isFuture_eq_due`): midnight UTC of its day, counted through the calendar with the year 0 in it
(`isFuture_iff_instant_lt`). -/

namespace Remittance.ExecutionDate

open Numeral (plain?)

/-! ### The parts of a text -/

theorem parts_eq_splitOn (cs : List Char) : parts cs = cs.splitOn '-' := by
  induction cs with
  | nil => rfl
  | cons c cs ih =>
    rw [parts, ih, List.splitOn_eq_splitOnP, List.splitOn_eq_splitOnP,
      List.splitOnP_cons_eq_if_modifyHead]
    by_cases hc : c = '-'
    · rw [if_pos hc, if_pos (beq_iff_eq.mpr hc)]
    · rw [if_neg hc, if_neg fun h => hc (beq_iff_eq.mp h)]
      cases h : cs.splitOnP (· == '-') with
      | nil => exact absurd h (List.splitOnP_ne_nil _ _)
      | cons p ps => rfl

theorem not_mem_of_plain? {cs : List Char} {n : Nat} (h : plain? cs = some n) : '-' ∉ cs :=
  fun hmem => absurd ((Numeral.plain?_eq_some_iff.mp h).1 '-' hmem) (by decide)

theorem parts_dashed {ys ms ds : List Char} {year month day : Nat} (hy : plain? ys = some year)
    (hm : plain? ms = some month) (hd : plain? ds = some day) :
    parts (ys ++ '-' :: (ms ++ '-' :: ds)) = [ys, ms, ds] := by
  have hdash : ∀ p ∈ [ys, ms, ds], '-' ∉ p := by
    simp [not_mem_of_plain? hy, not_mem_of_plain? hm, not_mem_of_plain? hd]
  have hjoin : ys ++ '-' :: (ms ++ '-' :: ds) = ['-'].intercalate [ys, ms, ds] := by
    simp [List.intercalate]
  rw [parts_eq_splitOn, hjoin]
  exact List.splitOn_intercalate '-' hdash (List.cons_ne_nil _ _)

theorem whole_of_part {cs : List Char} {n : Nat} (hlen : cs.length = 4 ∨ cs.length = 2)
    (h : plain? cs = some n) : Numeral.whole (String.ofList cs) = .ok n := by
  refine Numeral.whole_of_plain? ?_ ?_ h
  · rintro rfl
    simp at hlen
  · unfold Numeral.digitLimit
    omega

/-- **A token of four, two and two digits**, taken apart. -/
theorem dateParts?_eq_some_iff {token : String} {year month day : Nat} :
    Field.dateParts? token = some (year, month, day) ↔
      ∃ ys ms ds, token.toList = ys ++ '-' :: (ms ++ '-' :: ds) ∧ ys.length = 4 ∧
        ms.length = 2 ∧ ds.length = 2 ∧ plain? ys = some year ∧ plain? ms = some month ∧
        plain? ds = some day := by
  unfold Field.dateParts?
  constructor
  · split
    · next y₁ y₂ y₃ y₄ m₁ m₂ d₁ d₂ htoken =>
      intro h
      simp only [Option.bind_eq_bind, Option.bind_eq_some_iff, Option.pure_def, Option.some_inj,
        Prod.mk.injEq] at h
      obtain ⟨y, hy, m, hm, d, hd, rfl, rfl, rfl⟩ := h
      exact ⟨[y₁, y₂, y₃, y₄], [m₁, m₂], [d₁, d₂], htoken, rfl, rfl, rfl, hy, hm, hd⟩
    · intro h; cases h
  · rintro ⟨ys, ms, ds, htoken, hys, hms, hds, hy, hm, hd⟩
    obtain ⟨y₁, y₂, y₃, y₄, rfl⟩ := List.length_eq_four.mp hys
    obtain ⟨m₁, m₂, rfl⟩ := List.length_eq_two.mp hms
    obtain ⟨d₁, d₂, rfl⟩ := List.length_eq_two.mp hds
    rw [htoken]
    simp only [List.cons_append, List.nil_append, hy, hm, hd]
    rfl

theorem visible_of_plain? {cs : List Char} {n : Nat} (h : plain? cs = some n) :
    ∀ c ∈ cs, 0x21 ≤ c.toNat ∧ c.toNat ≤ 0x7E := by
  intro c hc
  have hdigit := Text.isAsciiDigit_iff.mp ((Numeral.plain?_eq_some_iff.mp h).1 c hc)
  omega

/-- **The calendar reads the numbers that the token was checked for.** -/
theorem numbers_of_dateParts? {token : String} {year month day : Nat}
    (h : Field.dateParts? token = some (year, month, day)) :
    numbers token = .ok (year, month, day) := by
  obtain ⟨ys, ms, ds, htoken, hys, hms, hds, hy, hm, hd⟩ := dateParts?_eq_some_iff.mp h
  have hparts : parts token.toList = [ys, ms, ds] := by rw [htoken, parts_dashed hy hm hd]
  have hwhole : ∀ {cs : List Char} {n : Nat}, cs.length = 4 ∨ cs.length = 2 → plain? cs = some n →
      (Numeral.whole (String.ofList cs)).mapError Fault.part = .ok n :=
    fun hlen hn => Except.mapError_eq_ok_iff.mpr (whole_of_part hlen hn)
  unfold numbers
  rw [hparts]
  simp only [List.take, List.mapM_cons, List.mapM_nil, hwhole (.inl hys) hy, hwhole (.inr hms) hm,
    hwhole (.inr hds) hd]
  rfl

theorem visible_of_dateParts? {token : String} {year month day : Nat}
    (h : Field.dateParts? token = some (year, month, day)) :
    ∀ c ∈ token.toList, 0x21 ≤ c.toNat ∧ c.toNat ≤ 0x7E := by
  obtain ⟨ys, ms, ds, htoken, -, -, -, hy, hm, hd⟩ := dateParts?_eq_some_iff.mp h
  rw [htoken]
  simp only [List.forall_mem_append, List.forall_mem_cons]
  exact ⟨visible_of_plain? hy, by decide, visible_of_plain? hm, by decide, visible_of_plain? hd⟩

/-! ### The day of a date -/

variable {token : String}

theorem inYearZero_iff {year month day : Nat}
    (h : Field.dateParts? token = some (year, month, day)) :
    inYearZero token = true ↔ year = 0 := by
  obtain ⟨ys, ms, ds, htoken, hys, -, -, hy, -, -⟩ := dateParts?_eq_some_iff.mp h
  unfold inYearZero
  rw [List.isPrefixOf_iff_prefix, htoken]
  constructor
  · rintro ⟨rest, hrest⟩
    have htake := congrArg (List.take 4) hrest
    have hzeros : ys = ['0', '0', '0', '0'] := by
      rw [List.take_left' hys] at htake; exact htake.symm
    rw [hzeros] at hy
    exact (Option.some.inj hy).symm
  · rintro rfl
    have hzeros := Numeral.eq_replicate_of_plain?_zero hy
    exact ⟨ms ++ '-' :: ds, by rw [hzeros, hys]; rfl⟩

theorem fitWord_of_lt {n : Nat} (h : n < 10 ^ 4) : fitWord n = .ok () := by
  rw [fitWord, if_neg (by omega), if_neg (by omega)]
  rfl

/-- **A date of the years 1 to 9999 has a day**, also past the end of its month. -/
theorem dayOf_of_dateParts? {year month day : Nat}
    (h : Field.dateParts? token = some (year, month, day)) (hyear : 1 ≤ year)
    (hmonth : 1 ≤ month ∧ month ≤ 12) (hday : 1 ≤ day ∧ day ≤ 31) :
    dayOf token = .ok (Date.ofNumber ((Date.mk year month 1).number + day - 1)) := by
  obtain ⟨ys, -, -, -, hys, -, -, hy, -, -⟩ := dateParts?_eq_some_iff.mp h
  have hyear' : year < 10 ^ 4 := hys ▸ Numeral.lt_of_plain? hy
  have hnumber := Date.number_mem_years hyear (by omega) hmonth.2 hday.1 hday.2
  have hdays : fitDays ((day : Int) - 1) = .ok () := by
    rw [fitDays, if_neg (by omega), if_neg (by omega)]; rfl
  have hmonth' : month < 10 ^ 4 := by omega
  simp only [dayOf, numbers_of_dateParts? h, fitWord_of_lt hyear', fitWord_of_lt hmonth',
    hdays, Except.ok_bind]
  rw [if_neg (by omega), if_neg (by omega), if_neg (by omega)]
  rfl

/-! ### Comparing with a clock -/

/-- The instant from which on a date does not lie ahead any more: midnight UTC of its day. A date of
the year 0 never lies ahead. -/
def due? (token : String) : Option Int :=
  match Field.dateParts? token with
  | some (year, month, day) =>
    if 1 ≤ year then some ((Date.mk year month day).elapsed * Moment.dayLength : Int) else none
  | none => none

theorem due?_eq {year month day : Nat} (h : Field.dateParts? token = some (year, month, day)) :
    due? token =
      if 1 ≤ year then some ((Date.mk year month day).elapsed * Moment.dayLength : Int)
      else none := by
  unfold due?
  rw [h]

/-- **A date that a sentence may give lies ahead until it is due**, for every clock that tells its
offset. -/
theorem isFuture_eq_due {d : String} {now : Moment} (h : Field.date token = .ok d)
    (hnow : now.isPlaced = true) :
    isFuture (some token) now = .ok ((due? token).any fun due => now.instant < due) := by
  obtain ⟨-, year, month, day, hparts, hm1, hm, hd1, hd⟩ := Field.date_eq_ok_iff.mp h
  rw [due?_eq hparts, isFuture]
  by_cases hyear : 1 ≤ year
  · have hzero : inYearZero token = false := by
      rw [← Bool.not_eq_true, inYearZero_iff hparts]; omega
    have hday := dayOf_of_dateParts? hparts hyear ⟨hm1, hm⟩ ⟨hd1, hd⟩
    have hmidnight : Moment.midnight
        (Date.ofNumber ((Date.mk year month 1).number + day - 1)) =
          (Date.mk year month day).elapsed * Moment.dayLength := by
      unfold Moment.midnight
      rw [Date.number_ofNumber, Date.number_first_add hm1 hd1, Int.natCast_mul]
    rw [hzero, hday, hnow, if_pos hyear]
    show Except.ok (decide (now.instant < Moment.midnight _)) = _
    rw [hmidnight]
    rfl
  · have hzero : inYearZero token = true := by
      rw [inYearZero_iff hparts]; omega
    rw [hzero, if_neg hyear]
    rfl

theorem isFuture_of_date {d : String} {now : Moment} (h : Field.date token = .ok d)
    (hnow : now.isPlaced = true) : ∃ b, isFuture (some token) now = .ok b :=
  ⟨_, isFuture_eq_due h hnow⟩

theorem instant_eq_elapsed {now : Moment} (hdate : now.date.Exists) :
    now.instant =
      now.date.elapsed * Moment.dayLength + now.time - now.offset.getD 0 := by
  unfold Moment.instant Moment.midnight
  rw [Date.number_eq_elapsed hdate.1 hdate.2.2.1, Int.natCast_mul]

/-- A date of the year 0 does not lie ahead of any clock, not even of one that is nearly a day ahead
of UTC at the beginning of the year 1. -/
theorem elapsed_le_of_yearZero {month day : Nat} {now : Moment} {offset : Int}
    (hmonth : 1 ≤ month ∧ month ≤ 12) (hday : 1 ≤ day ∧ day ≤ 31) (hyear : 1 ≤ now.date.year)
    (hlt : offset < Moment.dayLength) :
    ((Date.mk 0 month day).elapsed * Moment.dayLength : Int) ≤
      now.date.elapsed * Moment.dayLength + now.time - offset := by
  have hzero : (Date.mk 0 month day).elapsed < Date.daysBeforeYear 1 :=
    Date.elapsed_lt_daysBeforeYear hmonth.1 hmonth.2 hday.1 hday.2
  have hone := Date.daysBeforeYear_le hyear
  have hnow := Date.daysBeforeYear_le_elapsed now.date
  unfold Moment.dayLength at hlt ⊢
  omega

/-- **A date lies ahead of a clock if and only if midnight UTC of its day is later than the clock's
instant.** Both are counted in the calendar from 0000-01-01 on: the date, which may lie past the end
of its month, from the first of the month, and the clock, which may be up to a day ahead of UTC or
behind it, from its date, its time and its offset. The comparison never fails. -/
theorem isFuture_iff_instant_lt {d : String} {now : Moment} {offset : Int}
    (htoken : Field.date token = .ok d) (hdate : now.date.Exists) (hyear : 1 ≤ now.date.year)
    (hoffset : now.offset = some offset) (hlt : offset < Moment.dayLength) :
    ∃ year month day, Field.dateParts? token = some (year, month, day) ∧
      ∃ future, isFuture (some d) now = .ok future ∧
        (future = true ↔
          (now.date.elapsed * Moment.dayLength + now.time - offset : Int) <
            (Date.mk year month day).elapsed * Moment.dayLength) := by
  obtain ⟨rfl, year, month, day, hparts, hm1, hm, hd1, hd⟩ := Field.date_eq_ok_iff.mp htoken
  have hplaced : now.isPlaced = true := by unfold Moment.isPlaced; rw [hoffset]; rfl
  have hinstant := instant_eq_elapsed hdate
  rw [hoffset, Option.getD_some] at hinstant
  refine ⟨year, month, day, hparts, _, isFuture_eq_due htoken hplaced, ?_⟩
  rw [due?_eq hparts]
  by_cases hzero : 1 ≤ year
  · rw [if_pos hzero, Option.any_some, decide_eq_true_eq, hinstant]
  · -- the shortcut for the year 0 agrees with the comparison
    have h0 : year = 0 := by omega
    have hle := elapsed_le_of_yearZero ⟨hm1, hm⟩ ⟨hd1, hd⟩ hyear hlt
    rw [if_neg hzero, Option.any_none, h0]
    constructor
    · intro h; cases h
    · intro h; omega

/-- The last day of the year 0 is over on a clock that is nearly a day ahead of UTC as soon as the
year 1 begins. -/
theorem not_isFuture_yearZero :
    let now : Moment := ⟨⟨1, 1, 1⟩, 0, some (Moment.dayLength - 1)⟩
    Field.date "0000-12-31" = .ok "0000-12-31" ∧ now.date.Exists ∧ 1 ≤ now.date.year ∧
      isFuture (some "0000-12-31") now = .ok false := by
  intro now
  have htoken : Field.date "0000-12-31" = .ok "0000-12-31" := by rfl
  have hdate : now.date.Exists := by decide
  obtain ⟨year, month, day, hparts, future, hfuture, hiff⟩ :=
    isFuture_iff_instant_lt htoken hdate (by decide) rfl (by decide)
  have hparts' : Field.dateParts? "0000-12-31" = some (0, 12, 31) := by rfl
  rw [hparts'] at hparts
  cases hparts
  refine ⟨htoken, hdate, by decide, ?_⟩
  rw [hfuture, Except.ok.injEq, ← Bool.not_eq_true, hiff]
  decide

end Remittance.ExecutionDate
