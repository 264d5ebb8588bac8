import Mathlib.Data.List.TakeWhile
import Remittance.Proofs.Handling

/-! # A request over time

What a request ends with depends on the clock only through the date of its instruction. A request
fails at all times and for the same reason, or its instruction waits until its date is due and is
executed from then on (`record_over_time`). So its record can only change from scheduled to executed,
once and never back, and clocks that show the same instant in different ways give the same record
(`handle_over_time`). -/

namespace Remittance

/-- An entry as it was before the transfer. -/
def Entry.before (e : Entry) : String × Int × String :=
  (e.id, e.balanceBefore, e.currency)

/-- Two records tell of the same transfer: they differ at most in the status, its reason and the
balances after the transfer. -/
structure Record.SameTransfer (o o' : Record) : Prop where
  form : o.form = o'.form
  amount : o.amount = o'.amount
  currency : o.currency = o'.currency
  debit : o.debit = o'.debit
  credit : o.credit = o'.credit
  executeBy : o.executeBy = o'.executeBy
  entries : o.entries.map Entry.before = o'.entries.map Entry.before

namespace Settlement

/-- The settlement of an instruction that passed the rules, executed or not. -/
def ofRules (i : Instruction) (accounts : List Account) (scheduled : Bool) : Settlement :=
  ⟨i, scheduled, Entry.project i (!scheduled) accounts⟩

theorem map_before_project (i : Instruction) (apply : Bool) (accounts : List Account) :
    (Entry.project i apply accounts).map Entry.before =
      (accounts.filter fun a => i.names a.id).map
        fun a => (a.id, (a.balance : Int), a.currency) := by
  unfold Entry.project
  rw [List.map_map]
  rfl

theorem sameTransfer_ofRules (i : Instruction) (accounts : List Account) (b b' : Bool) :
    (ofRules i accounts b).record.SameTransfer (ofRules i accounts b').record where
  form := rfl
  amount := rfl
  currency := rfl
  debit := rfl
  credit := rfl
  executeBy := rfl
  entries := by
    have h := map_before_project i (!b) accounts
    have h' := map_before_project i (!b') accounts
    exact h.trans h'.symm

theorem status_ofRules (i : Instruction) (accounts : List Account) (b : Bool) :
    (ofRules i accounts b).record.status = if b then .pending else .successful := by
  cases b <;> rfl

end Settlement

/-! ### Waiting -/

/-- Whether a date that is due at an instant, if it ever was ahead, is still waited for. -/
def waits (due : Option Int) (t : Int) : Bool :=
  due.any fun d => t < d

theorem waits_of_le {due : Option Int} {s t : Int} (hle : s ≤ t) (h : waits due t = true) :
    waits due s = true := by
  unfold waits at h ⊢
  cases due with
  | none => exact h
  | some d =>
    rw [Option.any_some, decide_eq_true_eq] at h ⊢
    omega

theorem waits_eq_false_of_le {due : Option Int} {s t : Int} (hle : s ≤ t)
    (h : waits due s = false) : waits due t = false := by
  rw [← Bool.not_eq_true] at h ⊢
  exact fun hw => h (waits_of_le hle hw)

/-- Moments in their order are those at which a date is waited for, and then the others. -/
theorem exists_split_of_waits (due : Option Int) {moments : List Moment}
    (hsorted : moments.Pairwise fun s t => s.instant ≤ t.instant) :
    ∃ before after, moments = before ++ after ∧ (∀ t ∈ before, waits due t.instant = true) ∧
      ∀ t ∈ after, waits due t.instant = false := by
  induction hsorted with
  | nil => exact ⟨[], [], rfl, by simp, by simp⟩
  | @cons m moments hle _ ih =>
    cases hm : waits due m.instant
    · refine ⟨[], m :: moments, rfl, by simp, fun t ht => ?_⟩
      rcases List.mem_cons.mp ht with rfl | ht
      · exact hm
      · exact waits_eq_false_of_le (hle t ht) hm
    · obtain ⟨before, after, hsplit, hbefore, hafter⟩ := ih
      refine ⟨m :: before, after, by rw [hsplit]; rfl, fun t ht => ?_, hafter⟩
      rcases List.mem_cons.mp ht with rfl | ht
      · exact hm
      · exact hbefore t ht

theorem Instruction.Sound.exists_waits {i : Instruction} (hi : i.Sound) :
    ∃ due, ∀ now : Moment,
      ExecutionDate.isFuture i.executeBy now.placed = .ok (waits due now.instant) := by
  cases hdate : i.executeBy with
  | none => exact ⟨none, fun now => rfl⟩
  | some d =>
    refine ⟨ExecutionDate.due? d, fun now => ?_⟩
    have h := ExecutionDate.isFuture_eq_due (hi.executeBy d hdate) now.isPlaced_placed
    rw [Moment.instant_placed] at h
    exact h

namespace Request

/-- **The record of a request over time**: the same failure at all times, or that of an instruction
which waits until its date is due. -/
theorem record_over_time (r : Request) :
    (∃ reason, ∀ now, (r.handle now).record = .failure reason) ∨
    ∃ i due, ∀ now : Moment, (r.handle now).record =
      (Settlement.ofRules i r.accounts (waits due now.instant)).record := by
  cases hread : Sentence.read (Text.trim r.sentence) with
  | error m => exact .inl ⟨_, fun now => record_of_read_error now hread⟩
  | ok i =>
    cases hcheck : Settlement.check i r.accounts with
    | error reason =>
      left
      refine ⟨(Failure.ofFault (.refused reason)).notice, fun now => ?_⟩
      have hsettle : Settlement.settle i r.accounts now.placed = .error (.refused reason) :=
        Settlement.settle_eq_refused_iff.mpr (Settlement.check_eq_error_iff.mp hcheck)
      rw [record_of_read now hread, hsettle]
      rfl
    | ok u =>
      right
      obtain ⟨due, hdue⟩ := (Sentence.sound_of_read hread).exists_waits
      refine ⟨i, due, fun now => ?_⟩
      have hsettle : Settlement.settle i r.accounts now.placed =
          .ok (Settlement.ofRules i r.accounts (waits due now.instant)) :=
        Settlement.settle_eq_ok_iff.mpr ⟨hcheck, _, hdue now, rfl⟩
      rw [record_of_read now hread, hsettle]
      rfl

/-- The later of two moments finds the same failure or the same transfer, and what was executed stays
as it is. -/
theorem record_of_le (r : Request) {now later : Moment} (hle : now.instant ≤ later.instant) :
    let o := (r.handle now).record
    let o' := (r.handle later).record
    (o.status = .failed ↔ o'.status = .failed) ∧ (o.status = .failed → o' = o) ∧
      (o.status ≠ .failed → o.SameTransfer o') ∧ (o.status = .successful → o' = o) := by
  rcases record_over_time r with ⟨reason, hfailure⟩ | ⟨i, due, htransfer⟩
  · rw [hfailure, hfailure]
    exact ⟨Iff.rfl, fun _ => rfl, fun h => absurd rfl h, fun _ => rfl⟩
  · have hfail : ∀ b, (Settlement.ofRules i r.accounts b).record.status ≠ .failed := by
      intro b
      rw [Settlement.status_ofRules]
      cases b <;> decide
    rw [htransfer, htransfer]
    refine ⟨iff_of_false (hfail _) (hfail _), fun h => absurd h (hfail _),
      fun _ => Settlement.sameTransfer_ofRules i r.accounts _ _, fun hdone => ?_⟩
    cases hnow : waits due now.instant
    · rw [waits_eq_false_of_le hle hnow]
    · rw [Settlement.status_ofRules, hnow] at hdone
      cases hdone

theorem status_of_sorted (r : Request) {moments : List Moment}
    (hsorted : moments.Pairwise fun s t => s.instant ≤ t.instant) :
    (∀ t ∈ moments, (r.handle t).record.status = .failed) ∨
    ∃ before after, moments = before ++ after ∧
      (∀ t ∈ before, (r.handle t).record.status = .pending) ∧
      ∀ t ∈ after, (r.handle t).record.status = .successful := by
  rcases record_over_time r with ⟨reason, hfailure⟩ | ⟨i, due, htransfer⟩
  · left
    intro t _
    rw [hfailure]; rfl
  · obtain ⟨before, after, hsplit, hbefore, hafter⟩ := exists_split_of_waits due hsorted
    refine .inr ⟨before, after, hsplit, fun t ht => ?_, fun t ht => ?_⟩
    · rw [htransfer, Settlement.status_ofRules, hbefore t ht, if_pos rfl]
    · rw [htransfer, Settlement.status_ofRules, hafter t ht, if_neg Bool.false_ne_true]

/-- **A request over time.** Of two moments, the earlier one finds a failure if and only if the later
one does, and then the same; otherwise both tell of the same transfer, and one that was executed
stays as it is. Two readings of the same instant give the same record. So moments in their order
find the request failed at all times, or scheduled up to some moment and executed from then on. -/
theorem handle_over_time (r : Request) :
    (∀ now later : Moment, now.instant ≤ later.instant →
      let o := (r.handle now).record
      let o' := (r.handle later).record
      (o.status = .failed ↔ o'.status = .failed) ∧
      (o.status = .failed → o' = o) ∧
      (o.status ≠ .failed → o.SameTransfer o') ∧
      (o.status = .successful → o' = o)) ∧
    (∀ now again : Moment, now.instant = again.instant →
      (r.handle again).record = (r.handle now).record) ∧
    ∀ moments : List Moment, moments.Pairwise (fun s t => s.instant ≤ t.instant) →
      (∀ t ∈ moments, (r.handle t).record.status = .failed) ∨
      ∃ before after, moments = before ++ after ∧
        (∀ t ∈ before, (r.handle t).record.status = .pending) ∧
        ∀ t ∈ after, (r.handle t).record.status = .successful := by
  refine ⟨fun now later hle => record_of_le r hle, fun now again heq => ?_,
    fun moments hsorted => status_of_sorted r hsorted⟩
  rcases record_over_time r with ⟨reason, hfailure⟩ | ⟨i, due, htransfer⟩
  · rw [hfailure, hfailure]
  · rw [htransfer, htransfer, heq]

/-- A transfer on a date past the end of February. -/
def leapTransfer : Request where
  accounts := [⟨"a", 20, "USD"⟩, ⟨"b", 0, "USD"⟩]
  sentence := "DEBIT 5 USD FROM ACCOUNT a FOR CREDIT TO ACCOUNT b ON 2024-02-31"

/-- It waits until the second of March begins, by a clock without an offset as by one that is ahead
of UTC. -/
theorem sameTransfer_leapTransfer :
    let now : Moment := ⟨⟨2024, 3, 1⟩, Moment.dayLength - 1, none⟩
    let later : Moment := ⟨⟨2024, 3, 2⟩, 300 * Moment.minuteLength,
      some (300 * Moment.minuteLength)⟩
    now.instant ≤ later.instant ∧
      (leapTransfer.handle now).record.status = .pending ∧
      (leapTransfer.handle later).record.status = .successful ∧
      (leapTransfer.handle now).record.SameTransfer (leapTransfer.handle later).record := by
  intro now later
  have hle : now.instant ≤ later.instant := by decide
  have hnow : (leapTransfer.handle now).record.status = .pending := by decide +kernel
  have hlater : (leapTransfer.handle later).record.status = .successful := by decide +kernel
  obtain ⟨-, -, hsame, -⟩ := (handle_over_time leapTransfer).1 now later hle
  exact ⟨hle, hnow, hlater, hsame (by rw [hnow]; decide)⟩

end Request

end Remittance
