import Remittance.Proofs.Calendar.ExecutionDate
import Remittance.Proofs.Instruction.Sentence
import Remittance.Proofs.Settlement
import Remittance.Session

/-! # How a request ends

A request ends in one of two ways (`handle_cases`): its sentence is read and the instruction is
settled, or one of ten reasons is found against it. A breakdown of a stage is not among them: a
sentence does not run out of tokens, and a date that was read can be compared with the clock.

So the record of a request has one of three shapes (`Record.InShape`). -/

namespace Remittance

/-! ### The two ends -/

/-- The reasons for which an instruction fails. -/
def Reason.failures : List Reason :=
  Sentence.refusals ++ Settlement.refusals

namespace Request

theorem of_settle_sound {i : Instruction} {accounts : List Account} {now : Moment}
    {f : Settlement.Fault} (hi : i.Sound) (h : Settlement.settle i accounts now.placed = .error f) :
    ∃ reason ∈ Settlement.refusals, f = .refused reason := by
  rcases Settlement.of_settle_eq_error h with hrule | ⟨g, hg, -⟩
  · exact hrule
  · cases hdate : i.executeBy with
    | none => rw [hdate] at hg; cases hg
    | some d =>
      obtain ⟨b, hb⟩ := ExecutionDate.isFuture_of_date (hi.executeBy d hdate) now.isPlaced_placed
      rw [hdate, hb] at hg; cases hg

theorem run_eq_bind (sentence : String) (accounts : List Account) (now : Moment) :
    Stages.standard.run sentence accounts now =
      (Sentence.read sentence).mapError Failure.ofMishap >>= fun i =>
        (Settlement.settle i accounts now).mapError Failure.ofFault := rfl

theorem run_standard (sentence : String) (accounts : List Account) (now : Moment) :
    (∃ i s, Sentence.read sentence = .ok i ∧
      Settlement.settle i accounts now.placed = .ok s ∧
      Stages.standard.run sentence accounts now.placed = .ok s) ∨
    ∃ reason ∈ Reason.failures,
      Stages.standard.run sentence accounts now.placed = .error (.refusal reason.notice) := by
  rw [run_eq_bind]
  cases hread : Sentence.read sentence with
  | error m =>
    obtain ⟨reason, hmem, rfl⟩ := Sentence.of_read_eq_error hread
    exact .inr ⟨reason, List.mem_append_left _ hmem, rfl⟩
  | ok i =>
    rw [Except.mapError, Except.ok_bind]
    cases hsettle : Settlement.settle i accounts now.placed with
    | error f =>
      obtain ⟨reason, hmem, rfl⟩ := of_settle_sound (Sentence.sound_of_read hread) hsettle
      exact .inr ⟨reason, List.mem_append_right _ hmem, rfl⟩
    | ok s => exact .inl ⟨i, s, rfl, hsettle, rfl⟩

/-- **The two ends of a request.** -/
theorem handle_cases (r : Request) (now : Moment) :
    (∃ i s, Sentence.read (Text.trim r.sentence) = .ok i ∧
      Settlement.settle i r.accounts now.placed = .ok s ∧
      r.handle now = ⟨s.record, [.started (Text.trim r.sentence), .ofSettlement s]⟩) ∨
    ∃ reason ∈ Reason.failures, r.handle now =
      ⟨.failure reason.notice, [.started (Text.trim r.sentence), .refused reason.notice]⟩ := by
  rcases run_standard (Text.trim r.sentence) r.accounts now with
    ⟨i, s, hread, hsettle, hrun⟩ | ⟨reason, hmem, hrun⟩
  · refine .inl ⟨i, s, hread, hsettle, ?_⟩
    dsimp only [handle]
    rw [hrun]
  · refine .inr ⟨reason, hmem, ?_⟩
    have hnotice : (Failure.refusal reason.notice).notice = reason.notice := by
      cases reason <;> rfl
    dsimp only [handle]
    rw [hrun]
    dsimp only [Failure.record]
    rw [hnotice]; rfl

/-- The record of a settlement, or of the failure to settle. -/
def recordOf : Except Settlement.Fault Settlement → Record
  | .ok s => s.record
  | .error f => (Failure.ofFault f).record

theorem record_of_read_error {r : Request} {m : Mishap} (now : Moment)
    (h : Sentence.read (Text.trim r.sentence) = .error m) :
    (r.handle now).record = (Failure.ofMishap m).record := by
  have hrun : Stages.standard.run (Text.trim r.sentence) r.accounts now.placed =
      .error (.ofMishap m) := by
    rw [run_eq_bind, h]; rfl
  dsimp only [handle]
  rw [hrun]

theorem record_of_read {r : Request} {i : Instruction} (now : Moment)
    (h : Sentence.read (Text.trim r.sentence) = .ok i) :
    (r.handle now).record = recordOf (Settlement.settle i r.accounts now.placed) := by
  have hrun : Stages.standard.run (Text.trim r.sentence) r.accounts now.placed =
      (Settlement.settle i r.accounts now.placed).mapError Failure.ofFault := by
    rw [run_eq_bind, h]; rfl
  dsimp only [handle]
  rw [hrun]
  cases Settlement.settle i r.accounts now.placed <;> rfl

/-- **The records of a request**: that of a sound instruction that passed the rules, executed or
not, or that of a failure. -/
theorem record_cases (r : Request) (now : Moment) :
    (∃ i scheduled, i.Sound ∧ Settlement.check i r.accounts = .ok () ∧
      (r.handle now).record =
        Settlement.record ⟨i, scheduled, Entry.project i (!scheduled) r.accounts⟩) ∨
    ∃ reason ∈ Reason.failures, (r.handle now).record = .failure reason.notice := by
  rcases handle_cases r now with ⟨i, s, hread, hsettle, hend⟩ | ⟨reason, hmem, hend⟩
  · obtain ⟨hcheck, scheduled, -, rfl⟩ := Settlement.settle_eq_ok_iff.mp hsettle
    exact .inl ⟨i, scheduled, Sentence.sound_of_read hread, hcheck, by rw [hend]⟩
  · exact .inr ⟨reason, hmem, by rw [hend]⟩

theorem handleJson_of_good {payload : Json} {r : Request} (now : Moment)
    (h : Request.ofJson payload = .good r) :
    Request.handleJson payload now = .good (r.handle now) := by
  rw [handleJson, h]; rfl

end Request

/-! ### The shape of a record -/

namespace Record

/-- The record tells everything about a transfer: a positive amount in a supported currency, from
one account to another. -/
structure IsTransfer (r : Record) : Prop where
  form : ∃ f, r.form = some f
  amount : ∃ n : Int, r.amount = some n ∧ 0 < n
  currency : ∃ c ∈ Field.currencies, r.currency = some c
  ids : ∃ d c, r.debit = some d ∧ r.credit = some c ∧ d ≠ "" ∧ c ≠ "" ∧ d ≠ c

/-- The record tells nothing about a transfer. -/
structure IsFailure (r : Record) : Prop where
  form : r.form = none
  amount : r.amount = none
  currency : r.currency = none
  debit : r.debit = none
  credit : r.credit = none
  executeBy : r.executeBy = none
  entries : r.entries = []

/-- The three shapes of a record, one for each status. -/
def InShape (r : Record) : Prop :=
  match r.status with
  | .successful => r.reason.code = "AP00" ∧ r.IsTransfer
  | .pending => r.reason.code = "AP02" ∧ r.IsTransfer
  | .failed => r.reason.code ∈ ["SY01", "SY02", "AM01", "CU02", "DT01", "AC01", "AC02", "AC03",
      "AC04", "CU01"] ∧ r.IsFailure

theorem isFailure_failure (reason : Notice) : (Record.failure reason).IsFailure :=
  ⟨rfl, rfl, rfl, rfl, rfl, rfl, rfl⟩

theorem inShape_failure {reason : Reason} (h : reason ∈ Reason.failures) :
    (Record.failure reason.notice).InShape := by
  refine ⟨?_, isFailure_failure _⟩
  show reason.code ∈ _
  revert h; cases reason <;> decide

end Record

namespace Settlement

variable {i : Instruction} {accounts : List Account}

theorem isTransfer_record (hi : i.Sound) (hcheck : check i accounts = .ok ()) (scheduled : Bool)
    (entries : List Entry) : (record ⟨i, scheduled, entries⟩).IsTransfer := by
  obtain ⟨hne, -⟩ := check_eq_ok_iff.mp hcheck
  have hpos := i.amount.pos
  have hdebit := (Field.accountId_eq_ok_iff.mp hi.debit).2.1
  have hcredit := (Field.accountId_eq_ok_iff.mp hi.credit).2.1
  exact ⟨⟨i.form, rfl⟩, ⟨i.amount.value, rfl, by omega⟩, ⟨i.currency, hi.currency, rfl⟩,
    ⟨i.debit, i.credit, rfl, rfl, hdebit, hcredit, hne⟩⟩

theorem inShape_record (hi : i.Sound) (hcheck : check i accounts = .ok ()) (scheduled : Bool)
    (entries : List Entry) : (record ⟨i, scheduled, entries⟩).InShape := by
  have htransfer := isTransfer_record hi hcheck scheduled entries
  cases scheduled <;> exact ⟨rfl, htransfer⟩

end Settlement

namespace Request

theorem inShape_handle (r : Request) (now : Moment) : (r.handle now).record.InShape := by
  rcases record_cases r now with ⟨i, scheduled, hi, hcheck, hrecord⟩ | ⟨reason, hmem, hrecord⟩
  · rw [hrecord]; exact Settlement.inShape_record hi hcheck scheduled _
  · rw [hrecord]; exact Record.inShape_failure hmem

theorem reason_handle (r : Request) (now : Moment) :
    ∃ reason ∈ .executed :: .scheduled :: Reason.failures,
      (r.handle now).record.reason = reason.notice := by
  rcases record_cases r now with ⟨i, scheduled, -, -, hrecord⟩ | ⟨reason, hmem, hrecord⟩
  · rw [hrecord]
    cases scheduled
    · exact ⟨.executed, by decide, rfl⟩
    · exact ⟨.scheduled, by decide, rfl⟩
  · rw [hrecord]
    exact ⟨reason, List.mem_cons_of_mem _ (List.mem_cons_of_mem _ hmem), rfl⟩

theorem brokeDown_not_mem_handle (r : Request) (now : Moment) :
    Event.brokeDown ∉ (r.handle now).journal := by
  rcases handle_cases r now with ⟨i, s, -, -, hend⟩ | ⟨reason, -, hend⟩
  · rw [hend]; simp [Event.ofSettlement]
  · rw [hend]; simp

/-- **Every payload with the shape of a request gets a record in one of the three shapes.** Its
reason is one of the catalogue and never the one for what is malformed; no stage breaks down, as the
tokens of the sentence do not run out and its date can be placed in time. -/
theorem handleJson_inShape (payload : Json) (now : Moment) (r : Request)
    (h : Request.ofJson payload = .good r) :
    ∃ handled, Request.handleJson payload now = .good handled ∧ handled.record.InShape ∧
      (Reason.ofCode? handled.record.reason.code).map Reason.notice = some handled.record.reason ∧
      handled.record.reason.code ≠ Reason.malformed.code ∧
      Event.brokeDown ∉ handled.journal ∧
      Stages.standard.run (Text.trim r.sentence) r.accounts now.placed ≠ .error .breakdown ∧
      Sentence.read (Text.trim r.sentence) ≠ .error .exhausted ∧
      ∀ i, Sentence.read (Text.trim r.sentence) = .ok i → ∀ f,
        Settlement.settle i r.accounts now.placed ≠ .error (.undated f) := by
  obtain ⟨reason, hmem, hreason⟩ := reason_handle r now
  refine ⟨_, handleJson_of_good now h, inShape_handle r now, ?_, ?_, brokeDown_not_mem_handle r now,
    ?_, ?_, ?_⟩
  · rw [hreason]
    show (Reason.ofCode? reason.code).map Reason.notice = _
    rw [Reason.ofCode?_code]; rfl
  · rw [hreason]
    revert hmem; cases reason <;> decide
  · intro hbreak
    rcases run_standard (Text.trim r.sentence) r.accounts now with
      ⟨_, _, -, -, hrun⟩ | ⟨_, -, hrun⟩ <;> rw [hrun] at hbreak <;> cases hbreak
  · intro hread
    obtain ⟨_, -, hm⟩ := Sentence.of_read_eq_error hread
    cases hm
  · intro i hread f hsettle
    obtain ⟨_, -, hf⟩ := of_settle_sound (Sentence.sound_of_read hread) hsettle
    cases hf

/-- A date that no calendar has does no harm: it falls into the next month, and on the day before it
the transfer is pending. -/
theorem handleJson_inShape_rollover :
    let payload := Session.payload
      [Account.toJson ⟨"a", 20, "USD"⟩, Account.toJson ⟨"b", 0, "USD"⟩]
      (.string "Debit 5 usd from account a for credit to account b on 2024-02-31")
    (∃ r, Request.ofJson payload = .good r) ∧
      ∃ handled, Request.handleJson payload ⟨⟨2024, 3, 1⟩, 0, none⟩ = .good handled ∧
        handled.record.InShape ∧ handled.record.status = .pending := by
  intro payload
  have hgood : Request.ofJson payload = .good
      ⟨[⟨"a", 20, "USD"⟩, ⟨"b", 0, "USD"⟩],
        "Debit 5 usd from account a for credit to account b on 2024-02-31"⟩ := by rfl
  obtain ⟨handled, hhandled, hshape, -⟩ :=
    handleJson_inShape payload ⟨⟨2024, 3, 1⟩, 0, none⟩ _ hgood
  refine ⟨⟨_, hgood⟩, handled, hhandled, hshape, ?_⟩
  rw [handleJson_of_good _ hgood] at hhandled
  cases hhandled
  decide +kernel

end Request

end Remittance
