import Remittance.Proofs.Wording

/-! # Failures of the stages

A run of the stages ends with the settlement or with the first failure, and this alone decides the
record (`handle_of_run_eq_ok`, `handle_of_run_eq_error`). A failure is reported with a reason of its
own only if it is a refusal with a code and a sentence (`notice_refusal_eq_iff`), and never without
a reason (`notice_ne_empty`). `handleJson_of_failing` says what becomes of a payload when a failure
is put in the place of one of the stages. -/

namespace Remittance

namespace Failure

/-- A refusal is reported with its reason if and only if the reason has a code and a sentence. -/
theorem notice_refusal_eq_iff {reason : Notice} :
    (refusal reason).notice = reason ↔ reason.code ≠ "" ∧ reason.message ≠ "" := by
  dsimp only [notice]
  by_cases h : reason.code = "" ∨ reason.message = ""
  · rw [if_pos h]
    refine iff_of_false ?_ fun hne => h.elim hne.1 hne.2
    rintro rfl
    revert h; decide
  · rw [if_neg h]
    exact iff_of_true rfl (not_or.mp h)

theorem notice_eq_malformed {f : Failure}
    (h : ∀ reason, f = .refusal reason → reason.code = "" ∨ reason.message = "") :
    f.notice = Reason.malformed.notice := by
  cases f with
  | refusal reason => exact if_pos (h reason rfl)
  | breakdown => rfl

theorem notice_ne_empty (f : Failure) : f.notice.code ≠ "" ∧ f.notice.message ≠ "" := by
  by_cases h : ∀ reason, f = .refusal reason → reason.code = "" ∨ reason.message = ""
  · rw [notice_eq_malformed h]; decide
  · simp only [not_forall, not_or] at h
    obtain ⟨reason, rfl, hreason⟩ := h
    rwa [notice_refusal_eq_iff.mpr hreason]

theorem record_ofMishap_refused (reason : Reason) :
    (ofMishap (.refused reason)).record = .failure reason.notice := by
  cases reason <;> rfl

end Failure

/-! ### Runs -/

namespace Stages

theorem run_failingToRead (s : Stages) (f : Failure) (sentence : String) (accounts : List Account)
    (now : Moment) : (s.failingToRead f).run sentence accounts now = .error f := rfl

theorem run_failingToSettle (f : Failure) (sentence : String) (accounts : List Account)
    (now : Moment) : (standard.failingToSettle f).run sentence accounts now =
      (Sentence.read sentence).mapError Failure.ofMishap >>= fun _ => .error f := rfl

end Stages

namespace Request

variable {r : Request} {now : Moment} {stages : Stages}

theorem handle_of_run_eq_ok {s : Settlement}
    (h : stages.run (Text.trim r.sentence) r.accounts now.placed = .ok s) :
    r.handle now stages = ⟨s.record, [.started (Text.trim r.sentence), .ofSettlement s]⟩ := by
  dsimp only [handle]
  rw [h]

theorem handle_of_run_eq_error {f : Failure}
    (h : stages.run (Text.trim r.sentence) r.accounts now.placed = .error f) :
    r.handle now stages = ⟨f.record, [.started (Text.trim r.sentence), .ofFailure f]⟩ := by
  dsimp only [handle]
  rw [h]

theorem handleJson_eq (payload : Json) (now : Moment) (stages : Stages) :
    handleJson payload now stages = (Request.ofJson payload).map (·.handle now stages) := rfl

theorem record_failingToSettle_of_error {m : Mishap} (f : Failure) (now : Moment)
    (h : Sentence.read r.sentence = .error m) :
    (r.handle now (Stages.standard.failingToSettle f)).record = (Failure.ofMishap m).record := by
  rw [handle_of_run_eq_error (f := .ofMishap m)]
  rw [Stages.run_failingToSettle, Sentence.read_trim, h]
  rfl

theorem record_failingToSettle_of_ok {i : Instruction} (f : Failure) (now : Moment)
    (h : Sentence.read r.sentence = .ok i) :
    (r.handle now (Stages.standard.failingToSettle f)).record = f.record := by
  rw [handle_of_run_eq_error (f := f)]
  rw [Stages.run_failingToSettle, Sentence.read_trim, h]
  rfl

/-- **The first failure decides the record.** A payload without the shape of a request is refused
before any stage is run, and every other is handled to the end, whatever its stages do. A failure in
the place of reading decides the record. One in the place of settling decides it if the sentence can
be read, and otherwise the reason against the sentence does, as it does without a failure put in,
for all accounts and at all times. The record of a failure says nothing about a transfer, and has a
reason: that of a refusal with a code and a sentence, and the one for what is malformed otherwise.
-/
theorem handleJson_of_failing (payload : Json) (now : Moment) :
    ((∃ issues, Request.ofJson payload = .bad issues ∧
        ∀ stages, handleJson payload now stages = .bad issues) ∨
      ∃ r, Request.ofJson payload = .good r ∧
        (∀ stages, ∃ handled, handleJson payload now stages = .good handled) ∧
        (∀ stages f, ∃ handled,
          handleJson payload now (Stages.failingToRead stages f) = .good handled ∧
          handled.record = f.record) ∧
        (∀ f, ∃ handled,
          handleJson payload now (Stages.standard.failingToSettle f) = .good handled ∧
          (∀ i, Sentence.read r.sentence = .ok i → handled.record = f.record) ∧
          ∀ reason, Sentence.read r.sentence = .error (.refused reason) →
            handled.record = .failure reason.notice) ∧
        Sentence.read r.sentence ≠ .error .exhausted ∧
        ∀ reason, Sentence.read r.sentence = .error (.refused reason) →
          ∀ accounts now', (handle ⟨accounts, r.sentence⟩ now').record = .failure reason.notice) ∧
    ∀ f : Failure, f.record.status = .failed ∧ f.record.IsFailure ∧
      f.record.reason.code ≠ "" ∧ f.record.reason.message ≠ "" ∧
      (∀ reason, f = .refusal reason →
        (f.record.reason = reason ↔ reason.code ≠ "" ∧ reason.message ≠ "")) ∧
      ((∀ reason, f = .refusal reason → reason.code = "" ∨ reason.message = "") →
        f.record.reason = ⟨"SY03", "Malformed instruction: unable to parse keywords"⟩) := by
  constructor
  · cases hshape : Request.ofJson payload with
    | bad issues => exact .inl ⟨issues, rfl, fun stages => by rw [handleJson_eq, hshape]; rfl⟩
    | good r =>
      have hgood (stages : Stages) :
          handleJson payload now stages = .good (r.handle now stages) := by
        rw [handleJson_eq, hshape]; rfl
      refine .inr ⟨r, rfl, fun stages => ⟨_, hgood stages⟩, fun stages f => ⟨_, hgood _, ?_⟩,
        fun f => ⟨_, hgood _, fun i hi => record_failingToSettle_of_ok f now hi,
          fun reason hreason => ?_⟩, fun h => ?_, fun reason hreason accounts now' => ?_⟩
      · rw [handle_of_run_eq_error (Stages.run_failingToRead stages f _ _ _)]
      · rw [record_failingToSettle_of_error f now hreason, Failure.record_ofMishap_refused]
      · obtain ⟨_, -, hm⟩ := Sentence.of_read_eq_error h
        cases hm
      · rw [← Failure.record_ofMishap_refused]
        exact record_of_read_error now' ((Sentence.read_trim r.sentence).trans hreason)
  · intro f
    obtain ⟨hcode, hmessage⟩ := f.notice_ne_empty
    refine ⟨rfl, Record.isFailure_failure _, hcode, hmessage, ?_, Failure.notice_eq_malformed⟩
    rintro reason rfl
    exact Failure.notice_refusal_eq_iff

end Request

end Remittance
