import Remittance.Proofs.Failure

/-! # The journal of a request

A payload without the shape of a request leaves nothing in the journal. Every other leaves two
events: one with its sentence, and one that closes it. What closes it is told by the way the run of
the stages ended, and agrees with the record (`Event.Closes`), whatever the stages do. Its line is one
of three, one for each way (`told_of_closes`). -/

namespace Remittance

/-- What the journal tells of a payload. -/
def Request.journalOf (payload : Json) (now : Moment) (stages : Stages) : List Event :=
  ((Request.handleJson payload now stages).value?.map Handled.journal).getD []

namespace Event

/-- What the journal shows of an event: its level and its line. -/
def told (latency : String) (e : Event) : String × String :=
  (e.level, e.line latency)

theorem told_started (sentence latency : String) : (started sentence).told latency =
    ("INFO", "parsing-start instruction=" ++ Text.quoted sentence) := rfl

theorem told_completed (form : Form) (status : Status) (code latency : String) :
    (completed form status code).told latency =
      ("INFO", "parsing-complete type=" ++ form.text ++ " status=" ++ status.text ++ " code=" ++
        code ++ " latency_ms=" ++ latency) := rfl

theorem told_refused (reason : Notice) (latency : String) : (refused reason).told latency =
    ("INFO", "parse-instruction-error code=" ++ reason.code ++ " reason=" ++ reason.message ++
      " latency_ms=" ++ latency) := rfl

theorem told_brokeDown (latency : String) :
    brokeDown.told latency = ("ERROR", "parse-instruction-error code=unclassified") := rfl

/-- The code that an event tells, if any. -/
def code? : Event → Option String
  | .refused reason => some reason.code
  | .completed _ _ code => some code
  | _ => none

/-- The event closes a run of the stages that ended in the given way, and agrees with the record. -/
structure Closes (e : Event) (ending : Except Failure Settlement) (o : Record) : Prop where
  /-- It tells of no beginning. -/
  closing : ∀ sentence, e ≠ .started sentence
  completed_iff : (∃ form status code, e = .completed form status code) ↔ o.status ≠ .failed
  completed : ∀ form status code, e = .completed form status code →
    o.form = some form ∧ o.status = status ∧ o.reason.code = code
  refused_iff : ∀ reason, e = .refused reason ↔ ending = .error (.refusal reason)
  brokeDown_iff : e = .brokeDown ↔ ending = .error .breakdown
  malformed : e = .brokeDown → o.reason = Reason.malformed.notice
  level : e.level = if e = .brokeDown then "ERROR" else "INFO"

theorem closes_ofSettlement (s : Settlement) : (ofSettlement s).Closes (.ok s) s.record where
  closing _ := by rintro ⟨⟩
  completed_iff := by
    refine iff_of_true ⟨_, _, _, rfl⟩ ?_
    show s.status ≠ .failed
    unfold Settlement.status
    split <;> decide
  completed := by rintro _ _ _ ⟨⟩; exact ⟨rfl, rfl, rfl⟩
  refused_iff _ := iff_of_false (by rintro ⟨⟩) (by rintro ⟨⟩)
  brokeDown_iff := iff_of_false (by rintro ⟨⟩) (by rintro ⟨⟩)
  malformed := by rintro ⟨⟩
  level := rfl

theorem closes_ofFailure (f : Failure) : (ofFailure f).Closes (.error f) f.record := by
  cases f with
  | refusal reason =>
    exact
      { closing := by rintro _ ⟨⟩
        completed_iff := iff_of_false (by rintro ⟨_, _, _, ⟨⟩⟩) fun h => h rfl
        completed := by rintro _ _ _ ⟨⟩
        refused_iff := fun reason' => by
          constructor <;> rintro ⟨⟩ <;> rfl
        brokeDown_iff := iff_of_false (by rintro ⟨⟩) (by rintro ⟨⟩)
        malformed := by rintro ⟨⟩
        level := rfl }
  | breakdown =>
    exact
      { closing := by rintro _ ⟨⟩
        completed_iff := iff_of_false (by rintro ⟨_, _, _, ⟨⟩⟩) fun h => h rfl
        completed := by rintro _ _ _ ⟨⟩
        refused_iff := fun _ => iff_of_false (by rintro ⟨⟩) (by rintro ⟨⟩)
        brokeDown_iff := iff_of_true rfl rfl
        malformed := fun _ => rfl
        level := rfl }

/-- **The line that closes a run** tells the form, the status and the code of a record that is not
that of a failure, the code and the message of a refusal, and nothing of a breakdown. -/
theorem told_of_closes {e : Event} {ending : Except Failure Settlement} {o : Record}
    (h : e.Closes ending o) (latency : String) :
    (o.status ≠ .failed → ∃ form, o.form = some form ∧ e.told latency =
      ("INFO", "parsing-complete type=" ++ form.text ++ " status=" ++ o.status.text ++ " code=" ++
        o.reason.code ++ " latency_ms=" ++ latency)) ∧
    (∀ reason, ending = .error (.refusal reason) → e.told latency =
      ("INFO", "parse-instruction-error code=" ++ reason.code ++ " reason=" ++ reason.message ++
        " latency_ms=" ++ latency)) ∧
    (ending = .error .breakdown →
      e.told latency = ("ERROR", "parse-instruction-error code=unclassified") ∧
        o.reason.code = "SY03") := by
  refine ⟨fun hstatus => ?_, fun reason hending => ?_, fun hending => ?_⟩
  · obtain ⟨form, status, code, rfl⟩ := h.completed_iff.mpr hstatus
    obtain ⟨hform, hstatus, hcode⟩ := h.completed form status code rfl
    exact ⟨form, hform, by rw [hstatus, hcode, told_completed]⟩
  · rw [(h.refused_iff reason).mpr hending, told_refused]
  · have hbroke := h.brokeDown_iff.mpr hending
    exact ⟨by rw [hbroke, told_brokeDown], by rw [h.malformed hbroke]; exact Reason.code_eq _⟩

end Event

namespace Request

variable {r : Request} {payload : Json} {now : Moment}

theorem journalOf_of_bad {issues : List Shape.Issue} (stages : Stages)
    (h : Request.ofJson payload = .bad issues) : journalOf payload now stages = [] := by
  rw [journalOf, handleJson_eq, h]
  rfl

theorem journalOf_of_good (stages : Stages) (h : Request.ofJson payload = .good r) :
    journalOf payload now stages = (r.handle now stages).journal := by
  rw [journalOf, handleJson_eq, h]
  rfl

/-- **A request is begun and closed**, whatever its stages do. -/
theorem exists_closes (r : Request) (now : Moment) (stages : Stages) :
    ∃ closing, (r.handle now stages).journal = [.started (Text.trim r.sentence), closing] ∧
      closing.Closes (stages.run (Text.trim r.sentence) r.accounts now.placed)
        (r.handle now stages).record := by
  cases hrun : stages.run (Text.trim r.sentence) r.accounts now.placed with
  | ok s =>
    rw [handle_of_run_eq_ok hrun]
    exact ⟨_, rfl, Event.closes_ofSettlement s⟩
  | error f =>
    rw [handle_of_run_eq_error hrun]
    exact ⟨_, rfl, Event.closes_ofFailure f⟩

theorem closing_of_standard {closing : Event}
    (h : (r.handle now).journal = [.started (Text.trim r.sentence), closing]) :
    closing ≠ .brokeDown ∧ closing.code? = some (r.handle now).record.reason.code := by
  rcases handle_cases r now with ⟨i, s, -, -, hend⟩ | ⟨reason, -, hend⟩ <;>
  · rw [hend] at h ⊢
    cases h
    exact ⟨by rintro ⟨⟩, rfl⟩

/-- **The journal of a payload.** It is empty if and only if the payload does not have the shape of
a request. Otherwise it has two lines. The first gives the sentence without the blanks around it, in
quotes. The second tells of an end if and only if the record is not that of a failure, and then its
form, status and code are the record's; it tells of a refusal with just the reason for which a stage
refused, if one did; and it tells of a breakdown if and only if a stage broke down, and then the
record is that of what is malformed. The stages of this library do not break down, and the second
line tells the code of the record. -/
theorem journalOf_closes (payload : Json) (now : Moment) (stages : Stages) :
    (journalOf payload now stages = [] ↔ ∃ issues, Request.ofJson payload = .bad issues) ∧
    ∀ r, Request.ofJson payload = .good r →
      ∃ handled closing, handleJson payload now stages = .good handled ∧
        journalOf payload now stages = [.started (Text.trim r.sentence), closing] ∧
        (∀ latency, (journalOf payload now stages).map (fun e => (e.level, e.line latency)) =
          [("INFO", "parsing-start instruction=" ++ Text.quoted (Text.trim r.sentence)),
            (closing.level, closing.line latency)]) ∧
        (∀ latency,
          (handled.record.status ≠ .failed → ∃ form, handled.record.form = some form ∧
            (closing.level, closing.line latency) =
              ("INFO", "parsing-complete type=" ++ form.text ++ " status=" ++
                handled.record.status.text ++ " code=" ++ handled.record.reason.code ++
                " latency_ms=" ++ latency)) ∧
          (∀ reason, stages.run (Text.trim r.sentence) r.accounts now.placed =
              .error (.refusal reason) →
            (closing.level, closing.line latency) =
              ("INFO", "parse-instruction-error code=" ++ reason.code ++ " reason=" ++
                reason.message ++ " latency_ms=" ++ latency)) ∧
          (stages.run (Text.trim r.sentence) r.accounts now.placed = .error .breakdown →
            (closing.level, closing.line latency) =
              ("ERROR", "parse-instruction-error code=unclassified") ∧
            handled.record.reason.code = "SY03")) ∧
        closing.Closes (stages.run (Text.trim r.sentence) r.accounts now.placed) handled.record ∧
        (stages = .standard →
          closing ≠ .brokeDown ∧ closing.code? = some handled.record.reason.code) := by
  refine ⟨⟨fun h => ?_, fun ⟨issues, h⟩ => journalOf_of_bad stages h⟩, fun r hgood => ?_⟩
  · cases hshape : Request.ofJson payload with
    | bad issues => exact ⟨issues, rfl⟩
    | good r =>
      obtain ⟨closing, hjournal, -⟩ := exists_closes r now stages
      rw [journalOf_of_good stages hshape, hjournal] at h
      cases h
  · obtain ⟨closing, hjournal, hcloses⟩ := exists_closes r now stages
    refine ⟨r.handle now stages, closing, by rw [handleJson_eq, hgood]; rfl, ?_, fun latency => ?_,
      fun latency => Event.told_of_closes hcloses latency, hcloses, ?_⟩
    · rw [journalOf_of_good stages hgood, hjournal]
    · rw [journalOf_of_good stages hgood, hjournal]
      exact congrArg (· :: [closing.told latency]) (Event.told_started _ latency)
    · rintro rfl
      exact closing_of_standard hjournal

end Request

end Remittance
