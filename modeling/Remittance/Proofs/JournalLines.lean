import Remittance.Proofs.Handling
import Remittance.Proofs.Text.Quoted

/-! # The lines of the journal

The sentence of a request stands in quotes in its journal. All else that a line tells is the
library's own: a code and a message of the catalogue, the text of a form or a status, or a number
(`Event.Catalogued`). So no line holds a character that is not plain (`Event.printable_line`), and
the line that begins a request tells its sentence (`Event.line_started_inj`): no sentence ends a line
before its end, adds one to the journal or passes for another sentence. -/

namespace Remittance

open Text (Printable printable_append printable_quoted printable_toString)

/-! ### What the library has to tell -/

theorem Reason.printable_notice (reason : Reason) :
    Printable reason.code.toList ∧ Printable reason.message.toList := by
  cases reason <;> decide

theorem Form.printable_text (f : Form) : Printable f.text.toList := by
  cases f <;> decide

theorem Status.printable_text (s : Status) : Printable s.text.toList := by
  cases s <;> decide

namespace Event

/-- The code and the message that the event tells, if any, are of the catalogue. -/
def Catalogued : Event → Prop
  | .refused told => ∃ reason : Reason, told = reason.notice
  | .completed _ _ code => ∃ reason : Reason, code = reason.code
  | .started _ | .brokeDown => True

/-- **The line of an event is printable**, whatever sentence the event tells. -/
theorem printable_line {e : Event} (h : e.Catalogued) (latency : Int) :
    Printable (e.line (toString latency)).toList := by
  have hlatency := printable_toString latency
  cases e with
  | started sentence =>
    dsimp only [line]
    rw [String.toList_append, printable_append]
    exact ⟨by decide, printable_quoted sentence⟩
  | refused told =>
    obtain ⟨reason, rfl⟩ := h
    obtain ⟨hcode, hmessage⟩ := reason.printable_notice
    dsimp only [line]
    simp only [String.toList_append, printable_append]
    exact ⟨⟨⟨⟨⟨by decide, hcode⟩, by decide⟩, hmessage⟩, by decide⟩, hlatency⟩
  | brokeDown =>
    show Printable "parse-instruction-error code=unclassified".toList
    decide
  | completed form status code =>
    obtain ⟨reason, rfl⟩ := h
    obtain ⟨hcode, -⟩ := reason.printable_notice
    dsimp only [line]
    simp only [String.toList_append, printable_append]
    exact ⟨⟨⟨⟨⟨⟨⟨by decide, form.printable_text⟩, by decide⟩, status.printable_text⟩, by decide⟩,
      hcode⟩, by decide⟩, hlatency⟩

/-- **The line that begins a request tells its sentence.** -/
theorem line_started_inj {sentence sentence' latency latency' : String} :
    (started sentence).line latency = (started sentence').line latency' ↔
      sentence = sentence' := by
  dsimp only [line]
  rw [String.append_right_inj]
  exact Text.quoted_injective.eq_iff

theorem catalogued_ofSettlement (s : Settlement) : (ofSettlement s).Catalogued :=
  ⟨s.reason, rfl⟩

end Event

namespace Request

theorem catalogued_of_mem_journal {r : Request} {now : Moment} {e : Event}
    (h : e ∈ (r.handle now).journal) : e.Catalogued := by
  rcases handle_cases r now with ⟨i, s, -, -, hend⟩ | ⟨reason, -, hend⟩
  · rw [hend] at h
    rcases List.mem_pair.mp h with rfl | rfl
    · trivial
    · exact Event.catalogued_ofSettlement s
  · rw [hend] at h
    rcases List.mem_pair.mp h with rfl | rfl
    · trivial
    · exact ⟨reason, rfl⟩

/-- The line that begins the journal of a request. -/
def openingLine? (r : Request) (now : Moment) (latency : Int) : Option String :=
  (r.handle now).journal.head?.map (Event.line (toString latency))

theorem openingLine?_eq (r : Request) (now : Moment) (latency : Int) :
    r.openingLine? now latency =
      some ((Event.started (Text.trim r.sentence)).line (toString latency)) := by
  rcases handle_cases r now with ⟨i, s, -, -, hend⟩ | ⟨reason, -, hend⟩ <;>
  · rw [openingLine?, hend]
    rfl

/-- **No sentence forges a line of the journal.** All characters of all its lines are plain. The
first line gives the sentence without the blanks around it, in quotes; and it is the first line of
another request if and only if that has the same sentence, blanks around it left out. -/
theorem plain_lines_tell_sentence (r : Request) (now : Moment) :
    (∀ e ∈ (r.handle now).journal, ∀ latency : Int,
      ∀ c ∈ (e.line (toString latency)).toList, Text.IsPlain c) ∧
    ∀ latency : Int,
      r.openingLine? now latency =
        some ("parsing-start instruction=" ++ Text.quoted (Text.trim r.sentence)) ∧
      ∀ (r' : Request) (now' : Moment) (latency' : Int),
        r.openingLine? now latency = r'.openingLine? now' latency' ↔
          Text.trim r.sentence = Text.trim r'.sentence := by
  refine ⟨fun e he latency c hc => ?_, fun latency => ⟨openingLine?_eq r now latency, ?_⟩⟩
  · have hprintable := Event.printable_line (catalogued_of_mem_journal he) latency
    exact Text.isPlain_of_isPrintable (hprintable c hc)
  · intro r' now' latency'
    rw [openingLine?_eq, openingLine?_eq, Option.some.injEq]
    exact Event.line_started_inj

/-- A sentence with an end of line and the text of another line in it. -/
example : (openingLine? ⟨[], "a\nparsing-complete \u2028'b'"⟩ ⟨⟨2024, 3, 1⟩, 0, none⟩ 0) =
    some "parsing-start instruction=\"a\\nparsing-complete \\u2028'b'\"" := by
  decide +kernel

end Request

end Remittance
