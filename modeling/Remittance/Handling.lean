import Remittance.Instruction.Sentence
import Remittance.Request
import Remittance.Settlement

/-! # Handling a request

A request is handled in two stages: its sentence is read, and the instruction is settled. Whatever
goes wrong in a stage becomes the record of a failed instruction, so handling always ends with a
record. It leaves two events in the journal: one when it begins and one that tells how it ended. -/

namespace Remittance

/-- How a stage fails. -/
inductive Failure where
  /-- The instruction is refused for a reason. -/
  | refusal (reason : Notice)
  /-- The stage could not do its work. -/
  | breakdown
  deriving DecidableEq, Repr

namespace Failure

/-- The reason that a failure is reported with. A breakdown has none of its own, and neither has a
refusal without a code or without a sentence. -/
def notice : Failure → Notice
  | .refusal reason =>
    if reason.code = "" ∨ reason.message = "" then Reason.malformed.notice else reason
  | .breakdown => Reason.malformed.notice

/-- The record of a failure. -/
def record (f : Failure) : Record :=
  .failure f.notice

/-- A mishap in a sentence, as the failure of its stage. -/
def ofMishap : Mishap → Failure
  | .refused reason => .refusal reason.notice
  | .exhausted => .breakdown

/-- A fault of a settlement, as the failure of its stage. -/
def ofFault : Settlement.Fault → Failure
  | .refused reason => .refusal reason.notice
  | .undated _ => .breakdown

end Failure

/-! ### The journal -/

/-- What the journal tells of one request. -/
inductive Event where
  | started (sentence : String)
  | refused (reason : Notice)
  | brokeDown
  | completed (form : Form) (status : Status) (code : String)
  deriving DecidableEq, Repr

namespace Event

/-- The level of an event. -/
def level : Event → String
  | .brokeDown => "ERROR"
  | _ => "INFO"

/-- The journal line of an event. `latency` tells how long handling took, in milliseconds. -/
def line (latency : String) : Event → String
  | .started sentence => "parsing-start instruction=" ++ Text.quoted sentence
  | .refused reason =>
    "parse-instruction-error code=" ++ reason.code ++ " reason=" ++ reason.message ++
      " latency_ms=" ++ latency
  | .brokeDown => "parse-instruction-error code=unclassified"
  | .completed form status code =>
    "parsing-complete type=" ++ form.text ++ " status=" ++ status.text ++ " code=" ++ code ++
      " latency_ms=" ++ latency

/-- The event that ends a failed run. -/
def ofFailure : Failure → Event
  | .refusal reason => .refused reason
  | .breakdown => .brokeDown

/-- The event that ends a run with a settlement. -/
def ofSettlement (s : Settlement) : Event :=
  .completed s.instruction.form s.status s.reason.code

end Event

/-! ### The stages -/

/-- The two stages of handling. -/
structure Stages where
  read : String → Except Failure Instruction
  settle : Instruction → List Account → Moment → Except Failure Settlement

namespace Stages

/-- The stages of this library. -/
def standard : Stages where
  read sentence := (Sentence.read sentence).mapError .ofMishap
  settle i accounts now := (Settlement.settle i accounts now).mapError .ofFault

/-- The same stages, except that reading fails as given. -/
def failingToRead (s : Stages) (f : Failure) : Stages :=
  { s with read := fun _ => .error f }

/-- The same stages, except that settling fails as given. -/
def failingToSettle (s : Stages) (f : Failure) : Stages :=
  { s with settle := fun _ _ _ => .error f }

/-- Both stages, one after the other. -/
def run (s : Stages) (sentence : String) (accounts : List Account) (now : Moment) :
    Except Failure Settlement := do
  s.settle (← s.read sentence) accounts now

end Stages

/-- The record of a request, and what the journal tells of it. -/
structure Handled where
  record : Record
  journal : List Event
  deriving DecidableEq, Repr

namespace Request

/-- Handles a request at the moment `now`. The blanks around the sentence are left out, and a clock
that tells no offset is taken to show UTC. -/
def handle (r : Request) (now : Moment) (stages : Stages := .standard) : Handled :=
  let sentence := Text.trim r.sentence
  match stages.run sentence r.accounts now.placed with
  | .ok settlement => ⟨settlement.record, [.started sentence, .ofSettlement settlement]⟩
  | .error failure => ⟨failure.record, [.started sentence, .ofFailure failure]⟩

end Request

end Remittance
