import Remittance.Handling
import Remittance.Shape.Request

/-! # Sessions

A session keeps a snapshot of accounts as JSON values and works through instructions, one step each.
A step is handled like a request, and the balances of its entries are written back into the accounts
that it named. A snapshot that no longer has the shape of accounts makes the step fail and stays as
it is. -/

namespace Remittance

/-- Checks a payload and handles it. -/
def Request.handleJson (payload : Json) (now : Moment) (stages : Stages := .standard) :
    Shape.Checked Handled :=
  (Request.ofJson payload).map (·.handle now stages)

namespace Session

/-- A snapshot as a session keeps it. -/
abbrev Snapshot := List Json

/-- One instruction and the moment at which it is handled. -/
structure Step where
  sentence : Json
  now : Moment
  deriving Repr

/-- What a step answers: how its instruction ended, and the balances kept after it. -/
structure Answer where
  status : Status
  code : String
  balances : List Json
  deriving Repr

/-- The payload that a step is handled with. -/
def payload (accounts : Snapshot) (sentence : Json) : Json :=
  .object [("accounts", .array accounts), ("instruction", sentence)]

/-- A field of a kept account. -/
def field? (name : String) : Json → Option Json
  | .object fields => Json.field? name fields
  | _ => none

/-- Whether the record names the kept account as one of its sides. -/
def isNamed (r : Record) (account : Json) : Bool :=
  match field? "id" account with
  | some (.string id) => some id == r.debit || some id == r.credit
  | _ => false

/-- A kept account with another balance. -/
def setBalance (account : Json) (balance : Int) : Json :=
  match account with
  | .object fields => .object (Json.putField "balance" (.int balance) fields)
  | v => v

/-- Writes the balances of the entries, one after the other, into the accounts that the record
names. -/
def writeBack (r : Record) : Snapshot → List Entry → Snapshot
  | [], _ => []
  | accounts, [] => accounts
  | account :: accounts, e :: entries =>
    if isNamed r account then setBalance account e.balance :: writeBack r accounts entries
    else account :: writeBack r accounts (e :: entries)

/-- The kept balances. -/
def balances (accounts : Snapshot) : List Json :=
  accounts.map fun a => (field? "balance" a).getD .null

/-- Takes one step. -/
def step (accounts : Snapshot) (s : Step) : Shape.Checked Answer × Snapshot :=
  match Request.handleJson (payload accounts s.sentence) s.now with
  | .good handled =>
    let kept := writeBack handled.record accounts handled.record.entries
    (.good ⟨handled.record.status, handled.record.reason.code, balances kept⟩, kept)
  | .bad issues => (.bad issues, accounts)

/-- Takes steps one after the other. -/
def run (accounts : Snapshot) : List Step → List (Shape.Checked Answer) × Snapshot
  | [] => ([], accounts)
  | s :: steps =>
    let (answer, kept) := step accounts s
    let (answers, last) := run kept steps
    (answer :: answers, last)

end Session

end Remittance
