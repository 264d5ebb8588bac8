import Remittance.Ledger.Entry
import Remittance.Reason

/-! # Outcome records

The record of an outcome has a status, a reason and, unless the instruction failed, everything about
the transfer. A record is open to be given from outside, so no field depends on another. -/

namespace Remittance

/-- What became of an instruction. -/
inductive Status where
  | successful
  | pending
  | failed
  deriving DecidableEq, Repr

namespace Status

/-- The status as a word. -/
def text : Status → String
  | .successful => "successful"
  | .pending => "pending"
  | .failed => "failed"

/-- The status with exactly the given word. -/
def ofText? (word : String) : Option Status :=
  if word = "successful" then some .successful
  else if word = "pending" then some .pending
  else if word = "failed" then some .failed
  else none

@[simp]
theorem ofText?_text (s : Status) : ofText? s.text = some s := by
  cases s <;> decide

end Status

/-- The record of an outcome. -/
structure Record where
  form : Option Form
  amount : Option Int
  currency : Option String
  debit : Option String
  credit : Option String
  executeBy : Option String
  status : Status
  reason : Notice
  entries : List Entry
  deriving DecidableEq, Repr

namespace Record

/-- The record of an instruction that failed for the given reason: nothing about a transfer. -/
def failure (reason : Notice) : Record :=
  { form := none
    amount := none
    currency := none
    debit := none
    credit := none
    executeBy := none
    status := .failed
    reason
    entries := [] }

/-- The record of a transfer. -/
def transfer (i : Instruction) (status : Status) (reason : Reason) (entries : List Entry) :
    Record :=
  { form := some i.form
    amount := some i.amount.value
    currency := some i.currency
    debit := some i.debit
    credit := some i.credit
    executeBy := i.executeBy
    status
    reason := reason.notice
    entries }

end Record

end Remittance
