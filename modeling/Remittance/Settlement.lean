import Remittance.Calendar.ExecutionDate
import Remittance.Ledger.Record

/-! # Settlement

An instruction is checked against a snapshot of accounts, rule by rule: both accounts exist, they
differ, both have the instruction's currency, and the debit account holds the amount. Only then is
the execution date looked at. If it lies ahead, the transfer is scheduled and no balance changes;
otherwise it is executed. -/

namespace Remittance

/-- An instruction that passed all rules. -/
structure Settlement where
  instruction : Instruction
  /-- Whether the transfer waits for its date. -/
  scheduled : Bool
  entries : List Entry
  deriving DecidableEq, Repr

namespace Settlement

/-- Why a settlement fails. -/
inductive Fault where
  /-- A rule is broken. -/
  | refused (reason : Reason)
  /-- The execution date cannot be placed in time. -/
  | undated (fault : ExecutionDate.Fault)
  deriving DecidableEq, Repr

/-- The description of a fault. -/
def Fault.message : Fault → String
  | .refused reason => reason.message
  | .undated fault => fault.message

/-- The rules that do not depend on time. -/
def check (i : Instruction) (accounts : List Account) : Except Reason Unit :=
  match Account.find? accounts i.debit, Account.find? accounts i.credit with
  | some debit, some credit =>
    if i.debit = i.credit then throw .sameAccount
    else if debit.currency ≠ i.currency ∨ credit.currency ≠ i.currency then throw .currencyMismatch
    else if debit.balance < i.amount.value then throw .insufficientFunds
    else return ()
  | _, _ => throw .accountNotFound

/-- Settles an instruction at the moment `now`. -/
def settle (i : Instruction) (accounts : List Account) (now : Moment) :
    Except Fault Settlement := do
  (check i accounts).mapError .refused
  let scheduled ← (ExecutionDate.isFuture i.executeBy now).mapError .undated
  return ⟨i, scheduled, Entry.project i (!scheduled) accounts⟩

/-- The status of a settlement. -/
def status (s : Settlement) : Status :=
  if s.scheduled then .pending else .successful

/-- The reason of a settlement. -/
def reason (s : Settlement) : Reason :=
  if s.scheduled then .scheduled else .executed

/-- The record of a settlement. -/
def record (s : Settlement) : Record :=
  .transfer s.instruction s.status s.reason s.entries

end Settlement

end Remittance
