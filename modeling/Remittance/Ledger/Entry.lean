import Remittance.Ledger.Account

/-! # Entries

An entry shows what a transfer does to one account: its balance before and its balance after. The
entries of an instruction follow the order of the snapshot and cover every account with one of the
two ids, also where ids repeat. If the two ids are the same, the account counts as the debit
account. -/

namespace Remittance

/-- An account before and after a transfer. -/
structure Entry where
  id : String
  balance : Int
  balanceBefore : Int
  currency : String
  deriving DecidableEq, Repr

namespace Entry

/-- What a transfer adds to the account `id`. -/
def change (i : Instruction) (id : String) : Int :=
  if id = i.debit then -i.amount.value else i.amount.value

/-- The entry of one account; without `apply` the balance stays. -/
def ofAccount (i : Instruction) (apply : Bool) (a : Account) : Entry :=
  { id := a.id
    balance := if apply then a.balance + change i a.id else a.balance
    balanceBefore := a.balance
    currency := a.currency }

/-- The entries of all accounts that the instruction names. -/
def project (i : Instruction) (apply : Bool) (accounts : List Account) : List Entry :=
  (accounts.filter fun a => i.names a.id).map (ofAccount i apply)

@[simp]
theorem project_nil (i : Instruction) (apply : Bool) : project i apply [] = [] := rfl

theorem project_cons (i : Instruction) (apply : Bool) (a : Account) (accounts : List Account) :
    project i apply (a :: accounts) =
      if i.names a.id then ofAccount i apply a :: project i apply accounts
      else project i apply accounts := by
  by_cases h : i.names a.id <;> simp [project, h]

end Entry

end Remittance
