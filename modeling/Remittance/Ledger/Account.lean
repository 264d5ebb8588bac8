import Remittance.Instruction.Basic

/-! # Accounts

A snapshot is a list of accounts. An account has an id, a balance that is not negative, and a
currency in upper case. Ids may repeat; the first account with an id is the one that counts when a
transfer is checked. -/

namespace Remittance

/-- An account of a snapshot. -/
structure Account where
  id : String
  balance : Nat
  currency : String
  deriving DecidableEq, Repr

namespace Account

/-- An account as it is given, with its currency in any casing. -/
def ofParts (id : String) (balance : Nat) (currency : String) : Account :=
  ⟨id, balance, Text.upper currency⟩

/-- The first account of a snapshot with the given id. -/
def find? (accounts : List Account) (id : String) : Option Account :=
  accounts.find? (·.id == id)

theorem find?_eq_none_iff {accounts : List Account} {id : String} :
    find? accounts id = none ↔ ∀ a ∈ accounts, a.id ≠ id := by
  simp [find?]

theorem id_of_find?_eq_some {accounts : List Account} {id : String} {a : Account}
    (h : find? accounts id = some a) : a.id = id := by
  simpa using List.find?_some h

theorem mem_of_find?_eq_some {accounts : List Account} {id : String} {a : Account}
    (h : find? accounts id = some a) : a ∈ accounts :=
  List.mem_of_find?_eq_some h

end Account

end Remittance
