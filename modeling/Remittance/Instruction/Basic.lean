import Remittance.Text.UpperCase
import Remittance.Text.Quoted

/-! # Transfer instructions

An instruction moves an amount in a currency from a debit account to a credit account, at once or on
a date. It comes in two forms, named for the word its sentence begins with; the form says nothing
about the transfer itself. -/

namespace Remittance

/-- The word that an instruction's sentence begins with. -/
inductive Form where
  | debit
  | credit
  deriving DecidableEq, Repr

namespace Form

/-- The form as a word. -/
def text : Form → String
  | .debit => "DEBIT"
  | .credit => "CREDIT"

/-- The form with exactly the given word. -/
def ofText? (word : String) : Option Form :=
  if word = "DEBIT" then some .debit
  else if word = "CREDIT" then some .credit
  else none

/-- The form with the given word in any casing. -/
def detect? (token : String) : Option Form :=
  ofText? (Text.upper token)

/-- What is said of a word that names no form. -/
def unknownMessage (word : String) : String :=
  Text.quoted word ++ " is not a valid InstructionType"

@[simp]
theorem ofText?_text (f : Form) : ofText? f.text = some f := by
  cases f <;> decide

theorem ofText?_eq_some_iff {word : String} {f : Form} : ofText? word = some f ↔ word = f.text := by
  constructor
  · unfold ofText?
    split
    · rintro ⟨rfl⟩; assumption
    · split
      · rintro ⟨rfl⟩; assumption
      · intro h; cases h
  · rintro rfl; simp

end Form

/-- A positive number of the currency's smallest unit. -/
structure Amount where
  value : Nat
  pos : 0 < value
  deriving DecidableEq, Repr

/-- A transfer to be made. -/
structure Instruction where
  form : Form
  amount : Amount
  currency : String
  debit : String
  credit : String
  /-- The execution date as it was given, or none for a transfer to be made at once. -/
  executeBy : Option String
  deriving DecidableEq, Repr

namespace Instruction

/-- Whether the instruction names the account `id`. -/
def names (i : Instruction) (id : String) : Bool :=
  id == i.debit || id == i.credit

end Instruction

end Remittance
