import Remittance.Instruction.Basic
import Remittance.Shape.Value

/-! # The shape of an instruction

An instruction has no other fields than its own, and a positive amount; its currency, its ids and
its date are texts of any content. -/

namespace Remittance

open Shape

/-- Checks a positive integer. -/
def Amount.ofJson (v : Json) : Checked Amount :=
  (integer v).andThen fun n =>
    if h : 0 < n then .good ⟨n.toNat, by omega⟩ else Checked.fail (.notAbove 0) v

namespace Instruction

/-- The name of the shape. -/
def shapeName : String := "ParsedInstruction"

/-- The names of the fields. -/
def fieldNames : List String :=
  ["type", "amount", "currency", "debit_account", "credit_account", "execute_by"]

/-- Checks an instruction. -/
def ofJson : Json → Checked Instruction :=
  object shapeName fun fields =>
    Instruction.mk <$> required "type" (word Form.ofText? .notForm) fields <*>
      required "amount" Amount.ofJson fields <*> required "currency" text fields <*>
      required "debit_account" text fields <*> required "credit_account" text fields <*>
      given "execute_by" none (optional text) fields <* closed fieldNames fields

/-- An instruction as a JSON value. -/
def toJson (i : Instruction) : Json :=
  .object [("type", .string i.form.text), ("amount", .int i.amount.value),
    ("currency", .string i.currency), ("debit_account", .string i.debit),
    ("credit_account", .string i.credit), ("execute_by", .ofString? i.executeBy)]

end Instruction

end Remittance
