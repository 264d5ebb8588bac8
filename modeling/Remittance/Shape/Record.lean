import Remittance.Ledger.Record
import Remittance.Shape.Value

/-! # The shapes of entries and outcome records

Neither has other fields than its own. Of a record only the status and the reason must be given. -/

namespace Remittance

open Shape

namespace Entry

/-- The name of the shape. -/
def shapeName : String := "AccountSnapshotEntry"

/-- The names of the fields. -/
def fieldNames : List String :=
  ["id", "balance", "balance_before", "currency"]

/-- Checks an entry. -/
def ofJson : Json → Checked Entry :=
  object shapeName fun fields =>
    Entry.mk <$> required "id" text fields <*> required "balance" integer fields <*>
      required "balance_before" integer fields <*> required "currency" text fields <*
      closed fieldNames fields

/-- An entry as a JSON value. -/
def toJson (e : Entry) : Json :=
  .object [("id", .string e.id), ("balance", .int e.balance),
    ("balance_before", .int e.balanceBefore), ("currency", .string e.currency)]

end Entry

namespace Record

/-- The name of the shape. -/
def shapeName : String := "OutcomeRecord"

/-- The names of the fields. -/
def fieldNames : List String :=
  ["type", "amount", "currency", "debit_account", "credit_account", "execute_by", "status",
    "status_reason", "status_code", "accounts"]

/-- A record from its fields in the order in which they are checked. -/
def ofParts (form : Option Form) (amount : Option Int)
    (currency debit credit executeBy : Option String) (status : Status) (message code : String)
    (entries : List Entry) : Record :=
  ⟨form, amount, currency, debit, credit, executeBy, status, ⟨code, message⟩, entries⟩

/-- Checks a record. -/
def ofJson : Json → Checked Record :=
  object shapeName fun fields =>
    ofParts <$> given "type" none (optional (word Form.ofText? .notForm)) fields <*>
      given "amount" none (optional integer) fields <*>
      given "currency" none (optional text) fields <*>
      given "debit_account" none (optional text) fields <*>
      given "credit_account" none (optional text) fields <*>
      given "execute_by" none (optional text) fields <*>
      required "status" (word Status.ofText? .notStatus) fields <*>
      required "status_reason" text fields <*> required "status_code" text fields <*>
      given "accounts" [] (list Entry.ofJson) fields <* closed fieldNames fields

/-- A record as a JSON value. -/
def toJson (r : Record) : Json :=
  .object [("type", .ofString? (r.form.map Form.text)), ("amount", .ofInt? r.amount),
    ("currency", .ofString? r.currency), ("debit_account", .ofString? r.debit),
    ("credit_account", .ofString? r.credit), ("execute_by", .ofString? r.executeBy),
    ("status", .string r.status.text), ("status_reason", .string r.reason.message),
    ("status_code", .string r.reason.code), ("accounts", .array (r.entries.map Entry.toJson))]

end Record

end Remittance
