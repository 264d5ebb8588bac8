import Remittance.Request
import Remittance.Shape.Value

/-! # The shapes of accounts and requests

Both may have fields that are not looked at. -/

namespace Remittance

open Shape

namespace Account

/-- The name of the shape. -/
def shapeName : String := "Account"

/-- Checks an account. Its currency is taken in upper case. -/
def ofJson : Json → Checked Account :=
  object shapeName fun fields =>
    ofParts <$> required "id" text fields <*> required "balance" natural fields <*>
      required "currency" text fields

/-- An account as a JSON value. -/
def toJson (a : Account) : Json :=
  .object [("id", .string a.id), ("balance", .int a.balance), ("currency", .string a.currency)]

end Account

namespace Request

/-- The name of the shape. -/
def shapeName : String := "PaymentInstructionRequest"

/-- Checks a request. -/
def ofJson : Json → Checked Request :=
  object shapeName fun fields =>
    Request.mk <$> required "accounts" (list Account.ofJson) fields <*>
      required "instruction" text fields

/-- A request as a JSON value. -/
def toJson (r : Request) : Json :=
  .object [("accounts", .array (r.accounts.map Account.toJson)),
    ("instruction", .string r.sentence)]

end Request

end Remittance
