import Remittance.Ledger.Account

/-! # Requests -/

namespace Remittance

/-- An instruction together with the snapshot of accounts that it is checked against. -/
structure Request where
  accounts : List Account
  sentence : String
  deriving DecidableEq, Repr

end Remittance
