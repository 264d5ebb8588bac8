/-! # Reasons

Every outcome of an instruction has a reason: a short code for machines and a sentence for people.
The catalogue has thirteen of them. A `Notice` is such a pair of texts on its own, for outcomes
whose reason comes from elsewhere. -/

namespace Remittance

/-- A code and the sentence that goes with it. -/
structure Notice where
  code : String
  message : String
  deriving DecidableEq, Repr

/-- The catalogue of reasons. -/
inductive Reason where
  /-- The sentence is too short, or begins with neither form. -/
  | missingKeyword
  /-- A keyword is not where its form has it. -/
  | keywordOrder
  /-- Nothing more can be said about what went wrong. -/
  | malformed
  | invalidAmount
  | unsupportedCurrency
  | invalidDate
  | invalidAccountId
  | insufficientFunds
  | sameAccount
  | accountNotFound
  | currencyMismatch
  /-- The transfer has been made. -/
  | executed
  /-- The transfer waits for its date. -/
  | scheduled
  deriving DecidableEq, Repr

namespace Reason

/-- The code and the sentence of a reason. -/
def notice : Reason → Notice
  | .missingKeyword => ⟨"SY01", "Missing required keyword in instruction"⟩
  | .keywordOrder => ⟨"SY02", "Instruction keywords are not in the required order"⟩
  | .malformed => ⟨"SY03", "Malformed instruction: unable to parse keywords"⟩
  | .invalidAmount => ⟨"AM01", "Amount must be a positive integer"⟩
  | .unsupportedCurrency => ⟨"CU02", "Currency is not supported"⟩
  | .invalidDate => ⟨"DT01", "Invalid date format, expected YYYY-MM-DD"⟩
  | .invalidAccountId => ⟨"AC04", "Account id contains invalid characters"⟩
  | .insufficientFunds => ⟨"AC01", "Insufficient funds in debit account"⟩
  | .sameAccount => ⟨"AC02", "Debit and credit accounts cannot be the same"⟩
  | .accountNotFound => ⟨"AC03", "Account not found"⟩
  | .currencyMismatch => ⟨"CU01", "Account currency does not match instruction currency"⟩
  | .executed => ⟨"AP00", "Transaction executed successfully"⟩
  | .scheduled => ⟨"AP02", "Transaction scheduled for future execution"⟩

/-- The code of a reason. -/
def code (r : Reason) : String :=
  r.notice.code

/-- The sentence of a reason. -/
def message (r : Reason) : String :=
  r.notice.message

/-- **The codes of the catalogue.** -/
theorem code_eq (r : Reason) : r.code =
    match r with
    | .missingKeyword => "SY01"
    | .keywordOrder => "SY02"
    | .malformed => "SY03"
    | .invalidAmount => "AM01"
    | .unsupportedCurrency => "CU02"
    | .invalidDate => "DT01"
    | .invalidAccountId => "AC04"
    | .insufficientFunds => "AC01"
    | .sameAccount => "AC02"
    | .accountNotFound => "AC03"
    | .currencyMismatch => "CU01"
    | .executed => "AP00"
    | .scheduled => "AP02" := by
  cases r <;> rfl

/-- The whole catalogue. -/
def all : List Reason := [
  .missingKeyword, .keywordOrder, .malformed, .invalidAmount, .unsupportedCurrency, .invalidDate,
  .invalidAccountId, .insufficientFunds, .sameAccount, .accountNotFound, .currencyMismatch,
  .executed, .scheduled]

theorem mem_all (r : Reason) : r ∈ all := by
  cases r <;> decide

/-- The reason with the given code. -/
def ofCode? (code : String) : Option Reason :=
  all.find? (·.code == code)

@[simp]
theorem ofCode?_code (r : Reason) : ofCode? r.code = some r := by
  cases r <;> decide

end Reason

end Remittance
