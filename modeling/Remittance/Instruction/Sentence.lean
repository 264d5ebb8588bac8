import Remittance.Instruction.Cursor
import Remittance.Text.Words

/-! # Sentences

An instruction is given as a sentence in one of two forms,

    DEBIT  amount currency FROM ACCOUNT debit  FOR CREDIT TO   ACCOUNT credit [ON date]
    CREDIT amount currency TO   ACCOUNT credit FOR DEBIT  FROM ACCOUNT debit  [ON date]

with keywords in any casing. It is read from left to right, so the first token that does not fit
decides the reason for refusing it. What follows a complete sentence is not looked at. -/

namespace Remittance

namespace Form

/-- The keywords between the currency and the first account id. -/
def keywordsBeforeFirst : Form → List String
  | .debit => ["FROM", "ACCOUNT"]
  | .credit => ["TO", "ACCOUNT"]

/-- The keywords between the two account ids. -/
def keywordsBeforeSecond : Form → List String
  | .debit => ["FOR", "CREDIT", "TO", "ACCOUNT"]
  | .credit => ["FOR", "DEBIT", "FROM", "ACCOUNT"]

/-- The debit and the credit account of a sentence with the given account ids. -/
def roles (form : Form) (first second : String) : String × String :=
  match form with
  | .debit => (first, second)
  | .credit => (second, first)

end Form

namespace Sentence

/-- The number of tokens of a sentence without a date. -/
def leastLength : Nat := 11

/-- Reads what follows the first word of a sentence. -/
def body (form : Form) : Reading Instruction := do
  let amount ← Cursor.take Field.amount
  let currency ← Cursor.take Field.currency
  Cursor.expect form.keywordsBeforeFirst
  let first ← Cursor.take Field.accountId
  Cursor.expect form.keywordsBeforeSecond
  let second ← Cursor.take Field.accountId
  let (debit, credit) := form.roles first second
  let executeBy ← Cursor.executeBy
  return { form, amount, currency, debit, credit, executeBy }

/-- Reads the tokens that follow the first word of a sentence. -/
def ofTokens (form : Form) (tokens : List String) : Except Mishap Instruction :=
  ((body form).run.run ⟨tokens, 0⟩).1

/-- Reads a sentence. One with too few tokens, or with a first word that names no form, lacks a
keyword. -/
def read (text : String) : Except Mishap Instruction :=
  match Text.words text with
  | [] => .error (.refused .missingKeyword)
  | word :: tokens =>
    match Form.detect? word with
    | none => .error (.refused .missingKeyword)
    | some form =>
      if tokens.length + 1 < leastLength then .error (.refused .missingKeyword)
      else ofTokens form tokens

/-- Reads a sentence that may be missing; a missing one is read as an empty one. -/
def readMissing (text : Option String) : Except Mishap Instruction :=
  read (text.getD "")

end Sentence

end Remittance
