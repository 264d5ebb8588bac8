import Remittance.Instruction.Field

/-! # Walking through a sentence

A cursor stands before one of the tokens of a sentence, or behind the last. Its actions look at the
token there or step over it; none steps back, and a mishap leaves the cursor where it was met. A
value is stepped over even if its reader refuses it. -/

namespace Remittance

/-- The tokens of a sentence and the number of those already stepped over. -/
structure Cursor where
  tokens : List String
  position : Nat := 0
  deriving DecidableEq, Repr

/-- Why an action fails. -/
inductive Mishap where
  /-- A token is refused. -/
  | refused (reason : Reason)
  /-- A value is asked for behind the last token. -/
  | exhausted
  deriving DecidableEq, Repr

/-- The description of a mishap. -/
def Mishap.message : Mishap → String
  | .refused reason => reason.message
  | .exhausted => "list index out of range"

/-- An action on a cursor. What it does to the cursor stays, even if it fails. -/
abbrev Reading := ExceptT Mishap (StateM Cursor)

namespace Cursor

/-- The token that the cursor stands before. -/
def current? (c : Cursor) : Option String :=
  c.tokens[c.position]?

/-- The cursor one token on. -/
def next (c : Cursor) : Cursor :=
  { c with position := c.position + 1 }

/-- Whether a token is left. -/
def hasMore (c : Cursor) : Bool :=
  decide (c.position < c.tokens.length)

/-- Whether the token there is the given keyword when written in upper case. -/
def sees (c : Cursor) (keyword : String) : Bool :=
  c.current?.any (Text.upper · == keyword)

/-! ### Actions -/

/-- Steps over a token and reads it. -/
def take {α : Type} (reader : Field.Reader α) : Reading α := do
  let c ← get
  match c.current? with
  | none => throw .exhausted
  | some token =>
    set c.next
    match reader token with
    | .ok value => return value
    | .error reason => throw (.refused reason)

/-- Steps over keywords, up to the first that is not there. -/
def expect : List String → Reading Unit
  | [] => return ()
  | keyword :: keywords => do
    let c ← get
    if c.sees keyword then
      set c.next
      expect keywords
    else throw (.refused .keywordOrder)

/-- Steps over the clause that gives an execution date. Without its keyword there is no clause, and
with nothing behind the keyword there is no date. -/
def executeBy : Reading (Option String) := do
  if (← get).sees "ON" then
    expect ["ON"]
    if (← get).hasMore then return some (← take Field.date) else return none
  else return none

end Cursor

end Remittance
