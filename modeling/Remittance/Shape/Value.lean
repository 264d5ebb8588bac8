import Remittance.Shape.Checked
import Remittance.Numeral.Lenient

/-! # Checks of values and fields

The checks that the shapes of this library are put together from. Texts must be texts and lists must
be lists, but an integer may also come as a truth value, as a binary fraction without a fractional
part, or as lenient text. -/

namespace Remittance.Shape

open Checked

/-! ### Values -/

/-- A text. -/
def text : Json → Checked String
  | .string s => .good s
  | v => fail .notText v

/-- A text that is one of a few words. -/
def word {α : Type} (ofText? : String → Option α) (problem : Problem) (v : Json) : Checked α :=
  match v with
  | .string s =>
    match ofText? s with
    | some a => .good a
    | none => fail problem v
  | _ => fail problem v

/-- The integer that a text denotes. -/
def numeral (s : String) : Checked Int :=
  match Numeral.lenient s with
  | .ok n => .good n
  | .error .malformed => fail .notNumeral (.string s)
  | .error .tooLong => fail .tooLong (.string s)

/-- The integer that a binary fraction is. It must lie strictly between `-2 ^ 63` and `2 ^ 63`. -/
def whole (x : Binary64) : Checked Int :=
  match x.toInt? with
  | some n => if n.natAbs < 0x8000000000000000 then .good n else fail .tooLong (.real x)
  | none => fail (if x.isFinite then .fractional else .notFinite) (.real x)

/-- An integer. -/
def integer : Json → Checked Int
  | .int n => .good n
  | .bool b => .good (if b then 1 else 0)
  | .real x => whole x
  | .string s => numeral s
  | v => fail .notInteger v

/-- An integer that is not below zero. -/
def natural (v : Json) : Checked Nat :=
  (integer v).andThen fun n => if n < 0 then fail (.below 0) v else .good n.toNat

/-- A value or `null`. -/
def optional {α : Type} (check : Json → Checked α) : Json → Checked (Option α)
  | .null => .good none
  | v => some <$> check v

/-- The elements of a list, the first of which has the index `n`. -/
def elements {α : Type} (check : Json → Checked α) : Nat → List Json → Checked (List α)
  | _, [] => .good []
  | n, v :: vs => (· :: ·) <$> (check v).under (.index n) <*> elements check (n + 1) vs

/-- A list. -/
def list {α : Type} (check : Json → Checked α) : Json → Checked (List α)
  | .array vs => elements check 0 vs
  | v => fail .notList v

/-! ### Objects -/

/-- The fields of an object. -/
abbrev Fields := List (String × Json)

/-- An object of the named kind. -/
def object {α : Type} (kind : String) (check : Fields → Checked α) : Json → Checked α
  | .object fields => check fields
  | v => fail (.notObject kind) v

/-- A field that must be there. -/
def required {α : Type} (name : String) (check : Json → Checked α) (fields : Fields) : Checked α :=
  match Json.field? name fields with
  | some v => (check v).under (.field name)
  | none => .bad [⟨[.field name], .missing, .object fields⟩]

/-- A field that may be left out. -/
def given {α : Type} (name : String) (absent : α) (check : Json → Checked α) (fields : Fields) :
    Checked α :=
  match Json.field? name fields with
  | some v => (check v).under (.field name)
  | none => .good absent

/-- No other fields than those of the given names. -/
def closed (names : List String) (fields : Fields) : Checked Unit :=
  match fields.filter (!names.contains ·.1) with
  | [] => .good ()
  | unknown => .bad (unknown.map fun f => ⟨[.field f.1], .unknownField, f.2⟩)

end Remittance.Shape
