import Remittance.Decimal.Binary64

/-! # JSON values

A JSON value keeps integers of any size apart from binary fractions, and the fields of an object in
the order in which their names were first seen. A name that is given again keeps its place and takes
the later value, so no name stands twice in an object that was built with `putField`. -/

namespace Remittance

/-- A JSON value. -/
inductive Json where
  | null
  | bool (b : Bool)
  | int (n : Int)
  | real (x : Binary64)
  | string (s : String)
  | array (items : List Json)
  | object (fields : List (String × Json))
  deriving Inhabited, BEq, Repr

namespace Json

/-- Sets a field: in its place if the name is present, behind all others if not. -/
def putField (name : String) (value : Json) : List (String × Json) → List (String × Json)
  | [] => [(name, value)]
  | f :: fs => if f.1 = name then (name, value) :: fs else f :: putField name value fs

/-- The value of a field. -/
def field? (name : String) : List (String × Json) → Option Json
  | [] => none
  | f :: fs => if f.1 = name then some f.2 else field? name fs

@[simp]
theorem field?_putField_self (name : String) (value : Json) (fs : List (String × Json)) :
    field? name (putField name value fs) = some value := by
  induction fs with
  | nil => simp [putField, field?]
  | cons f fs ih => by_cases h : f.1 = name <;> simp [putField, field?, h, ih]

theorem field?_putField_of_ne {name other : String} (h : other ≠ name) (value : Json)
    (fs : List (String × Json)) : field? other (putField name value fs) = field? other fs := by
  induction fs with
  | nil => simp [putField, field?, Ne.symm h]
  | cons f fs ih =>
    by_cases hf : f.1 = name
    · simp [putField, field?, hf, Ne.symm h]
    · simp [putField, field?, hf, ih]

/-- A text, or `null` for none. -/
def ofString? : Option String → Json
  | some s => .string s
  | none => .null

/-- An integer, or `null` for none. -/
def ofInt? : Option Int → Json
  | some n => .int n
  | none => .null

end Json

end Remittance
