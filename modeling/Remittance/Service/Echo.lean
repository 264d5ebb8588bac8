import Remittance.Json.Basic

/-! # Values repeated in answers

An answer that finds fault with a value repeats it. Internal fields are left out of what is
repeated, and a number for which JSON has no text cannot be repeated at all. -/

namespace Remittance.Http

/-- Whether a field is internal: its name begins with `_sa`. -/
def isInternal (name : String) : Bool :=
  "_sa".toList.isPrefixOf name.toList

mutual

/-- A value without the internal fields of its objects, at every level. -/
def echo : Json → Json
  | .array items => .array (echoItems items)
  | .object fields => .object (echoFields fields)
  | v => v

/-- Values without internal fields. -/
def echoItems : List Json → List Json
  | [] => []
  | v :: vs => echo v :: echoItems vs

/-- The fields that are not internal. -/
def echoFields : List (String × Json) → List (String × Json)
  | [] => []
  | (name, v) :: fs => if isInternal name then echoFields fs else (name, echo v) :: echoFields fs

end

mutual

/-- Whether a value can be written: JSON has no text for infinite and missing numbers. -/
def isWritable : Json → Bool
  | .real x => x.isFinite
  | .array items => areWritable items
  | .object fields => haveWritable fields
  | _ => true

/-- Whether all values can be written. -/
def areWritable : List Json → Bool
  | [] => true
  | v :: vs => isWritable v && areWritable vs

/-- Whether the values of all fields can be written. -/
def haveWritable : List (String × Json) → Bool
  | [] => true
  | (_, v) :: fs => isWritable v && haveWritable fs

end

end Remittance.Http
