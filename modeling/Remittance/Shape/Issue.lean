import Remittance.Json.Basic
import Remittance.Text.Quoted

/-! # Issues

An issue says where in a JSON value something is wrong, what, and with which value. -/

namespace Remittance.Shape

/-- A step into a JSON value. -/
inductive Step where
  | field (name : String)
  | index (n : Nat)
  deriving DecidableEq, Repr

/-- What can be wrong with a value. -/
inductive Problem where
  /-- An object of the named kind is expected. -/
  | notObject (kind : String)
  | missing
  /-- The object may not have this field. -/
  | unknownField
  | notText
  | notList
  | notForm
  | notStatus
  | notInteger
  /-- The number has a fraction. -/
  | fractional
  /-- The number is infinite or missing. -/
  | notFinite
  /-- The integer has too many digits, or comes from too large a binary fraction. -/
  | tooLong
  /-- The text denotes no integer. -/
  | notNumeral
  /-- The text that should denote an integer has an unpaired surrogate. -/
  | unpaired
  | below (bound : Int)
  | notAbove (bound : Int)
  | above (bound : Int)
  /-- The text names no log level. -/
  | notLevel (given : String)
  deriving DecidableEq, Repr

namespace Problem

/-- The short name of a problem. -/
def kind : Problem → String
  | .notObject _ => "model_type"
  | .missing => "missing"
  | .unknownField => "extra_forbidden"
  | .notText => "string_type"
  | .notList => "list_type"
  | .notForm => "enum"
  | .notStatus => "enum"
  | .notInteger => "int_type"
  | .fractional => "int_from_float"
  | .notFinite => "finite_number"
  | .tooLong => "int_parsing_size"
  | .notNumeral => "int_parsing"
  | .unpaired => "string_unicode"
  | .below _ => "greater_than_equal"
  | .notAbove _ => "greater_than"
  | .above _ => "less_than_equal"
  | .notLevel _ => "value_error"

/-- The description of a problem. -/
def message : Problem → String
  | .notObject kind => s!"Input should be a valid dictionary or instance of {kind}"
  | .missing => "Field required"
  | .unknownField => "Extra inputs are not permitted"
  | .notText => "Input should be a valid string"
  | .notList => "Input should be a valid list"
  | .notForm => "Input should be 'DEBIT' or 'CREDIT'"
  | .notStatus => "Input should be 'successful', 'pending' or 'failed'"
  | .notInteger => "Input should be a valid integer"
  | .fractional => "Input should be a valid integer, got a number with a fractional part"
  | .notFinite => "Input should be a finite number"
  | .tooLong => "Unable to parse input string as an integer, exceeded maximum size"
  | .notNumeral => "Input should be a valid integer, unable to parse string as an integer"
  | .unpaired =>
    "Input should be a valid string, unable to parse raw data as a unicode string"
  | .below bound => s!"Input should be greater than or equal to {bound}"
  | .notAbove bound => s!"Input should be greater than {bound}"
  | .above bound => s!"Input should be less than or equal to {bound}"
  | .notLevel given =>
    "Value error, LOG_LEVEL must be a logging level name, got " ++ Text.quoted given

end Problem

/-- A problem, the way to it from the outside in, and the value that has it. -/
structure Issue where
  path : List Step
  problem : Problem
  value : Json
  deriving Repr

/-- The same issue, seen from a value that `step` leads into. -/
def Issue.under (step : Step) (i : Issue) : Issue :=
  { i with path := step :: i.path }

end Remittance.Shape
