import Remittance.Service.Level
import Remittance.Shape.Value
import Remittance.Text.Blank

/-! # Configuration

The service is configured by three variables of its environment: the log level, the host and the
port. Names of variables are compared in any ASCII casing, and of several with one name the last
counts. -/

namespace Remittance

open Shape

/-- The variables of a process, in order. -/
abbrev Environment := List (String × String)

/-- The configuration of the service. -/
structure Configuration where
  level : String
  host : String
  port : Nat
  deriving DecidableEq, Repr

namespace Configuration

/-- The name of the shape. -/
def shapeName : String := "Settings"

/-- The value of a variable whose name is given in lower case. -/
def valueOf? (env : Environment) (name : String) : Option String :=
  ((env.filter (·.1.toLower == name)).getLast?).map (·.2)

/-- A variable with a default. Issues are placed under its proper name. -/
def setting {α : Type} (env : Environment) (name : String) (default : α)
    (check : String → Checked α) : Checked α :=
  match valueOf? env name.toLower with
  | some value => (check value).under (.field name)
  | none => .good default

/-- Checks a log level: the name of one in any casing, with blanks around it. -/
def level? (given : String) : Checked String :=
  let name := Text.upper (Text.trim given)
  if (Level.number? name).isSome then .good name
  else Checked.fail (.notLevel given) (.string given)

/-- Checks a port: an integer from 1 to 65535. -/
def port? (given : String) : Checked Nat :=
  (numeral given).andThen fun n =>
    if n < 1 then Checked.fail (.below 1) (.string given)
    else if 65535 < n then Checked.fail (.above 65535) (.string given)
    else .good n.toNat

/-- Reads the configuration from an environment. -/
def ofEnvironment (env : Environment) : Checked Configuration :=
  Configuration.mk <$> setting env "LOG_LEVEL" "INFO" level? <*>
    setting env "API_HOST" "0.0.0.0" .good <*> setting env "API_PORT" 8000 port?

end Configuration

end Remittance
