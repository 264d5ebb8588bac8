import Remittance.Text.UpperCase

/-! # Log levels -/

namespace Remittance.Level

/-- The names of the log levels and their numbers. -/
def numbers : List (String × Nat) := [
  ("CRITICAL", 50), ("FATAL", 50), ("ERROR", 40), ("WARN", 30), ("WARNING", 30), ("INFO", 20),
  ("DEBUG", 10), ("NOTSET", 0)]

/-- The number of a level. -/
def number? (name : String) : Option Nat :=
  numbers.lookup name

/-- The number of the level at which ordinary events are logged. -/
def info : Nat := 20

/-- The number of the level at which warnings are logged. -/
def warning : Nat := 30

end Remittance.Level
