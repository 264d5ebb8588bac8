import Remittance.Service.Configuration

/-! # Setting up the log

The log of a process has a root with a level and handlers, and a separate level for the lines about
single accesses. Setting it up for the first time adds a handler and then sets the level of the
root; an unknown level is refused in between. Every further time leaves the root as it is. The
access level is set last, whenever nothing was refused. -/

namespace Remittance

/-- The state of the log. -/
structure Log where
  /-- The level of the root; a warning at first. -/
  rootLevel : Nat := Level.warning
  /-- The line formats of the root's handlers. -/
  formats : List String := []
  /-- The level of access lines; 0 stands for none. -/
  accessLevel : Nat := 0
  deriving DecidableEq, Repr

namespace Log

/-- The log of a new process. -/
def fresh : Log := {}

/-- The format of a line. -/
def lineFormat : String := "%(asctime)s %(levelname)s %(name)s %(message)s"

/-- A level that is not known by its name. -/
structure UnknownLevel where
  name : String
  deriving DecidableEq, Repr

/-- The description of an unknown level. -/
def UnknownLevel.message (u : UnknownLevel) : String :=
  "Unknown level: " ++ Text.quoted u.name

/-- The level asked for: the first that is not empty of the one given, the one of the environment
and `INFO`, in upper case. -/
def effectiveLevel (given : Option String) (env : Environment) : String :=
  let candidates := [given, env.lookup "LOG_LEVEL"].filterMap id
  Text.upper ((candidates.find? (· ≠ "")).getD "INFO")

/-- Sets up the root. -/
def setUpRoot (name : String) : ExceptT UnknownLevel (StateM Log) Unit := do
  if (← get).formats.isEmpty then
    modify fun log => { log with formats := [lineFormat] }
    match Level.number? name with
    | some n => modify fun log => { log with rootLevel := n }
    | none => throw ⟨name⟩

/-- Sets up the log. -/
def setUp (given : Option String) (env : Environment) : ExceptT UnknownLevel (StateM Log) Unit := do
  setUpRoot (effectiveLevel given env)
  modify fun log => { log with accessLevel := Level.warning }

/-- Sets up the log again and again, each time as asked for in the environment of that time. Gives
the outcomes, each with the state after it. -/
def history (log : Log) :
    List (Option String × Environment) → List (Except UnknownLevel Unit × Log)
  | [] => []
  | (given, env) :: calls =>
    let after := (setUp given env).run log
    after :: history after.2 calls

/-- Whether ordinary events are logged. -/
def logsInfo (log : Log) : Bool :=
  decide (log.rootLevel ≤ Level.info)

end Log

end Remittance
