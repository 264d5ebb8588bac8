import Remittance.Service.LogSetup

/-! # Launching the service

A launch reads the configuration, sets up the log and starts a server. An invalid configuration ends
it before anything else is done. -/

namespace Remittance

/-- What a server is started with. -/
structure Server where
  host : String
  port : Nat
  title : String := "Payment Instructions"
  version : String := "0.1.0"
  deriving DecidableEq, Repr

/-- Why no server is started. -/
inductive LaunchFault where
  | configuration (issues : List Shape.Issue)
  | log (fault : Log.UnknownLevel)
  deriving Repr

/-- What a launch leads to: a server, the state of the log and the lines in it. -/
structure Launch where
  outcome : Except LaunchFault Server
  log : Log
  lines : List String

namespace Launch

/-- The line that tells where the server listens. -/
def startingLine (c : Configuration) : String :=
  s!"starting host={c.host} port={c.port}"

/-- Launches the service in an environment, with the log in the given state. -/
def ofEnvironment (env : Environment) (log : Log := .fresh) : Launch :=
  match Configuration.ofEnvironment env with
  | .bad issues => ⟨.error (.configuration issues), log, []⟩
  | .good c =>
    match (Log.setUp (some c.level) env).run log with
    | (.error fault, log) => ⟨.error (.log fault), log, []⟩
    | (.ok (), log) =>
      ⟨.ok { host := c.host, port := c.port }, log, if log.logsInfo then [startingLine c] else []⟩

end Launch

end Remittance
