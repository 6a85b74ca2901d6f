import FleetOperator.Command.Report

/-!
# The program

Prints what the operator says. There is no connection to a cluster here, so whatever needs one
ends with a failure.
-/

namespace FleetOperator.Command

/-- Prints one line. -/
def printLine (logJson : Bool) : OutputLine → IO Unit
  | .text line => IO.println line
  | .log event => IO.println (if logJson then event.encode.text else event.line)

/-- Runs the operator and gives its exit code. -/
def execute (words : List String) : IO Nat := do
  let settings ← [logJsonVariable, namespaceVariable, rootVariable, "RUST_LOG"].mapM fun name =>
    return (name, ← IO.getEnv name)
  let said := report words fun name => (settings.lookup name).join
  said.output.forM (printLine said.logJson)
  match said.exit with
  | some code => return code
  | none =>
    IO.eprintln "Error: Failed to create Kubernetes client"
    return noCluster

end FleetOperator.Command

def main (words : List String) : IO UInt32 := do
  return UInt32.ofNat (← FleetOperator.Command.execute words)
