import FleetOperator.Command.Arguments
import FleetOperator.Command.Log.Filter
import FleetOperator.Fleet.Manifest
import FleetOperator.Schedule

/-!
# What the operator says

The operator either prints a text and is done, or it starts to work: it sets up its log, says in
which mode it starts and then needs a cluster. Where there is none it ends with a failure.
-/

namespace FleetOperator.Command

/-- The name of the operator. -/
def operatorName : String := "meridian-operator"

/-- A line that the operator prints. -/
inductive OutputLine where
  | text (line : String)
  | log (event : Log.Event)
deriving DecidableEq, Repr, Inhabited

/-- What the operator prints before it needs a cluster. -/
structure Report where
  output : List OutputLine
  logJson : Bool
  /-- The exit code; none where the operator goes on to work. -/
  exit : Option Nat
deriving DecidableEq, Repr, Inhabited

/-- The exit code of an operator without a cluster. -/
def noCluster : Nat := 1

/-- The exit code of a command line that makes no sense. -/
def badUsage : Nat := 2

/-- What the help says. -/
def helpLines : List String := [
  "Usage: " ++ operatorName ++ " [OPTIONS] [COMMAND]",
  "",
  "Commands:",
  "  controller  Run the gateway controller (default mode)",
  "  csi-gc      Run the node-local agent binary garbage collector",
  "",
  "Options:",
  "      --crd                    Print the AgentFleet CRD manifest and exit",
  "      --log-json               Emit logs as JSON [env: " ++ logJsonVariable ++ "]",
  "      --namespace <NAMESPACE>  Only watch AgentFleets in this namespace [env: " ++
    namespaceVariable ++ "]",
  "      --root-dir <ROOT_DIR>    Root of the data directory of csi-gc [env: " ++
    rootVariable ++ "]",
  "  -h, --help                   Print help",
  "  -V, --version                Print version"]

/-- The event of a log that is set up. -/
def logReady (logJson : Bool) : Log.Event :=
  ⟨.info, "meridian_common::telemetry", "telemetry initialized",
    [("service", .text operatorName), ("json", .flag logJson)]⟩

/-- The event of an operator that starts to work. -/
def starting (invocation : Invocation) : Log.Event :=
  match invocation.mode with
  | .gateways => ⟨.info, "meridian_operator", "Meridian controller starting...",
      [("namespace", .text (Log.quoted invocation.ns))]⟩
  | .sweeps root => ⟨.info, "meridian_operator", "Meridian garbage collector starting...",
      [("root_dir", .text root)]⟩

/-- What the operator prints for a command line and an environment. -/
def report (words : List String) (env : String → Option String) : Report :=
  match parse words env with
  | .error .help => ⟨helpLines.map .text, false, some 0⟩
  | .error .version => ⟨[.text (operatorName ++ " " ++ operatorVersion)], false, some 0⟩
  | .error .usage => ⟨[], false, some badUsage⟩
  | .ok invocation =>
    if invocation.manifest then ⟨(Manifest.lines ++ [""]).map .text, false, some 0⟩
    else
      let filter := Log.Filter.ofVariable (env "RUST_LOG")
      let events := [logReady invocation.logJson, starting invocation].filter filter.allows
      ⟨events.map .log, invocation.logJson, none⟩

end FleetOperator.Command
