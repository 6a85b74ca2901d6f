import FleetOperator.Gateway.Cycle
import FleetOperator.Object.Key

/-!
# A cluster in memory

The collaborators of a gateway cycle over one state: objects under their keys, secrets, a version,
and the calls that are to fail. Every write gives an object the next resource version. A call that
fails has no effect, and is on record like any other.
-/

namespace FleetOperator

/-- The collaborators that can be made to fail. -/
inductive FailureTarget where
  | get
  | create
  | update
  | delete
  | list
  | secret
  | version
  | customProperties
deriving DecidableEq, Repr, Inhabited

/-- The collaborator that answers a call. -/
def GatewayCall.target : GatewayCall → FailureTarget
  | .applyProperties .. => .customProperties
  | .readSecret .. => .secret
  | .serverVersion => .version
  | .get .. => .get
  | .create _ => .create
  | .update _ => .update
  | .delete _ => .delete

/-- The key of an object. -/
def StatefulSet.key (workload : StatefulSet) : ObjectKey := ⟨workload.ns, workload.name⟩

structure SimulatedCluster where
  objects : SortedMap ObjectKey StatefulSet
  /-- How many writes there have been. -/
  revision : Nat
  secrets : SortedMap ObjectKey SecretData
  version : ServerVersion
  /-- The collaborators that fail, with what they say. -/
  failures : List (FailureTarget × String)
  /-- The calls so far, the latest first. -/
  calls : List GatewayCall
deriving Inhabited

namespace SimulatedCluster

/-- Stores an object under the next resource version. -/
def write (cluster : SimulatedCluster) (workload : StatefulSet) : SimulatedCluster :=
  let revision := cluster.revision + 1
  let stored := { workload with
    metadata := { workload.metadata with resourceVersion := some (toString revision) } }
  { cluster with revision, objects := cluster.objects.insert stored.key stored }

/-- Drops an object, if it is there. -/
def remove (cluster : SimulatedCluster) (key : ObjectKey) : SimulatedCluster :=
  { cluster with objects := cluster.objects.erase key }

/-- Writes a changed form of an object that is there. -/
def edit? (cluster : SimulatedCluster) (key : ObjectKey) (change : Adjustment) :
    Option SimulatedCluster :=
  (cluster.objects.get? key).map fun workload => cluster.write (change workload)

/-- Makes a collaborator fail from now on, or lets it answer again. -/
def setFailure (cluster : SimulatedCluster) (target : FailureTarget) (message : Option String) :
    SimulatedCluster :=
  let others := cluster.failures.filter (·.1 ≠ target)
  { cluster with failures := match message with
      | some message => (target, message) :: others
      | none => others }

/-- Puts a secret in place, or removes it. -/
def setSecret (cluster : SimulatedCluster) (key : ObjectKey) (data : Option SecretData) :
    SimulatedCluster :=
  { cluster with secrets := match data with
      | some data => cluster.secrets.insert key data
      | none => cluster.secrets.erase key }

/-- What a call that does not fail gives, and the cluster after it. -/
def serve (cluster : SimulatedCluster) : (call : GatewayCall) → call.Result × SimulatedCluster
  | .applyProperties .. => ((), cluster)
  | .readSecret ns name => (cluster.secrets.get? ⟨ns, name⟩, cluster)
  | .serverVersion => (cluster.version, cluster)
  | .get ns name => (cluster.objects.get? ⟨ns, name⟩, cluster)
  | .create workload => ((), cluster.write workload)
  | .update workload => ((), cluster.write workload)
  | .delete workload => ((), cluster.remove workload.key)

/-- Puts a call on record and answers it. -/
def answer (call : GatewayCall) (cluster : SimulatedCluster) :
    Except OperatorError call.Result × SimulatedCluster :=
  let cluster := { cluster with calls := call :: cluster.calls }
  match cluster.failures.lookup call.target with
  | some message => (.error (.backendUnavailable call.context message), cluster)
  | none =>
    let (result, cluster) := cluster.serve call
    (.ok result, cluster)

/-- Runs a program of gateway calls on the cluster. -/
def run {α : Type} (program : GatewayProgram α) (cluster : SimulatedCluster) :
    Except GatewayError α × SimulatedCluster :=
  Dialogue.run (I := gatewayInterface) answer (ExceptT.run program) cluster

end SimulatedCluster

end FleetOperator
