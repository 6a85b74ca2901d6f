import FleetOperator.Cluster.Store
import FleetOperator.Sweep.Controller

/-!
# Sweeps on a node

What a sweep talks to on a node: the API server for secrets, the distribution service for what it
knows about the tenant, and the disk.
-/

namespace FleetOperator

inductive NodeCall where
  | cluster (request : ApiRequest)
  | service (request : ServiceRequest)
  | disk (call : DiskCall)
deriving Inhabited

def NodeCall.Answer : NodeCall → Type
  | .cluster _ => Option ApiResponse
  | .service _ => Option ServiceResponse
  | .disk call => Except DiskError call.Result

/-- What can be asked of a node and what it is connected to. -/
def nodeInterface : Interface where
  Call := NodeCall
  Answer := NodeCall.Answer

namespace Node

variable {α : Type}

/-- A program that only talks to the API server. -/
def onCluster (program : Dialogue clusterInterface α) : Dialogue nodeInterface α :=
  program.translate fun request => Dialogue.call (I := nodeInterface) (.cluster request)

/-- A program that only talks to the distribution service. -/
def onService (program : Dialogue serviceInterface α) : Dialogue nodeInterface α :=
  program.translate fun request => Dialogue.call (I := nodeInterface) (.service request)

/-- A call of a sweep, made on the node. -/
def sweepCall : (call : SweepCall) → Dialogue nodeInterface call.Answer
  | .readSecret ns name => onCluster (Cluster.readSecret ns name)
  | .buildClient settings => .done settings.check
  | .connectionInfo settings => onService settings.fetchConnectionInfo
  | .latestVersion settings os installer => onService (settings.fetchLatestVersion os installer)
  | .disk call => Dialogue.call (I := nodeInterface) (.disk call)

/-- The cycle of a fleet, made on the node. -/
def reconcileSweep (root : String) (fleet : Fleet) : Dialogue nodeInterface Nat :=
  Dialogue.translate (I := sweepInterface) sweepCall (FleetOperator.reconcileSweep root fleet)

end Node

end FleetOperator
