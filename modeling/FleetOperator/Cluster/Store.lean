import FleetOperator.Cluster.Api
import FleetOperator.Gateway.Controller

/-!
# Gateway cycles against the API server

The calls of a gateway cycle, each as a dialogue with the API server. A fault of the server is a
failure of the call, under the name of the call; an object that is there but is no stateful set is
a failure of its own kind.
-/

namespace FleetOperator

namespace Cluster

variable {α β : Type}

/-- Names the call that a fault belongs to. -/
def named (context : String) (program : Dialogue clusterInterface (Except ClusterFault α)) :
    Dialogue clusterInterface (Except OperatorError α) := do
  return (← program).mapError fun fault => .backendUnavailable context fault.message

/-- Looks up a stateful set. -/
def getWorkload (ns name : String) :
    Dialogue clusterInterface (Except OperatorError (Option StatefulSet)) := do
  let found ← named (GatewayCall.get ns name).context
    (get? .statefulSets ns name Document.decode?)
  return found.bind fun document => document.mapM Document.toWorkload

/-- The stateful sets of a namespace that the operator manages. -/
def listWorkloads (ns : String) :
    Dialogue clusterInterface (Except OperatorError (List StatefulSet)) := do
  let found ← named s!"list statefulsets in {ns}" (listManaged .statefulSets ns)
  return found.bind fun documents => documents.mapM Document.toWorkload

/-- Looks up the payload of a secret. -/
def readSecret (ns name : String) :
    Dialogue clusterInterface (Except OperatorError (Option SecretData)) :=
  named (GatewayCall.readSecret ns name).context (get? .secrets ns name SecretData.decode?)

/-- Keeps the secret behind custom properties in place. -/
def applyProperties (owner : OwnerReference) (ns serviceAccountOwner : String)
    (properties : ValueSource) : Dialogue clusterInterface (Except OperatorError Unit) :=
  match secretToApply? owner ns serviceAccountOwner properties with
  | none => return .ok ()
  | some secret => do
    let applied ← named s!"apply secret {secret.ns}/{secret.name}" (applySecret secret)
    return applied.map fun _ => ()

/-- Drops what a successful call says about the object. -/
def done (program : Dialogue clusterInterface (Except OperatorError α)) :
    Dialogue clusterInterface (Except OperatorError Unit) := do
  return (← program).map fun _ => ()

/-- A call of a gateway cycle, made to the API server. -/
def gatewayCall : (call : GatewayCall) →
    Dialogue clusterInterface (Except OperatorError call.Result)
  | .applyProperties owner ns account properties => applyProperties owner ns account properties
  | .readSecret ns name => readSecret ns name
  | .serverVersion => named GatewayCall.serverVersion.context serverVersion
  | .get ns name => getWorkload ns name
  | .create w =>
    done (named (GatewayCall.create w).context (create .statefulSets w.ns w.toDocument))
  | .update w =>
    done (named (GatewayCall.update w).context (replace .statefulSets w.ns w.name w.toDocument))
  | .delete w => named (GatewayCall.delete w).context (delete .statefulSets w.ns w.name)

/-- A program of gateway calls, made to the API server. -/
def gatewayProgram (program : GatewayProgram α) :
    Dialogue clusterInterface (Except GatewayError α) :=
  Dialogue.translate (I := gatewayInterface) gatewayCall (ExceptT.run program)

end Cluster

end FleetOperator
