import FleetOperator.Dialogue
import FleetOperator.Gateway.CustomProperties
import FleetOperator.Gateway.Desired
import FleetOperator.Gateway.Error

/-!
# One gateway cycle

A cycle brings one stateful set closer to what it should be. It sees to the custom properties,
builds the desired object, looks at the live one and then makes at most one change: it creates
what is missing, deletes what has other labels (a later cycle creates it anew), replaces what was
built from something else, and otherwise leaves the object alone.

The calls of a cycle are the data of `GatewayCall`; every answer may be a failure, and only the
question for the version of the cluster goes on after one.
-/

namespace FleetOperator

/-- What a cycle asks its collaborators for. -/
inductive GatewayCall where
  /-- Keep the secret behind custom properties in place. -/
  | applyProperties (owner : OwnerReference) (ns serviceAccountOwner : String)
      (properties : ValueSource)
  | readSecret (ns name : String)
  | serverVersion
  | get (ns name : String)
  | create (workload : StatefulSet)
  | update (workload : StatefulSet)
  | delete (workload : StatefulSet)
deriving Inhabited

/-- What a call gives when it does not fail. -/
def GatewayCall.Result : GatewayCall → Type
  | .applyProperties .. => Unit
  | .readSecret .. => Option SecretData
  | .serverVersion => ServerVersion
  | .get .. => Option StatefulSet
  | .create _ => Unit
  | .update _ => Unit
  | .delete _ => Unit

/-- What a call is called in a failure of it. -/
def GatewayCall.context : GatewayCall → String
  | .applyProperties _ ns _ _ => s!"apply secret {ns}"
  | .readSecret ns name => s!"get secret {ns}/{name}"
  | .serverVersion => "get server version"
  | .get ns name => s!"get statefulset {ns}/{name}"
  | .create workload => s!"create statefulset {workload.ns}/{workload.name}"
  | .update workload => s!"update statefulset {workload.ns}/{workload.name}"
  | .delete workload => s!"delete statefulset {workload.ns}/{workload.name}"

/-- The calls of a cycle, each of which may fail. -/
def gatewayInterface : Interface where
  Call := GatewayCall
  Answer call := Except OperatorError call.Result

/-- A program over the calls of a cycle that may stop with an error. -/
abbrev GatewayProgram := ExceptT GatewayError (Dialogue gatewayInterface)

/-- What a cycle did. -/
inductive Outcome where
  | created
  | deleted
  | updated
  | unchanged
deriving DecidableEq, Repr, Inhabited

/-- Whether a cycle changed the cluster. -/
def Outcome.isChange : Outcome → Bool
  | .unchanged => false
  | _ => true

namespace GatewayProgram

/-- Makes a call and stops where it fails. -/
def ask (call : GatewayCall) : GatewayProgram call.Result :=
  ExceptT.mk (.ask call fun answer => .done (answer.mapError .operator))

/-- Makes a call and takes a value of its own where it fails. -/
def askOr (call : GatewayCall) (default : call.Result) : GatewayProgram call.Result :=
  ExceptT.mk (.ask call fun answer => .done (.ok (answer.toOption.getD default)))

/-- Goes on with a value, or stops with the error that there is instead of it. -/
def ofExcept {ε α : Type} (wrap : ε → GatewayError) (value : Except ε α) : GatewayProgram α :=
  ExceptT.mk (.done (value.mapError wrap))

end GatewayProgram

/-- The reference by which a fleet owns an object; a fleet that lacks a name or a uid of its own
can own nothing. -/
def Fleet.ownerReference? (fleet : Fleet) : Option OwnerReference := do
  return {
    apiVersion := "meridian.dev/v1"
    kind := "AgentFleet"
    name := ← fleet.header.name
    uid := ← fleet.header.uid
    controller := some true
    blockOwnerDeletion := none }

/-- The reference by which a fleet owns the object of the given name. -/
def Fleet.ownerOf (fleet : Fleet) (object : String) : Except GatewayError OwnerReference :=
  match fleet.ownerReference? with
  | some owner => .ok owner
  | none => .error (.ownership object "AgentFleet has no uid")

/-- What a fleet contributes to its workloads. -/
def Fleet.workloadMeta (fleet : Fleet) : Except GatewayError WorkloadMeta :=
  match WorkloadMeta.ofFleet? fleet with
  | some found => .ok found
  | none => .error .missingNamespace

namespace StatefulSet

/-- The object as one of a fleet. -/
def ownedBy (workload : StatefulSet) (owner : OwnerReference) : StatefulSet :=
  { workload with metadata := { workload.metadata with ownerReferences := [owner] } }

/-- The object under the resource version of another one, which it is to replace. -/
def atVersionOf (workload live : StatefulSet) : StatefulSet :=
  { workload with
    metadata := { workload.metadata with resourceVersion := live.metadata.resourceVersion } }

/-- Whether a live object was built from something else than the desired one. An object without a
hash, which some other hand has made, is compared by its specification. -/
def differsFrom (live desired : StatefulSet) : Bool :=
  match live.templateHash?, desired.templateHash? with
  | some built, some wanted => built != wanted
  | _, _ => live.spec != desired.spec

end StatefulSet

open GatewayProgram (ask askOr ofExcept)

/-- The hash of the custom properties that the pods will mount; empty if there are none. -/
def hashCustomProperties (ns : String) : Option ValueSource → GatewayProgram String
  | none => return ""
  | some properties =>
    match properties.reference? with
    | none => return Hash.ofText properties.value
    | some secret => do
      let found ← ask (.readSecret ns secret)
      let bytes ← ofExcept .operator (secretValue ns secret customPropertiesKey found)
      return Hash.ofText (Text.ofBytesLossy bytes)

/-- Sees to the secret behind the custom properties of a gateway, if it declares any. -/
def applyCustomProperties (fleet : Fleet) (base : WorkloadMeta) (gateway : GatewayDescriptor) :
    GatewayProgram Unit :=
  match gateway.customProperties? with
  | none => return ()
  | some properties => do
    let owner ← ofExcept id (fleet.ownerOf (gateway.workloadName base.name))
    ask (.applyProperties owner base.ns gateway.configuration.serviceAccountOwner properties)

/-- Builds what the stateful set of a gateway should be. -/
def buildDesired (adjustments : List Adjustment) (base : WorkloadMeta)
    (gateway : GatewayDescriptor) : GatewayProgram StatefulSet := do
  let hash ← hashCustomProperties base.ns gateway.customProperties?
  let version ← askOr .serverVersion .unknown
  return .desired base gateway hash version adjustments

/-- Makes the one change that brings a live object to the desired one. -/
def settle (desired : StatefulSet) : Option StatefulSet → GatewayProgram Outcome
  | none => do
    ask (.create desired)
    return .created
  | some live =>
    if live.metadata.labels ≠ desired.metadata.labels then do
      ask (.delete live)
      return .deleted
    else if live.differsFrom desired then do
      ask (.update (desired.atVersionOf live))
      return .updated
    else return .unchanged

/-- The cycle of a gateway that should exist. -/
def convergeGateway (adjustments : List Adjustment) (fleet : Fleet) (gateway : GatewayDescriptor) :
    GatewayProgram Outcome := do
  let base ← ofExcept id fleet.workloadMeta
  applyCustomProperties fleet base gateway
  let built ← buildDesired adjustments base gateway
  let owner ← ofExcept id (fleet.ownerOf built.name)
  let desired := built.ownedBy owner
  let live ← ask (.get desired.ns desired.name)
  settle desired live

/-- Whether an object carries the labels of a gateway of a fleet. -/
def StatefulSet.isGatewayOf (workload : StatefulSet) (fleetName moduleName : String) : Bool :=
  workload.metadata.labels.get? labelInstance == some fleetName
    && workload.metadata.labels.get? labelModule == some moduleName

/-- The cycle of a gateway that should not exist. An object of its name that does not carry its
labels is not the operator's, and stays. -/
def retireGateway (fleet : Fleet) (gateway : GatewayDescriptor) : GatewayProgram Outcome := do
  let base ← ofExcept id fleet.workloadMeta
  match ← ask (.get base.ns (gateway.workloadName base.name)) with
  | none => return .unchanged
  | some live =>
    if live.isGatewayOf base.name gateway.moduleName then
      ask (.delete live)
      return .deleted
    else return .unchanged

end FleetOperator
