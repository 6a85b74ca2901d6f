import FleetOperator.Capability.Descriptor
import FleetOperator.Workload.Codec

/-!
# The desired workload

What the stateful set of a gateway should be. Adjustments are made to the built object, in their
order, and the hash is taken after them and put into an annotation last: it covers what the
adjustments did and never itself.
-/

namespace FleetOperator

namespace AnnotationKey

/-- On the pods: the gateway version that is being rolled out. -/
def version : String := "meridian.dev/version"

/-- On the pods: the hash of the custom properties that they mount. -/
def customPropertiesHash : String := "meridian.dev/custom-properties-hash"

/-- On the stateful set: the hash of what it was built as. -/
def templateHash : String := "meridian.dev/template-hash"

end AnnotationKey

/-- The application that gateways belong to. -/
def gatewayAppName : String := "meridian-activegate"

/-- The labels of a gateway, which are also its selector. -/
def workloadLabels (fleetName moduleName : String) : SortedMap String String :=
  .ofList [(labelName, gatewayAppName), (labelManagedBy, fieldManager),
    (labelInstance, fleetName), (labelModule, moduleName)]

/-- What a fleet contributes to each of its workloads. -/
structure WorkloadMeta where
  name : String
  ns : String
  gatewayVersion : String
  pullSecret : String
deriving DecidableEq, Repr, Inhabited

/-- A fleet without a namespace has no workloads. -/
def WorkloadMeta.ofFleet? (fleet : Fleet) : Option WorkloadMeta :=
  fleet.ns?.map fun ns => ⟨fleet.name, ns, fleet.gatewayVersion, fleet.pullSecret⟩

/-- The version of the cluster; an unknown part is the empty text. -/
structure ServerVersion where
  major : String
  minor : String
deriving DecidableEq, Repr, Inhabited

/-- The version of a cluster of which nothing is known. -/
def ServerVersion.unknown : ServerVersion := ⟨"", ""⟩

/-! ## Where pods may run

Clusters before 1.14 may carry the architecture and the system of a node only in labels under
`beta.kubernetes.io`, so on those, and where the version is not known, either labels will do.
-/

/-- The number that a text starts with, if it fits into 32 bits. -/
def leadingNumber? (s : String) : Option Nat :=
  let ds := s.toList.takeWhile Char.isDigit
  let n := ds.foldl (fun n d => n * 10 + (d.toNat - '0'.toNat)) 0
  if ds.isEmpty ∨ UInt32.size ≤ n then none else some n

/-- Whether every node of the cluster has its labels under `kubernetes.io`. -/
def ServerVersion.hasStableNodeLabels (version : ServerVersion) : Bool :=
  match leadingNumber? version.major, leadingNumber? version.minor with
  | some major, some minor => major > 1 || (major == 1 && minor >= 14)
  | _, _ => false

/-- Nodes whose labels under `domain` say that they run Linux on a 64-bit processor. -/
def platformTerm (domain : String) : NodeSelectorTerm :=
  ⟨[⟨domain ++ "/arch", "In", ["amd64"]⟩, ⟨domain ++ "/os", "In", ["linux"]⟩]⟩

/-- The terms of which a node has to meet one. -/
def platformTerms (version : ServerVersion) : List NodeSelectorTerm :=
  platformTerm "kubernetes.io" ::
    if version.hasStableNodeLabels then [] else [platformTerm "beta.kubernetes.io"]

/-- The nodes that gateways run on. -/
def gatewayAffinity (version : ServerVersion) : Affinity :=
  ⟨some ⟨some ⟨platformTerms version⟩⟩⟩

/-! ## The object -/

/-- A change of a built object. -/
abbrev Adjustment := StatefulSet → StatefulSet

namespace StatefulSet

/-- The hash that an object carries of what it was built as. -/
def templateHash? (workload : StatefulSet) : Option String :=
  workload.metadata.annotations.get? AnnotationKey.templateHash

/-- The object before adjustments and without its hash. -/
def plain (fleet : WorkloadMeta) (gateway : GatewayDescriptor) (customPropertiesHash : String)
    (version : ServerVersion) : StatefulSet :=
  let labels := workloadLabels fleet.name gateway.moduleName
  { apiVersion := "apps/v1"
    kind := "StatefulSet"
    metadata := {
      name := gateway.workloadName fleet.name
      ns := fleet.ns
      labels := labels
      annotations := ∅
      ownerReferences := []
      resourceVersion := none }
    spec := {
      replicas := some (gateway.properties.replicas.getD 1)
      podManagementPolicy := some "Parallel"
      selector := ⟨labels⟩
      template := {
        metadata := {
          labels := labels
          annotations := .ofList [(AnnotationKey.version, fleet.gatewayVersion),
            (AnnotationKey.customPropertiesHash, customPropertiesHash)] }
        spec := {
          initContainers := gateway.initContainers
          containers := gateway.containers
          nodeSelector := gateway.properties.nodeSelector
          serviceAccountName := gateway.serviceAccountName
          affinity := some (gatewayAffinity version)
          tolerations := gateway.properties.tolerations
          volumes := gateway.volumes
          imagePullSecrets := [⟨fleet.pullSecret⟩] } } } }

/-- The object with the hash of what it is. -/
def withTemplateHash (workload : StatefulSet) : StatefulSet :=
  { workload with
    metadata := workload.metadata.annotated AnnotationKey.templateHash workload.contentHash }

/-- What the stateful set of a gateway should be. -/
def desired (fleet : WorkloadMeta) (gateway : GatewayDescriptor) (customPropertiesHash : String)
    (version : ServerVersion) (adjustments : List Adjustment) : StatefulSet :=
  (adjustments.foldl (fun workload adjust => adjust workload)
    (plain fleet gateway customPropertiesHash version)).withTemplateHash

end StatefulSet

end FleetOperator
