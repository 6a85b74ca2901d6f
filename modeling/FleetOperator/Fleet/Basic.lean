import FleetOperator.Object.Header
import FleetOperator.Object.Scheduling

/-!
# The agent fleet

One fleet describes the gateways of a cluster and the service that node-local agent binaries come
from. The merged gateway runs every capability that `activeGate` lists; the two sections beside it
ask for a gateway of their own, as fleets did before capabilities could be merged.
-/

namespace FleetOperator

/-- What a gateway can do. -/
inductive CapabilityKind where
  | kubernetesMonitoring
  | routing
  | dataIngest
deriving DecidableEq, Repr, Inhabited

/-- The name of a capability in a fleet. -/
def CapabilityKind.name : CapabilityKind → String
  | .kubernetesMonitoring => "kubernetes-monitoring"
  | .routing => "routing"
  | .dataIngest => "data-ingest"

/-- A value that is written out or lies in a secret. -/
structure ValueSource where
  value : String
  valueFrom : String
deriving DecidableEq, Repr, Inhabited

namespace ValueSource

def isEmpty (source : ValueSource) : Bool := source.value.isEmpty && source.valueFrom.isEmpty

/-- The secret that the value lies in; it goes before a value that is written out. -/
def reference? (source : ValueSource) : Option String :=
  if source.valueFrom.isEmpty then none else some source.valueFrom

end ValueSource

/-- A key in a secret. -/
structure SecretKeyRef where
  name : String
  key : String
deriving DecidableEq, Repr, Inhabited

/-- An environment variable that a fleet adds to its gateways. -/
structure EnvVarSpec where
  name : String
  value : Option String
  secretKeyRef : Option SecretKeyRef
deriving DecidableEq, Repr, Inhabited

/-- What can be set for the merged gateway as well as for a gateway of one capability. -/
structure CapabilityProperties where
  replicas : Option Int32
  group : String
  customProperties : Option ValueSource
  resources : Option ResourceRequirements
  nodeSelector : SortedMap String String
  tolerations : List Toleration
  env : List EnvVarSpec
deriving DecidableEq, Inhabited

/-- The properties of a gateway that has none set. -/
def CapabilityProperties.none : CapabilityProperties :=
  ⟨.none, "", .none, .none, ∅, [], []⟩

/-- The custom properties, where a value or a secret is given for them. -/
def CapabilityProperties.declaredCustomProperties? (properties : CapabilityProperties) :
    Option ValueSource :=
  properties.customProperties.filter (!·.isEmpty)

/-- The merged gateway. -/
structure ActiveGateSpec where
  capabilities : List CapabilityKind
  tlsSecretName : String
  image : String
  properties : CapabilityProperties
deriving DecidableEq, Inhabited

/-- The merged gateway of a fleet that does not ask for one. -/
def ActiveGateSpec.none : ActiveGateSpec := ⟨[], "", "", .none⟩

/-- A gateway of one capability. -/
structure LegacyCapabilitySpec where
  enabled : Bool
  serviceAccountName : String
  properties : CapabilityProperties
deriving DecidableEq, Inhabited

/-- What a fleet asks for. -/
structure FleetSpec where
  apiUrl : String
  tokens : String
  customPullSecret : String
  proxy : Option ValueSource
  networkZone : String
  skipCertCheck : Bool
  activeGate : ActiveGateSpec
  kubernetesMonitoring : Option LegacyCapabilitySpec
  routing : Option LegacyCapabilitySpec
deriving DecidableEq, Inhabited

/-- What has been observed of a fleet. -/
structure FleetStatus where
  kubeSystemUuid : String
  gatewayVersion : String
  tenantUuid : String
deriving DecidableEq, Repr, Inhabited

/-- A fleet as the cluster holds it. -/
structure Fleet where
  header : ObjectHeader
  spec : FleetSpec
  status : Option FleetStatus
deriving DecidableEq, Inhabited

namespace Fleet

def name (fleet : Fleet) : String := fleet.header.nameOrGenerated

def ns? (fleet : Fleet) : Option String := fleet.header.ns

/-- The secret with the tokens of the distribution service; a fleet that names none uses the one
with its own name. -/
def tokensSecret (fleet : Fleet) : String :=
  if fleet.spec.tokens.isEmpty then fleet.name else fleet.spec.tokens

/-- The secret that gateway images are pulled with. -/
def pullSecret (fleet : Fleet) : String :=
  if fleet.spec.customPullSecret.isEmpty then fleet.name ++ "-pull-secret"
  else fleet.spec.customPullSecret

/-- What follows the first `://`. -/
def afterScheme? : List Char → Option (List Char)
  | [] => none
  | ':' :: '/' :: '/' :: rest => some rest
  | _ :: rest => afterScheme? rest

/-- The host of an address, with its port: what stands between the scheme, if there is one, and
the next slash. -/
def hostOf (url : String) : String :=
  String.ofList (((afterScheme? url.toList).getD url.toList).takeWhile (· ≠ '/'))

/-- The image of the gateways, which the host of the distribution service serves unless the fleet
names another. -/
def gatewayImage (fleet : Fleet) : String :=
  if fleet.spec.activeGate.image.isEmpty then
    hostOf fleet.spec.apiUrl ++ "/linux/activegate:latest"
  else fleet.spec.activeGate.image

/-- Whether the merged gateway is asked for. -/
def wantsMergedGateway (fleet : Fleet) : Bool := !fleet.spec.activeGate.capabilities.isEmpty

/-- The proxy, where a value or a secret is given for it. -/
def proxy? (fleet : Fleet) : Option ValueSource := fleet.spec.proxy.filter (!·.isEmpty)

/-- The identity of the cluster, as far as it is known. -/
def kubeSystemUuid (fleet : Fleet) : String := (fleet.status.map (·.kubeSystemUuid)).getD ""

/-- The gateway version that is being rolled out, as far as it is known. -/
def gatewayVersion (fleet : Fleet) : String := (fleet.status.map (·.gatewayVersion)).getD ""

end Fleet

end FleetOperator
