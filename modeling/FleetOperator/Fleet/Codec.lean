import FleetOperator.Fleet.Basic

/-!
# Fleets as JSON

The properties of a gateway stand among the fields of its section, not under a key of their own;
a section can therefore only be written as an object, and what it holds besides its own fields is
read whole, whoever makes use of it. Reading looks at `metadata`, `spec` and
`status` of a fleet and leaves its version and kind aside.
-/

namespace FleetOperator

namespace CapabilityKind

def encode (kind : CapabilityKind) : Json := .str kind.name

/-- A capability by its name. -/
def ofName? (name : String) : Option CapabilityKind :=
  if name = "kubernetes-monitoring" then some .kubernetesMonitoring
  else if name = "routing" then some .routing
  else if name = "data-ingest" then some .dataIngest
  else none

/-- A capability is written as its name, or as an object whose one key is the name. -/
def decode? : Json → Option CapabilityKind
  | .str name => ofName? name
  | .obj [(name, .null)] => ofName? name
  | _ => none

end CapabilityKind

namespace ValueSource

def encode (source : ValueSource) : Json :=
  .ofFields [
    ("value", Json.unlessEmpty source.value),
    ("valueFrom", Json.unlessEmpty source.valueFrom)]

def decode? (value : Json) : Option ValueSource := do
  let fields ← value.fields? ["value", "valueFrom"]
  return {
    value := ← fields.defaulted "value" "" Json.asString?
    valueFrom := ← fields.defaulted "valueFrom" "" Json.asString? }

end ValueSource

namespace SecretKeyRef

def encode (key : SecretKeyRef) : Json :=
  .ofFields [("name", some (.str key.name)), ("key", some (.str key.key))]

def decode? (value : Json) : Option SecretKeyRef := do
  let fields ← value.fields? ["name", "key"]
  return {
    name := ← fields.required "name" Json.asString?
    key := ← fields.required "key" Json.asString? }

end SecretKeyRef

namespace EnvVarSpec

def encode (spec : EnvVarSpec) : Json :=
  .ofFields [
    ("name", some (.str spec.name)),
    ("value", spec.value.map .str),
    ("secretKeyRef", spec.secretKeyRef.map SecretKeyRef.encode)]

def decode? (value : Json) : Option EnvVarSpec := do
  let fields ← value.fields? ["name", "value", "secretKeyRef"]
  return {
    name := ← fields.required "name" Json.asString?
    value := ← fields.optional "value" Json.asString?
    secretKeyRef := ← fields.optional "secretKeyRef" SecretKeyRef.decode? }

end EnvVarSpec

namespace CapabilityProperties

/-- The names of the fields that properties put into a section. -/
def fieldNames : List String :=
  ["replicas", "group", "customProperties", "resources", "nodeSelector", "tolerations", "env"]

/-- The fields that properties put into a section. -/
def toFields (properties : CapabilityProperties) : List (String × Option Json) := [
  ("replicas", properties.replicas.map fun n => .int n.toInt),
  ("group", Json.unlessEmpty properties.group),
  ("customProperties", properties.customProperties.map ValueSource.encode),
  ("resources", properties.resources.map ResourceRequirements.encode),
  ("nodeSelector", Json.mapUnlessEmpty properties.nodeSelector),
  ("tolerations", Json.listUnlessEmpty Toleration.encode properties.tolerations),
  ("env", Json.listUnlessEmpty EnvVarSpec.encode properties.env)]

/-- The properties among the fields of a section. -/
def ofFields? (fields : Json.Fields) : Option CapabilityProperties := do
  return {
    replicas := ← fields.optional "replicas" Json.asInt32?
    group := ← fields.defaulted "group" "" Json.asString?
    customProperties := ← fields.optional "customProperties" ValueSource.decode?
    resources := ← fields.optional "resources" ResourceRequirements.decode?
    nodeSelector := ← fields.defaulted "nodeSelector" ∅ Json.asStringMap?
    tolerations := ← fields.defaulted "tolerations" [] (Json.asListOf? Toleration.decode?)
    env := ← fields.defaulted "env" [] (Json.asListOf? EnvVarSpec.decode?) }

end CapabilityProperties

namespace ActiveGateSpec

def encode (gateway : ActiveGateSpec) : Json :=
  .ofFields ([
    ("capabilities", Json.listUnlessEmpty CapabilityKind.encode gateway.capabilities),
    ("tlsSecretName", Json.unlessEmpty gateway.tlsSecretName),
    ("image", Json.unlessEmpty gateway.image)] ++ gateway.properties.toFields)

def decode? (value : Json) : Option ActiveGateSpec := do
  let ownNames := ["capabilities", "tlsSecretName", "image"]
  guard (value.othersReadable ownNames)
  let fields ← value.fieldsByName? (ownNames ++ CapabilityProperties.fieldNames)
  return {
    capabilities := ← fields.defaulted "capabilities" [] (Json.asListOf? CapabilityKind.decode?)
    tlsSecretName := ← fields.defaulted "tlsSecretName" "" Json.asString?
    image := ← fields.defaulted "image" "" Json.asString?
    properties := ← CapabilityProperties.ofFields? fields }

end ActiveGateSpec

namespace LegacyCapabilitySpec

def encode (gateway : LegacyCapabilitySpec) : Json :=
  .ofFields ([
    ("enabled", some (.bool gateway.enabled)),
    ("serviceAccountName", Json.unlessEmpty gateway.serviceAccountName)] ++
    gateway.properties.toFields)

def decode? (value : Json) : Option LegacyCapabilitySpec := do
  let ownNames := ["enabled", "serviceAccountName"]
  guard (value.othersReadable ownNames)
  let fields ← value.fieldsByName? (ownNames ++ CapabilityProperties.fieldNames)
  return {
    enabled := ← fields.defaulted "enabled" false Json.asBool?
    serviceAccountName := ← fields.defaulted "serviceAccountName" "" Json.asString?
    properties := ← CapabilityProperties.ofFields? fields }

end LegacyCapabilitySpec

namespace FleetSpec

def encode (spec : FleetSpec) : Json :=
  .ofFields [
    ("apiUrl", some (.str spec.apiUrl)),
    ("tokens", Json.unlessEmpty spec.tokens),
    ("customPullSecret", Json.unlessEmpty spec.customPullSecret),
    ("proxy", spec.proxy.map ValueSource.encode),
    ("networkZone", Json.unlessEmpty spec.networkZone),
    ("skipCertCheck", some (.bool spec.skipCertCheck)),
    ("activeGate", some spec.activeGate.encode),
    ("kubernetesMonitoring", spec.kubernetesMonitoring.map LegacyCapabilitySpec.encode),
    ("routing", spec.routing.map LegacyCapabilitySpec.encode)]

def decode? (value : Json) : Option FleetSpec := do
  let fields ← value.fields?
    ["apiUrl", "tokens", "customPullSecret", "proxy", "networkZone", "skipCertCheck",
      "activeGate", "kubernetesMonitoring", "routing"]
  return {
    apiUrl := ← fields.required "apiUrl" Json.asString?
    tokens := ← fields.defaulted "tokens" "" Json.asString?
    customPullSecret := ← fields.defaulted "customPullSecret" "" Json.asString?
    proxy := ← fields.optional "proxy" ValueSource.decode?
    networkZone := ← fields.defaulted "networkZone" "" Json.asString?
    skipCertCheck := ← fields.defaulted "skipCertCheck" false Json.asBool?
    activeGate := ← fields.defaulted "activeGate" .none ActiveGateSpec.decode?
    kubernetesMonitoring := ← fields.optional "kubernetesMonitoring" LegacyCapabilitySpec.decode?
    routing := ← fields.optional "routing" LegacyCapabilitySpec.decode? }

end FleetSpec

namespace FleetStatus

/-- A section of the status that holds one text. -/
def encodeSection (name value : String) : Json := .ofFields [(name, Json.unlessEmpty value)]

def decodeSection? (name : String) (value : Json) : Option String := do
  let fields ← value.fields? [name]
  fields.defaulted name "" Json.asString?

def encode (status : FleetStatus) : Json :=
  .ofFields [
    ("kubeSystemUuid", Json.unlessEmpty status.kubeSystemUuid),
    ("activeGate", some (encodeSection "version" status.gatewayVersion)),
    ("connectionInfo", some (encodeSection "tenantUuid" status.tenantUuid))]

def decode? (value : Json) : Option FleetStatus := do
  let fields ← value.fields? ["kubeSystemUuid", "activeGate", "connectionInfo"]
  return {
    kubeSystemUuid := ← fields.defaulted "kubeSystemUuid" "" Json.asString?
    gatewayVersion := ← fields.defaulted "activeGate" "" (decodeSection? "version")
    tenantUuid := ← fields.defaulted "connectionInfo" "" (decodeSection? "tenantUuid") }

end FleetStatus

namespace Fleet

def decode? (value : Json) : Option Fleet := do
  let fields ← match value with
    | .arr [_, _, _] => value.fields? ["metadata", "spec", "status"]
    | _ => value.fieldsByName? ["metadata", "spec", "status"]
  return {
    header := ← fields.required "metadata" ObjectHeader.decode?
    spec := ← fields.required "spec" FleetSpec.decode?
    status := ← fields.optional "status" FleetStatus.decode? }

end Fleet

end FleetOperator
