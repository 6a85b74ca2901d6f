import FleetOperator.Fleet.Basic
import FleetOperator.Json.Record

/-!
# The form of a fleet

What the API server checks a fleet against before the operator ever sees it: for every field what
it may hold, whether it has to be there, and a sentence for readers. In the written form the
members of an object are in the order of their keys.
-/

namespace FleetOperator

/-- Whether a field has to be there. -/
inductive Presence where
  | required
  /-- It may be left out. -/
  | optional
  /-- It may be left out or be null. -/
  | nullable
  /-- The API server puts in a value where it is left out. -/
  | defaulted (value : Json)
deriving Inhabited

mutual

/-- What a field may hold. -/
inductive Shape where
  | text
  | flag
  /-- A whole number of 32 bits. -/
  | count
  /-- One of a few texts. -/
  | choice (names : List String)
  /-- Texts under keys of one's own. -/
  | textMap
  | list (description : String) (item : Shape)
  | record (fields : List Field)

/-- A field of a record. -/
inductive Field where
  | field (name : String) (presence : Presence) (description : String) (shape : Shape)

end

namespace Presence

def isRequired : Presence → Bool
  | .required => true
  | _ => false

def members : Presence → List (String × Json)
  | .nullable => [("nullable", .bool true)]
  | .defaulted value => [("default", value)]
  | _ => []

end Presence

namespace Field

def name : Field → String
  | .field name _ _ _ => name

def isRequired : Field → Bool
  | .field _ presence _ _ => presence.isRequired

end Field

namespace Shape

/-- The object of members, in the order of their keys. -/
def inOrder (members : List (String × Json)) : Json :=
  .obj (SortedMap.ofList members).toList

/-- The names of the fields that have to be there. -/
def requiredMember (fields : List Field) : List (String × Json) :=
  match (fields.filter Field.isRequired).map Field.name with
  | [] => []
  | names => [("required", .arr ((names.mergeSort fun a b => a ≤ b).map .str))]

mutual

/-- What is written about the values of a shape. -/
def members : Shape → List (String × Json)
  | .text => [("type", .str "string")]
  | .flag => [("type", .str "boolean")]
  | .count => [("type", .str "integer"), ("format", .str "int32")]
  | .choice names => [("type", .str "string"), ("enum", .arr (names.map .str))]
  | .textMap => [("type", .str "object"), ("additionalProperties", .obj [("type", .str "string")])]
  | .list description item =>
    [("type", .str "array"), ("items", inOrder (("description", .str description) :: item.members))]
  | .record fields =>
    [("type", .str "object"), ("properties", inOrder (properties fields))] ++ requiredMember fields

/-- What is written about fields, under their names. -/
def properties : List Field → List (String × Json)
  | [] => []
  | .field name presence description shape :: rest =>
    let own := presence.members ++ shape.members
    (name, inOrder (("description", .str description) :: own)) :: properties rest

end

end Shape

namespace FleetSchema

open Presence (required optional nullable defaulted)

def valueSource : Shape := .record [
  .field "value" optional "Inline value" .text,
  .field "valueFrom" optional "Name of a secret in the resource namespace holding the value" .text]

def quantity : Shape := .record [
  .field "cpu" nullable "CPU quantity (e.g., \"100m\", \"1\")" .text,
  .field "memory" nullable "Memory quantity (e.g., \"128Mi\", \"1Gi\")" .text]

def resources : Shape := .record [
  .field "limits" nullable "Resource limits" quantity,
  .field "requests" nullable "Resource requests" quantity]

def toleration : Shape := .record [
  .field "effect" nullable "Taint effect to match" .text,
  .field "key" nullable "Taint key the toleration applies to" .text,
  .field "operator" nullable "`Exists` or `Equal`" .text,
  .field "value" nullable "Taint value the toleration matches" .text]

def secretKey : Shape := .record [
  .field "name" required "Secret name" .text,
  .field "key" required "Key within the secret" .text]

def envVar : Shape := .record [
  .field "name" required "Variable name" .text,
  .field "secretKeyRef" nullable "Secret key the value is read from" secretKey,
  .field "value" nullable "Literal value" .text]

/-- The fields that all gateways of a fleet have. -/
def capabilityFields : List Field := [
  .field "customProperties" nullable "Custom gateway properties, inline or by secret reference"
    valueSource,
  .field "env" optional "Additional environment variables for gateway containers"
    (.list "Environment variable declared on a capability" envVar),
  .field "group" optional "Gateway group the pods register under" .text,
  .field "nodeSelector" optional "Node selector for gateway pods" .textMap,
  .field "replicas" nullable "Number of gateway pods" .count,
  .field "resources" nullable "Resource requests and limits applied to every gateway container"
    resources,
  .field "tolerations" optional "Tolerations for gateway pods" (.list "Pod toleration" toleration)]

def activeGate : Shape := .record (capabilityFields ++ [
  .field "capabilities" optional "Capabilities merged into the gateway StatefulSet, in order"
    (.list "Gateway capabilities that can be enabled on an `AgentFleet`"
      (.choice [CapabilityKind.kubernetesMonitoring.name, CapabilityKind.routing.name,
        CapabilityKind.dataIngest.name])),
  .field "image" optional "Gateway image override" .text,
  .field "tlsSecretName" optional "Secret holding the gateway's TLS server certificate" .text])

def legacyGateway : Shape := .record (capabilityFields ++ [
  .field "enabled" (defaulted (.bool false)) "Enables the capability" .flag,
  .field "serviceAccountName" optional "Service account used by the capability's pods" .text])

def spec : Shape := .record [
  .field "activeGate" (defaulted (.obj [])) "Merged gateway deployment" activeGate,
  .field "apiUrl" required
    "Agent-distribution API URL (e.g., `https://tenant.example.com/api`)" .text,
  .field "customPullSecret" optional
    "Image pull secret; defaults to `\x7bname\x7d-pull-secret`" .text,
  .field "kubernetesMonitoring" nullable
    "Deprecated: standalone Kubernetes monitoring gateway" legacyGateway,
  .field "networkZone" optional "Network zone gateways register in" .text,
  .field "proxy" nullable "Proxy used by gateways and the distribution client" valueSource,
  .field "routing" nullable "Deprecated: standalone routing gateway" legacyGateway,
  .field "skipCertCheck" (defaulted (.bool false))
    "Disable certificate validation against the distribution API" .flag,
  .field "tokens" optional
    "Secret with `apiToken` and `paasToken`; defaults to the resource name" .text]

def status : Shape := .record [
  .field "activeGate" (defaulted (.obj [])) "Gateway status" (.record [
    .field "version" optional "Gateway version currently rolled out" .text]),
  .field "connectionInfo" (defaulted (.obj [])) "Distribution API connection info" (.record [
    .field "tenantUuid" optional "Tenant identifier" .text]),
  .field "kubeSystemUuid" optional
    "UID of the `kube-system` namespace, used as the cluster identity" .text]

/-- The form of a fleet. -/
def fleet : Json := Shape.inOrder ([
  ("title", .str "AgentFleet"),
  ("description", .str "Auto-generated derived type for AgentFleetSpec via `CustomResource`")] ++
  Shape.members (.record [
    .field "spec" required "Desired state of an `AgentFleet`" spec,
    .field "status" nullable "Status of an `AgentFleet`" status]))

end FleetSchema

end FleetOperator
