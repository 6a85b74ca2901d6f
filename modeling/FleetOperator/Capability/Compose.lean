import FleetOperator.Capability.Descriptor
import FleetOperator.Capability.Error
import FleetOperator.Capability.Template

/-!
# Putting a gateway together

The merged gateway has one container for each capability that the fleet lists, in the order of
the list. A capability makes the same container, the same init containers and the same volumes
whichever gateway it runs in; the merged gateway only adds its server certificate. Volumes and
mounts of one name are taken once, the first of them.

The order of the variables of a container is fixed, since a reordering would count as a change of
the workload.
-/

namespace FleetOperator

/-- The key of a secret that holds custom properties. -/
def customPropertiesKey : String := "customProperties"

/-- The file that the custom properties become in a pod. -/
def customPropertiesFile : String := "custom.properties"

/-- The volume that brings the custom properties into a pod. -/
def customPropertiesVolume : String := "custom-properties"

/-- Where a gateway reads its custom properties. -/
def customPropertiesPath : String := "/var/lib/meridian/gateway/config_template/custom.properties"

/-- The key of a secret that holds the address of a proxy. -/
def proxyKey : String := "proxy"

/-- The volume that brings the server certificate into a pod. -/
def tlsVolume : String := "server-certs"

/-- Where a gateway reads its server certificate. -/
def tlsPath : String := "/var/lib/meridian/secrets/tls"

/-- The secret that the operator keeps for custom properties that a fleet writes out. -/
def customPropertiesSecretName (fleetName serviceAccountOwner : String) : String :=
  fleetName ++ "-" ++ serviceAccountOwner ++ "-custom-properties"

/-- The items in which no name comes twice: of several with one name, the first. -/
def firstByName {α : Type} (name : α → String) : List α → List α
  | [] => []
  | item :: rest => item :: (firstByName name rest).filter fun other => name other != name item

/-- What the gateways of a fleet have in common. -/
structure FleetContext where
  name : String
  ns : String
  image : String
  kubeSystemUuid : String
  proxy : Option ValueSource
  networkZone : String
  /-- The secret with the server certificate of the merged gateway, or the empty text. -/
  tlsSecretName : String
  operatorVersion : String
deriving DecidableEq, Repr, Inhabited

namespace FleetContext

/-- A fleet without a namespace has no gateways. -/
def ofFleet (fleet : Fleet) (operatorVersion : String) : Except CapabilityError FleetContext :=
  match fleet.ns? with
  | none => .error (.invalidFleet fleet.name "resource has no namespace")
  | some ns => .ok {
      name := fleet.name
      ns := ns
      image := fleet.gatewayImage
      kubeSystemUuid := fleet.kubeSystemUuid
      proxy := fleet.proxy?
      networkZone := fleet.spec.networkZone
      tlsSecretName := fleet.spec.activeGate.tlsSecretName
      operatorVersion := operatorVersion }

/-- Where gateways have something in common, the fleet says what. -/
theorem eq_of_ofFleet {fleet : Fleet} {operatorVersion : String} {context : FleetContext}
    (h : ofFleet fleet operatorVersion = .ok context) :
    ∃ ns, fleet.ns? = some ns ∧
      context = ⟨fleet.name, ns, fleet.gatewayImage, fleet.kubeSystemUuid, fleet.proxy?,
        fleet.spec.networkZone, fleet.spec.activeGate.tlsSecretName, operatorVersion⟩ := by
  rw [ofFleet] at h
  split at h
  · cases h
  · next ns hns => exact ⟨ns, hns, (Except.ok.inj h).symm⟩

/-- What a gateway reports about how it was deployed. -/
def deploymentMetadata (context : FleetContext) : String :=
  "orchestration_tech=Operator-active_gate;script_version=" ++ context.operatorVersion
    ++ ";orchestrator_id=" ++ context.kubeSystemUuid

def tlsSecret? (context : FleetContext) : Option String :=
  if context.tlsSecretName.isEmpty then none else some context.tlsSecretName

end FleetContext

/-- What a capability brings into a gateway. -/
structure CapabilityInstance where
  container : Container
  initContainers : List Container
  volumes : List Volume
deriving DecidableEq, Inhabited

namespace CapabilityTemplate

/-- The variables of a container: what the operator always sets, what the fleet adds, and what
depends on the fleet's proxy, group and network zone. -/
def environment (capabilityName : String) (context : FleetContext)
    (properties : CapabilityProperties) : List EnvVar :=
  [ .literal "MERIDIAN_CAPABILITIES" capabilityName,
    .literal "MERIDIAN_ID_SEED_NAMESPACE" context.ns,
    .literal "MERIDIAN_ID_SEED_K8S_CLUSTER_ID" context.kubeSystemUuid,
    .literal "MERIDIAN_DEPLOYMENT_METADATA" context.deploymentMetadata ]
  ++ properties.env.map EnvVar.ofSpec
  ++ (match context.proxy with
      | none => []
      | some proxy =>
        match proxy.reference? with
        | some secret => [.fromSecret "MERIDIAN_INTERNAL_PROXY" secret proxyKey]
        | none => [.literal "MERIDIAN_INTERNAL_PROXY" proxy.value])
  ++ (if properties.group.isEmpty then [] else [.literal "MERIDIAN_GROUP" properties.group])
  ++ (if context.networkZone.isEmpty then []
      else [.literal "MERIDIAN_NETWORK_ZONE" context.networkZone])

/-- How the readiness of a container is probed. -/
def readinessProbe (port : UInt16) : Probe where
  httpGet := some ⟨"/rest/health", port, some "HTTPS"⟩
  initialDelaySeconds := some 90
  periodSeconds := some 15
  failureThreshold := some 3

/-- The mounts of a container: the custom properties, those of the template, the certificate. -/
def mounts (template : CapabilityTemplate) (properties : CapabilityProperties)
    (tlsSecret : Option String) : List VolumeMount :=
  (if properties.declaredCustomProperties?.isSome then
    [.file customPropertiesVolume customPropertiesPath customPropertiesFile] else [])
  ++ template.volumeMounts
  ++ (if tlsSecret.isSome then [.whole tlsVolume tlsPath true] else [])

/-- The capability of a template in a gateway of a fleet. -/
def instantiate (template : CapabilityTemplate) (context : FleetContext)
    (properties : CapabilityProperties) (tlsSecret : Option String) : CapabilityInstance where
  container := {
    name := template.moduleName
    image := context.image
    imagePullPolicy := some "Always"
    command := none
    args := none
    workingDir := none
    env := environment template.capabilityName context properties
    resources := properties.resources
    readinessProbe := some (readinessProbe template.readinessPort)
    volumeMounts := template.mounts properties tlsSecret }
  initContainers := template.initContainers.map fun container =>
    { container with image := context.image, resources := properties.resources }
  volumes := template.volumes

end CapabilityTemplate

/-- The volumes of a pod: the custom properties, those of the templates, the certificate. -/
def assembleVolumes (context : FleetContext) (properties : CapabilityProperties)
    (serviceAccountOwner : String) (templateVolumes : List Volume) (tlsSecret : Option String) :
    List Volume :=
  firstByName (·.name)
    ((match properties.declaredCustomProperties? with
      | none => []
      | some source =>
        [.fromSecretKey customPropertiesVolume
          (source.reference?.getD (customPropertiesSecretName context.name serviceAccountOwner))
          customPropertiesKey customPropertiesFile])
    ++ templateVolumes
    ++ (match tlsSecret with
        | none => []
        | some secret => [.fromSecret tlsVolume secret]))

namespace TemplateRegistry

/-- The templates of the listed capabilities. The list fails at its first capability that has no
template, or whose module is among `seen` or comes earlier in the list. -/
def select (registry : TemplateRegistry) (seen : List String) :
    List CapabilityKind → Except CapabilityError (List CapabilityTemplate)
  | [] => .ok []
  | kind :: rest =>
    match registry.get? kind with
    | none => .error (.unknownCapability kind)
    | some template =>
      if template.moduleName ∈ seen then .error (.duplicateModule template.moduleName)
      else do
        let templates ← registry.select (template.moduleName :: seen) rest
        return template :: templates

end TemplateRegistry

namespace GatewayDescriptor

/-- The merged gateway of the given templates. -/
def ofTemplates (context : FleetContext) (properties : CapabilityProperties)
    (templates : List CapabilityTemplate) : GatewayDescriptor :=
  let configuration :=
    templates.foldl (fun merged template => merged.merge template.configuration) .none
  let instances := templates.map fun template =>
    template.instantiate context properties context.tlsSecret?
  { variant := .multi
    moduleName := multiModule
    capabilityName := ",".intercalate (templates.map (·.capabilityName))
    enabled := true
    configuration := configuration
    properties := properties
    containers := instances.map (·.container)
    initContainers := instances.flatMap (·.initContainers)
    volumeMounts := firstByName (·.name) (instances.flatMap (·.container.volumeMounts))
    volumes := assembleVolumes context properties configuration.serviceAccountOwner
      (instances.flatMap (·.volumes)) context.tlsSecret?
    serviceAccountName := none }

/-- The merged gateway of a fleet; it should not exist if the fleet lists no capability. -/
def compose (fleet : Fleet) (registry : TemplateRegistry) (operatorVersion : String) :
    Except CapabilityError GatewayDescriptor :=
  let gateway := fleet.spec.activeGate
  if fleet.wantsMergedGateway then do
    let context ← FleetContext.ofFleet fleet operatorVersion
    let templates ← registry.select [] gateway.capabilities
    return ofTemplates context gateway.properties templates
  else
    return disabled .multi multiModule gateway.properties

end GatewayDescriptor

end FleetOperator
