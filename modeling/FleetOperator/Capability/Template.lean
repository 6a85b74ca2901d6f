import FleetOperator.Capability.Configuration
import FleetOperator.Workload.Basic

/-!
# Capability templates

A template holds what is fixed about a capability, whatever the fleet. Its init containers still
lack an image and resources, which they get from the fleet. A registry knows at most one template
for each capability.
-/

namespace FleetOperator

structure CapabilityTemplate where
  /-- The name of the module, which is also the name of its container. -/
  moduleName : String
  /-- What the gateway calls the capability. -/
  capabilityName : String
  /-- The port on which the gateway answers whether it is ready. -/
  readinessPort : UInt16
  configuration : Configuration
  initContainers : List Container
  volumeMounts : List VolumeMount
  volumes : List Volume
deriving DecidableEq, Inhabited

namespace CapabilityTemplate

/-- The template of a capability that has nothing to it. -/
def blank : CapabilityTemplate := ⟨"", "", 0, .none, [], [], []⟩

/-- The volume that an init container fills with the certificates of the cluster. -/
def trustStoreVolume : String := "truststore-volume"

/-- Monitoring of the cluster itself. The certificates of the cluster are loaded into a trust
store before the gateway starts. -/
def kubernetesMonitoring : CapabilityTemplate where
  moduleName := "kubemon"
  capabilityName := "kubernetes_monitoring"
  readinessPort := 9999
  configuration := { Configuration.none with serviceAccountOwner := "kubernetes-monitoring" }
  initContainers := [{
    name := "certificate-loader"
    image := ""
    imagePullPolicy := some "Always"
    command := some ["/bin/bash"]
    args := some ["-c", "/opt/meridian/gateway/k8scrt2jks.sh"]
    workingDir := some "/var/lib/meridian/gateway"
    env := []
    resources := none
    readinessProbe := none
    volumeMounts := [.whole trustStoreVolume "/var/lib/meridian/gateway/ssl" false] }]
  volumeMounts := [.file trustStoreVolume
    "/opt/meridian/gateway/jre/lib/security/cacerts" "k8s-local.jks"]
  volumes := [.fromEmptyDir trustStoreVolume]

/-- A capability that agents reach over the network. -/
def reachable (moduleName capabilityName : String) (readinessPort : UInt16) :
    CapabilityTemplate where
  moduleName := moduleName
  capabilityName := capabilityName
  readinessPort := readinessPort
  configuration := ⟨true, true, true, true, ""⟩
  initContainers := []
  volumeMounts := []
  volumes := []

/-- Routing of agent traffic. -/
def routing : CapabilityTemplate := reachable "routing" "MSGrouter" 9990

/-- Ingest of metrics. -/
def dataIngest : CapabilityTemplate := reachable "data-ingest" "metrics_ingest" 9980

/-- The built-in template of a capability. -/
def builtin : CapabilityKind → CapabilityTemplate
  | .kubernetesMonitoring => kubernetesMonitoring
  | .routing => routing
  | .dataIngest => dataIngest

end CapabilityTemplate

/-- The templates that gateways are put together from. -/
structure TemplateRegistry where
  kubernetesMonitoring : Option CapabilityTemplate
  routing : Option CapabilityTemplate
  dataIngest : Option CapabilityTemplate
deriving DecidableEq, Inhabited

namespace TemplateRegistry

/-- The registry without templates. -/
def empty : TemplateRegistry := ⟨none, none, none⟩

/-- The registry of the built-in templates. -/
def builtin : TemplateRegistry :=
  ⟨some .kubernetesMonitoring, some .routing, some .dataIngest⟩

/-- The template of a capability. -/
def get? (registry : TemplateRegistry) : CapabilityKind → Option CapabilityTemplate
  | .kubernetesMonitoring => registry.kubernetesMonitoring
  | .routing => registry.routing
  | .dataIngest => registry.dataIngest

/-- The registry with a template for a capability, in place of an older one. -/
def insert (registry : TemplateRegistry) (kind : CapabilityKind) (template : CapabilityTemplate) :
    TemplateRegistry :=
  match kind with
  | .kubernetesMonitoring => { registry with kubernetesMonitoring := some template }
  | .routing => { registry with routing := some template }
  | .dataIngest => { registry with dataIngest := some template }

/-- The capabilities that have a template. -/
def kinds (registry : TemplateRegistry) : List CapabilityKind :=
  [.kubernetesMonitoring, .routing, .dataIngest].filter fun kind => (registry.get? kind).isSome

@[simp]
theorem get?_insert (registry : TemplateRegistry) (kind other : CapabilityKind)
    (template : CapabilityTemplate) :
    (registry.insert kind template).get? other =
      if other = kind then some template else registry.get? other := by
  cases kind <;> cases other <;> rfl

end TemplateRegistry

end FleetOperator
