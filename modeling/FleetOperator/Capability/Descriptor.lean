import FleetOperator.Capability.Configuration
import FleetOperator.Workload.Basic

/-!
# Gateway descriptors

A descriptor is a gateway that is ready to be made a stateful set: its containers are complete,
and its volumes are all volumes of the pod.
-/

namespace FleetOperator

/-- Which gateway of a fleet a descriptor is for. -/
inductive GatewayVariant where
  /-- The merged gateway. -/
  | multi
  | legacyKubernetesMonitoring
  | legacyRouting
deriving DecidableEq, Repr, Inhabited

/-- Whether a gateway stands for one capability only. -/
def GatewayVariant.isLegacy : GatewayVariant → Bool
  | .multi => false
  | .legacyKubernetesMonitoring => true
  | .legacyRouting => true

structure GatewayDescriptor where
  variant : GatewayVariant
  moduleName : String
  /-- What the gateway calls its capabilities. -/
  capabilityName : String
  /-- Whether the gateway should exist. -/
  enabled : Bool
  configuration : Configuration
  properties : CapabilityProperties
  containers : List Container
  initContainers : List Container
  /-- The mounts of the containers; in the merged gateway each name counts once. -/
  volumeMounts : List VolumeMount
  /-- The volumes of the pod, each name once. -/
  volumes : List Volume
  serviceAccountName : Option String
deriving DecidableEq, Inhabited

namespace GatewayDescriptor

/-- The module name of the merged gateway. -/
def multiModule : String := "multi"

/-- A gateway that should not exist. -/
def disabled (variant : GatewayVariant) (moduleName : String)
    (properties : CapabilityProperties) : GatewayDescriptor where
  variant := variant
  moduleName := moduleName
  capabilityName := ""
  enabled := false
  configuration := .none
  properties := properties
  containers := []
  initContainers := []
  volumeMounts := []
  volumes := []
  serviceAccountName := none

/-- The name of the stateful set for a fleet of the given name. -/
def workloadName (descriptor : GatewayDescriptor) (fleetName : String) : String :=
  fleetName ++ "-" ++ descriptor.moduleName

def customProperties? (descriptor : GatewayDescriptor) : Option ValueSource :=
  descriptor.properties.declaredCustomProperties?

end GatewayDescriptor

end FleetOperator
