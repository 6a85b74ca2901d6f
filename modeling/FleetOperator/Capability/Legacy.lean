import FleetOperator.Capability.Compose

/-!
# Gateways of one capability

Before capabilities could be merged, a fleet had a gateway for each. Such a gateway is put
together from the same parts as an entry of the merged one, so that a fleet which moves its
capability over keeps its containers.
-/

namespace FleetOperator

/-- The service account of a gateway of one capability: the one that is named, else one after the
owner, else one for all. -/
def serviceAccountName (explicit owner : String) : String :=
  if !explicit.isEmpty then explicit
  else if !owner.isEmpty then "meridian-" ++ owner
  else "meridian-activegate"

namespace GatewayDescriptor

/-- The gateway of one capability, as a section of the fleet asks for it. -/
def legacy (fleet : Fleet) (registry : TemplateRegistry) (operatorVersion : String)
    (kind : CapabilityKind) (variant : GatewayVariant) (asked : Option LegacyCapabilitySpec) :
    Except CapabilityError GatewayDescriptor :=
  match registry.get? kind with
  | none => .error (.unknownCapability kind)
  | some template =>
    match asked.filter (·.enabled) with
    | none =>
      .ok (disabled variant template.moduleName ((asked.map (·.properties)).getD .none))
    | some spec => do
      let context ← FleetContext.ofFleet fleet operatorVersion
      let owner := template.configuration.serviceAccountOwner
      let built := template.instantiate context spec.properties none
      return {
        variant := variant
        moduleName := template.moduleName
        capabilityName := template.capabilityName
        enabled := true
        configuration := template.configuration
        properties := spec.properties
        containers := [built.container]
        initContainers := built.initContainers
        volumeMounts := built.container.volumeMounts
        volumes := assembleVolumes context spec.properties owner built.volumes none
        serviceAccountName :=
          some (FleetOperator.serviceAccountName spec.serviceAccountName owner) }

/-- The gateway that only monitors the cluster. -/
def legacyKubernetesMonitoring (fleet : Fleet) (registry : TemplateRegistry)
    (operatorVersion : String) : Except CapabilityError GatewayDescriptor :=
  legacy fleet registry operatorVersion .kubernetesMonitoring .legacyKubernetesMonitoring
    fleet.spec.kubernetesMonitoring

/-- The gateway that only routes. -/
def legacyRouting (fleet : Fleet) (registry : TemplateRegistry) (operatorVersion : String) :
    Except CapabilityError GatewayDescriptor :=
  legacy fleet registry operatorVersion .routing .legacyRouting fleet.spec.routing

/-- The three gateways of a fleet, or the first reason why one of them cannot be put together. -/
def all (fleet : Fleet) (registry : TemplateRegistry) (operatorVersion : String) :
    Except CapabilityError (List GatewayDescriptor) := do
  let multi ← compose fleet registry operatorVersion
  let kubemon ← legacyKubernetesMonitoring fleet registry operatorVersion
  let routing ← legacyRouting fleet registry operatorVersion
  return [multi, kubemon, routing]

end GatewayDescriptor

end FleetOperator
