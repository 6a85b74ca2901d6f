import FleetOperator.Proofs.Capability.Merging
import FleetOperator.Proofs.Gateway.MountedSecret

/-!
# Mounts and the volumes they name

A pod whose container mounts a volume that the pod does not have is never
scheduled. The mounts of a container come from three places, and so do the
volumes of the pod: custom properties, templates, certificate. A mount of the
first or the last kind is made exactly where its volume is
(`name_of_mem_mounts`); a mount of a template names a volume of the same
template, where the templates are made that way. Volumes are then taken once by
name, which loses volumes but no names (`mem_map_firstByName`), so every mount
keeps its one volume (`every_mount_names_one_volume`).

What stands behind a name is another matter. Custom properties come first and
are what is mounted under their name. The certificate comes last and gives way
to a volume of a template (`templates_take_both_names`).
-/

namespace FleetOperator

/-! ## Templates that mount what they bring -/

/-- A template whose containers mount no volume that it does not bring. -/
structure CapabilityTemplate.SelfContained (template : CapabilityTemplate) : Prop where
  mounts : ∀ mount ∈ template.volumeMounts, mount.name ∈ template.volumes.map (·.name)
  initMounts : ∀ container ∈ template.initContainers, ∀ mount ∈ container.volumeMounts,
    mount.name ∈ template.volumes.map (·.name)

namespace TemplateRegistry

/-- A registry of such templates. -/
def SelfContained (registry : TemplateRegistry) : Prop :=
  ∀ kind template, registry.get? kind = some template → template.SelfContained

/-- The volumes that the listed capabilities bring, in the order of the list. -/
def volumesOf (registry : TemplateRegistry) (kinds : List CapabilityKind) : List Volume :=
  (registry.templatesOf kinds).flatMap (·.volumes)

theorem selfContained_builtin : builtin.SelfContained := by
  intro kind template hget
  cases kind with
  | kubernetesMonitoring =>
      obtain rfl := Option.some.inj hget
      constructor <;> decide
  | routing =>
      obtain rfl := Option.some.inj hget
      constructor <;> decide
  | dataIngest =>
      obtain rfl := Option.some.inj hget
      constructor <;> decide

theorem SelfContained.insert {registry : TemplateRegistry} {kind : CapabilityKind}
    {template : CapabilityTemplate} (h : registry.SelfContained)
    (htemplate : template.SelfContained) : (registry.insert kind template).SelfContained := by
  intro other found hfound
  rw [get?_insert] at hfound
  split at hfound
  · obtain rfl := Option.some.inj hfound
    exact htemplate
  · exact h other found hfound

theorem SelfContained.of_mem_templatesOf {registry : TemplateRegistry}
    {kinds : List CapabilityKind} {template : CapabilityTemplate} (h : registry.SelfContained)
    (hmem : template ∈ registry.templatesOf kinds) : template.SelfContained := by
  obtain ⟨kind, -, hget⟩ := List.mem_filterMap.1 hmem
  exact h kind template hget

end TemplateRegistry

/-! ## What a fleet asks of a gateway -/

namespace Fleet

/-- The properties that a gateway of a fleet is to have. -/
def propertiesOf (fleet : Fleet) : GatewayVariant → CapabilityProperties
  | .multi => fleet.spec.activeGate.properties
  | variant => ((fleet.legacySection? variant).map (·.properties)).getD .none

/-- The secret with the certificate that a gateway of a fleet is to have. -/
def certificateOf (fleet : Fleet) (variant : GatewayVariant) : Option String :=
  if variant.isLegacy || fleet.spec.activeGate.tlsSecretName.isEmpty then none
  else some fleet.spec.activeGate.tlsSecretName

end Fleet

namespace GatewayDescriptor

variable {fleet : Fleet} {registry : TemplateRegistry} {operatorVersion : String}
  {variant : GatewayVariant} {gateway : GatewayDescriptor} {context : FleetContext}
  {templates : List CapabilityTemplate}

theorem asked_compose (h : compose fleet registry operatorVersion = .ok gateway) :
    gateway.variant = .multi ∧ gateway.properties = fleet.spec.activeGate.properties := by
  by_cases hwanted : fleet.spec.activeGate.capabilities = []
  · have hnone : ¬ fleet.wantsMergedGateway = true := by simp [Fleet.wantsMergedGateway, hwanted]
    rw [compose, if_neg hnone] at h
    obtain rfl := Except.ok.inj h
    exact ⟨rfl, rfl⟩
  · obtain ⟨context, templates, -, -, rfl⟩ := exists_of_compose_eq_ok hwanted h
    exact ⟨rfl, rfl⟩

theorem asked_legacy {kind : CapabilityKind} {asked : Option LegacyCapabilitySpec}
    (h : legacy fleet registry operatorVersion kind variant asked = .ok gateway) :
    gateway.variant = variant ∧
      gateway.properties = (asked.map (·.properties)).getD .none := by
  rw [legacy] at h
  cases hget : registry.get? kind with
  | none => simp [hget] at h
  | some template =>
      rw [hget] at h
      dsimp only at h
      split at h
      · obtain rfl := Except.ok.inj h
        exact ⟨rfl, rfl⟩
      · next spec hasked =>
          obtain ⟨context, -, h⟩ := Except.exists_of_bind_eq_ok h
          obtain rfl := Except.ok.inj h
          obtain ⟨rfl, -⟩ := Option.filter_eq_some_iff.1 hasked
          exact ⟨rfl, rfl⟩

/-- A gateway is the one that was asked for and has the properties that were asked for. -/
theorem asked_ofVariant (h : ofVariant fleet registry operatorVersion variant = .ok gateway) :
    gateway.variant = variant ∧ gateway.properties = fleet.propertiesOf variant := by
  cases variant with
  | multi => exact asked_compose h
  | legacyKubernetesMonitoring => exact asked_legacy h
  | legacyRouting => exact asked_legacy h

theorem certificate?_eq (hcontext : FleetContext.ofFleet fleet operatorVersion = .ok context)
    (hvariant : gateway.variant = variant) :
    gateway.certificate? context = fleet.certificateOf variant := by
  obtain ⟨ns, -, rfl⟩ := FleetContext.eq_of_ofFleet hcontext
  rw [certificate?, hvariant, Fleet.certificateOf, FleetContext.tlsSecret?]
  cases variant.isLegacy <;> simp

end GatewayDescriptor

/-! ## Mounts -/

/-- Containers whose mounts each name exactly one of the volumes, with no name used twice. -/
structure WellMounted (containers initContainers : List Container) (volumes : List Volume) :
    Prop where
  volumes_nodup : (volumes.map (·.name)).Nodup
  containers_nodup : (containers.map (·.name)).Nodup
  mounts : ∀ container ∈ containers ++ initContainers, ∀ mount ∈ container.volumeMounts,
    (volumes.map (·.name)).count mount.name = 1

theorem mem_commonVolumes_iff {properties : CapabilityProperties} {tlsSecret : Option String}
    {name : String} :
    name ∈ commonVolumes properties tlsSecret ↔
      name = customPropertiesVolume ∧ properties.declaredCustomProperties?.isSome = true ∨
        name = tlsVolume ∧ tlsSecret.isSome = true := by
  rw [commonVolumes]
  cases properties.declaredCustomProperties? <;> cases tlsSecret <;> simp

namespace CapabilityTemplate

variable {template : CapabilityTemplate} {context : FleetContext}
  {properties : CapabilityProperties} {tlsSecret : Option String} {mount : VolumeMount}

/-- A mount of a container names a volume that every pod of its kind has, or one of its own
template. -/
theorem SelfContained.name_of_mem_mounts (h : template.SelfContained)
    (hmem : mount ∈ template.mounts properties tlsSecret) :
    mount.name ∈ commonVolumes properties tlsSecret ∨
      mount.name ∈ template.volumes.map (·.name) := by
  rw [CapabilityTemplate.mounts, List.mem_append, List.mem_append] at hmem
  rcases hmem with (hmem | hmem) | hmem
  · split at hmem
    · next hdeclared =>
        obtain rfl := List.mem_singleton.1 hmem
        exact .inl (mem_commonVolumes_iff.2 (.inl ⟨rfl, hdeclared⟩))
    · cases hmem
  · exact .inr (h.mounts mount hmem)
  · split at hmem
    · next hcertificate =>
        obtain rfl := List.mem_singleton.1 hmem
        exact .inl (mem_commonVolumes_iff.2 (.inr ⟨rfl, hcertificate⟩))
    · cases hmem

theorem SelfContained.name_of_mem_initMounts (h : template.SelfContained) {container : Container}
    (hcontainer : container ∈ (template.instantiate context properties tlsSecret).initContainers)
    (hmem : mount ∈ container.volumeMounts) : mount.name ∈ template.volumes.map (·.name) := by
  obtain ⟨original, horiginal, rfl⟩ := List.mem_map.1 hcontainer
  exact h.initMounts original horiginal mount hmem

end CapabilityTemplate

namespace GatewayDescriptor

variable {fleet : Fleet} {registry : TemplateRegistry} {operatorVersion : String}
  {variant : GatewayVariant} {gateway : GatewayDescriptor} {context : FleetContext}
  {templates : List CapabilityTemplate}

theorem ComposedFrom.mem_map_volumes (hcomposed : gateway.ComposedFrom registry context templates)
    {name : String} :
    name ∈ gateway.volumes.map (·.name) ↔
      name ∈ commonVolumes gateway.properties (gateway.certificate? context) ∨
        name ∈ (templates.flatMap (·.volumes)).map (·.name) := by
  rw [hcomposed.volumes, mem_map_assembleVolumes]

theorem ComposedFrom.wellMounted (hcomposed : gateway.ComposedFrom registry context templates)
    (htemplates : ∀ template ∈ templates, template.SelfContained) :
    WellMounted gateway.containers gateway.initContainers gateway.volumes := by
  have hnodup : (gateway.volumes.map (·.name)).Nodup := by
    rw [hcomposed.volumes]
    exact nodup_map_assembleVolumes _ _ _ _ _
  have hbrought {template : CapabilityTemplate} {name : String} (hmem : template ∈ templates)
      (hname : name ∈ template.volumes.map (·.name)) :
      name ∈ (templates.flatMap (·.volumes)).map (·.name) := by
    obtain ⟨volume, hvolume, hsame⟩ := List.mem_map.1 hname
    exact List.mem_map.2 ⟨volume, List.mem_flatMap.2 ⟨template, hmem, hvolume⟩, hsame⟩
  refine ⟨hnodup, ?_, fun container hcontainer mount hmount => ?_⟩
  · rw [hcomposed.containers, List.map_map]
    exact hcomposed.modules_nodup
  · rw [hnodup.count, if_pos]
    rw [hcomposed.mem_map_volumes]
    rw [hcomposed.containers, hcomposed.initContainers, List.mem_append] at hcontainer
    rcases hcontainer with hcontainer | hcontainer
    · obtain ⟨template, htemplate, rfl⟩ := List.mem_map.1 hcontainer
      exact ((htemplates template htemplate).name_of_mem_mounts hmount).imp_right
        (hbrought htemplate)
    · obtain ⟨template, htemplate, hinit⟩ := List.mem_flatMap.1 hcontainer
      exact .inr (hbrought htemplate
        ((htemplates template htemplate).name_of_mem_initMounts hinit hmount))

end GatewayDescriptor

/-! ## What stands behind a name -/

/-- Under the name of the certificate a pod has the first volume of that name that a template
brings, and the certificate only where none does. -/
theorem filter_assembleVolumes_tlsVolume (context : FleetContext)
    (properties : CapabilityProperties) (owner : String) (volumes : List Volume)
    (secret : String) :
    (assembleVolumes context properties owner volumes (some secret)).filter
        (·.name == tlsVolume) =
      [(volumes.find? (·.name == tlsVolume)).getD (.fromSecret tlsVolume secret)] := by
  have hfind (first : List Volume) (hfirst : first.find? (·.name == tlsVolume) = none) :
      ((first ++ volumes ++ [Volume.fromSecret tlsVolume secret]).find? fun volume =>
        volume.name == tlsVolume).toList =
        [(volumes.find? (·.name == tlsVolume)).getD (.fromSecret tlsVolume secret)] := by
    rw [List.find?_append, List.find?_append, hfirst, Option.none_or]
    cases volumes.find? (·.name == tlsVolume) <;> rfl
  rw [assembleVolumes.eq_def, filter_firstByName]
  cases properties.declaredCustomProperties? with
  | none => exact hfind [] rfl
  | some source => exact hfind [propertiesVolume (source.secretName context.name owner)] rfl

/-- Let the templates of a registry mount only volumes that they bring, as the built-in ones do.
Each mount of a gateway that should exist then names one volume of it, volumes have different
names, and so have containers; its pods have the same containers and volumes.

A gateway has the volumes, by name, that its templates bring, that of custom properties if they
are declared, and that of the certificate if there is one. Declared custom properties are what
stands behind their name. A certificate is, unless a template brings a volume under its name. -/
theorem every_mount_names_one_volume {fleet : Fleet} {registry : TemplateRegistry}
    {operatorVersion : String} {variant : GatewayVariant} {gateway : GatewayDescriptor}
    (hregistry : registry.SelfContained)
    (hgateway : GatewayDescriptor.ofVariant fleet registry operatorVersion variant = .ok gateway)
    (henabled : gateway.enabled = true) :
    let brought := registry.volumesOf (fleet.capabilitiesOf variant)
    let properties := fleet.propertiesOf variant
    TemplateRegistry.builtin.SelfContained ∧
    WellMounted gateway.containers gateway.initContainers gateway.volumes ∧
    (∀ name, name ∈ gateway.volumes.map (·.name) ↔
      name ∈ brought.map (·.name) ∨
        name = customPropertiesVolume ∧ properties.declaredCustomProperties?.isSome = true ∨
        name = tlsVolume ∧ (fleet.certificateOf variant).isSome = true) ∧
    (∀ source, properties.declaredCustomProperties? = some source →
      gateway.volumes.filter (·.name == customPropertiesVolume) =
        [propertiesVolume (source.secretName fleet.name
          gateway.configuration.serviceAccountOwner)]) ∧
    (∀ secret, fleet.certificateOf variant = some secret →
      gateway.volumes.filter (·.name == tlsVolume) =
        [(brought.find? (·.name == tlsVolume)).getD (.fromSecret tlsVolume secret)]) ∧
    ∀ base hash version,
      let pod := (StatefulSet.desired base gateway hash version []).spec.template.spec
      WellMounted pod.containers pod.initContainers pod.volumes := by
  intro brought properties
  obtain ⟨context, hcontext, hcomposed⟩ :=
    GatewayDescriptor.exists_composedFrom_of_ofVariant hgateway henabled
  obtain ⟨hvariant, hproperties⟩ := GatewayDescriptor.asked_ofVariant hgateway
  have hcertificate := GatewayDescriptor.certificate?_eq hcontext hvariant
  have hmounted := hcomposed.wellMounted fun template => hregistry.of_mem_templatesOf
  have hvolumes := hcomposed.volumes
  rw [hproperties, hcertificate] at hvolumes
  refine ⟨TemplateRegistry.selfContained_builtin, hmounted, fun name => ?_,
    fun source hsource => ?_, fun secret hsecret => ?_, fun base hash version => hmounted⟩
  · rw [hcomposed.mem_map_volumes, hproperties, hcertificate, mem_commonVolumes_iff, or_comm]
    rfl
  · rw [hvolumes, ← name_ofFleet hcontext]
    exact filter_assembleVolumes hsource context _ _ _
  · rw [hvolumes, hsecret]
    exact filter_assembleVolumes_tlsVolume context _ _ _ secret

/-- The merged gateway with all three capabilities, of which one brings a volume and an init
container that mounts it. -/
theorem every_mount_of_monitoringGate :
    ∃ gateway, GatewayDescriptor.ofVariant (GatewayDescriptor.monitoredFleet.withActiveGate
        GatewayDescriptor.monitoringGate) .builtin "1.0.0" .multi = .ok gateway ∧
      gateway.enabled = true ∧ gateway.initContainers.length = 1 ∧
      gateway.volumes.map (·.name) =
        [customPropertiesVolume, CapabilityTemplate.trustStoreVolume, tlsVolume] ∧
      WellMounted gateway.containers gateway.initContainers gateway.volumes := by
  obtain ⟨gateway, hgateway, henabled, hinit, hvolumes⟩ : ∃ gateway,
      GatewayDescriptor.ofVariant (GatewayDescriptor.monitoredFleet.withActiveGate
        GatewayDescriptor.monitoringGate) .builtin "1.0.0" .multi = .ok gateway ∧
      gateway.enabled = true ∧ gateway.initContainers.length = 1 ∧
      gateway.volumes.map (·.name) =
        [customPropertiesVolume, CapabilityTemplate.trustStoreVolume, tlsVolume] :=
    ⟨_, rfl, rfl, rfl, rfl⟩
  obtain ⟨-, hmounted, -⟩ :=
    every_mount_names_one_volume TemplateRegistry.selfContained_builtin hgateway henabled
  exact ⟨gateway, hgateway, henabled, hinit, hvolumes, hmounted⟩

/-- The built-in templates, of which one brings volumes of its own under both names that
gateways have for theirs. -/
def shadowingRegistry : TemplateRegistry :=
  TemplateRegistry.builtin.insert .dataIngest
    { CapabilityTemplate.dataIngest with
      volumes := [.fromEmptyDir customPropertiesVolume, .fromEmptyDir tlsVolume] }

theorem selfContained_shadowingRegistry : shadowingRegistry.SelfContained :=
  TemplateRegistry.selfContained_builtin.insert ⟨by decide, by decide⟩

/-- A template may bring a volume under the name of custom properties where none are declared, and
one that takes the place of the certificate. -/
theorem templates_take_both_names :
    shadowingRegistry.SelfContained ∧
    ∃ gateway, GatewayDescriptor.ofVariant
        (sampleFleet.withActiveGate ⟨[.dataIngest], "gateway-cert", "", .none⟩)
        shadowingRegistry "1.0.0" .multi = .ok gateway ∧
      gateway.enabled = true ∧
      gateway.customProperties? = none ∧
      customPropertiesVolume ∈ gateway.volumes.map (·.name) ∧
      (sampleFleet.withActiveGate ⟨[.dataIngest], "gateway-cert", "", .none⟩).certificateOf
        .multi = some "gateway-cert" ∧
      Volume.fromSecret tlsVolume "gateway-cert" ∉ gateway.volumes := by
  refine ⟨selfContained_shadowingRegistry, _, rfl, rfl, rfl, ?_, rfl, ?_⟩
  · decide
  · decide

end FleetOperator
