import FleetOperator.Proofs.Gateway.Identity
import FleetOperator.Proofs.Hash

/-!
# In which secret a gateway keeps its custom properties

Custom properties that a fleet writes out go into a secret that is named
after the fleet and the owner of the service account, and the pods mount the
secret of that name. `KeepsUnder` says so of a gateway, its owner and its own
custom properties, and each of the three gateways of a fleet is put together
like that (`keepsUnder_all`).

The two gateways of one capability have owners of their own. The merged one
takes over the owner of one of its modules, so it always has the owner of one
of the other two.
-/

namespace FleetOperator

/-! ## The secret of a gateway -/

/-- Custom properties that are written out. -/
def CapabilityProperties.inlineProperties? (properties : CapabilityProperties) : Option String :=
  match properties.declaredCustomProperties? with
  | .none => .none
  | some source =>
    match source.reference? with
    | .none => some source.value
    | some _ => .none

/-- The secret that the pods of a workload mount custom properties from. -/
def StatefulSet.propertiesSecret? (workload : StatefulSet) : Option String :=
  match workload.spec.template.spec.volumes.find? (·.name == customPropertiesVolume) with
  | none => none
  | some volume => volume.secret.map (·.secretName)

theorem customPropertiesSecretName_inj {fleetName owner other : String} :
    customPropertiesSecretName fleetName owner = customPropertiesSecretName fleetName other ↔
      owner = other := by
  unfold customPropertiesSecretName
  rw [String.append_left_inj, String.append_right_inj]

namespace GatewayDescriptor

/-- The custom properties that are written out for a gateway which should exist. -/
def ownProperties? (gateway : GatewayDescriptor) : Option String :=
  if gateway.enabled then gateway.properties.inlineProperties? else none

/-- The secret that a gateway keeps them in. -/
def ownSecret (gateway : GatewayDescriptor) (fleetName : String) : String :=
  customPropertiesSecretName fleetName gateway.configuration.serviceAccountOwner

/-- The custom properties in a secret after a cycle of a gateway, given those before it. -/
def leaves (gateway : GatewayDescriptor) (fleetName secret : String)
    (before : Option (List UInt8)) : Option (List UInt8) :=
  match gateway.ownProperties? with
  | none => before
  | some text => if secret = gateway.ownSecret fleetName then some (Text.bytes text) else before

/-- A gateway whose own custom properties, if there are any, are in the secret under an owner,
and whose pods mount them from there. -/
structure KeepsUnder (gateway : GatewayDescriptor) (fleetName owner : String)
    (own : Option String) : Prop where
  own_eq : gateway.ownProperties? = own
  owner_eq : own ≠ none → gateway.configuration.serviceAccountOwner = owner
  mounts : own ≠ none → gateway.volumes.find? (·.name == customPropertiesVolume) =
    some (.fromSecretKey customPropertiesVolume (customPropertiesSecretName fleetName owner)
      customPropertiesKey customPropertiesFile)

section

variable {gateway : GatewayDescriptor} {fleetName owner : String} {own : Option String}

theorem KeepsUnder.leaves_own (h : gateway.KeepsUnder fleetName owner own) {text : String}
    (hown : own = some text) (before : Option (List UInt8)) :
    gateway.leaves fleetName (customPropertiesSecretName fleetName owner) before =
      some (Text.bytes text) := by
  have howner := h.owner_eq (by simp [hown])
  simp only [leaves, h.own_eq, hown, ownSecret, howner, if_true]

/-- The secret under another owner is not touched. -/
theorem KeepsUnder.leaves_of_owner_ne (h : gateway.KeepsUnder fleetName owner own) {other : String}
    (hne : other ≠ owner) (before : Option (List UInt8)) :
    gateway.leaves fleetName (customPropertiesSecretName fleetName other) before = before := by
  rw [leaves, h.own_eq]
  cases own with
  | none => rfl
  | some text =>
      simp only [ownSecret, h.owner_eq (by simp), customPropertiesSecretName_inj, hne, if_false]

/-- Another text stays in the secret exactly when there is none to put in its place. -/
theorem KeepsUnder.leaves_eq_iff (h : gateway.KeepsUnder fleetName owner own) (text : String) :
    gateway.leaves fleetName (customPropertiesSecretName fleetName owner)
        (some (Text.bytes text)) = some (Text.bytes text) ↔
      ∀ other, own = some other → other = text := by
  cases hown : own with
  | none => simp [leaves, h.own_eq, hown]
  | some other =>
      rw [h.leaves_own hown, Option.some_inj]
      constructor
      · intro hbytes third hthird
        rw [← Option.some.inj hthird]
        exact Text.bytes_injective hbytes
      · intro hsame
        rw [hsame other rfl]

end

end GatewayDescriptor

/-! ## The gateways of a fleet -/

theorem find?_firstByName_cons {α : Type} {name : α → String} {item : α} {wanted : String}
    (h : name item = wanted) (rest : List α) :
    (firstByName name (item :: rest)).find? (name · == wanted) = some item := by
  rw [firstByName, List.find?_cons_of_pos (by simp [h])]

theorem find?_assembleVolumes {properties : CapabilityProperties}
    (h : properties.inlineProperties? ≠ none) (context : FleetContext) (owner : String)
    (volumes : List Volume) (tlsSecret : Option String) :
    (assembleVolumes context properties owner volumes tlsSecret).find?
        (·.name == customPropertiesVolume) =
      some (.fromSecretKey customPropertiesVolume (customPropertiesSecretName context.name owner)
        customPropertiesKey customPropertiesFile) := by
  unfold CapabilityProperties.inlineProperties? at h
  unfold assembleVolumes
  cases hdeclared : properties.declaredCustomProperties? with
  | none => simp [hdeclared] at h
  | some source =>
      cases hreference : source.reference? with
      | some secret => simp [hdeclared, hreference] at h
      | none =>
          simp only [hreference, Option.getD_none, List.cons_append, List.nil_append]
          have hname : (Volume.fromSecretKey customPropertiesVolume
              (customPropertiesSecretName context.name owner) customPropertiesKey
              customPropertiesFile).name = customPropertiesVolume := rfl
          exact find?_firstByName_cons hname _

/-- The owner of a gateway of several built-in modules. -/
theorem serviceAccountOwner_foldl (kinds : List CapabilityKind) (start : Configuration) :
    ((kinds.map CapabilityTemplate.builtin).foldl
        (fun merged template => merged.merge template.configuration) start).serviceAccountOwner =
      if .kubernetesMonitoring ∈ kinds then
        CapabilityTemplate.kubernetesMonitoring.configuration.serviceAccountOwner
      else start.serviceAccountOwner := by
  induction kinds generalizing start with
  | nil => rfl
  | cons kind rest ih =>
      rw [List.map_cons, List.foldl_cons, ih]
      cases kind <;> by_cases hmem : CapabilityKind.kubernetesMonitoring ∈ rest <;>
        simp [hmem] <;> rfl

theorem get?_builtin (kind : CapabilityKind) :
    TemplateRegistry.builtin.get? kind = some (.builtin kind) := by
  cases kind <;> rfl

theorem select_builtin {kinds : List CapabilityKind} {seen : List String}
    {templates : List CapabilityTemplate}
    (h : TemplateRegistry.builtin.select seen kinds = .ok templates) :
    templates = kinds.map CapabilityTemplate.builtin := by
  induction kinds generalizing seen templates with
  | nil => exact (Except.ok.inj h).symm
  | cons kind rest ih =>
      rw [TemplateRegistry.select, get?_builtin] at h
      dsimp only at h
      split at h
      · cases h
      · obtain ⟨others, hothers, h⟩ := Except.exists_of_bind_eq_ok h
        rw [← Except.ok.inj h, ih hothers, List.map_cons]

/-- The custom properties that are written out in a section for a gateway of one capability. -/
def LegacyCapabilitySpec.ownProperties? (asked : Option LegacyCapabilitySpec) : Option String :=
  (asked.filter (·.enabled)).bind (·.properties.inlineProperties?)

namespace Fleet

/-- The custom properties that are written out for the merged gateway. -/
def mergedProperties? (fleet : Fleet) : Option String :=
  if fleet.wantsMergedGateway then fleet.spec.activeGate.properties.inlineProperties? else none

/-- The owner of the merged gateway. -/
def mergedOwner (fleet : Fleet) : String :=
  if .kubernetesMonitoring ∈ fleet.spec.activeGate.capabilities then
    CapabilityTemplate.kubernetesMonitoring.configuration.serviceAccountOwner
  else CapabilityTemplate.routing.configuration.serviceAccountOwner

/-- The custom properties that are written out for the gateway of one capability which has the
same owner. -/
def rivalProperties? (fleet : Fleet) : Option String :=
  LegacyCapabilitySpec.ownProperties?
    (if .kubernetesMonitoring ∈ fleet.spec.activeGate.capabilities then
      fleet.spec.kubernetesMonitoring
    else fleet.spec.routing)

/-- The merged gateway and the other one of the same owner have different custom properties
written out. -/
def PropertiesClash (fleet : Fleet) : Prop :=
  ∃ own other, fleet.mergedProperties? = some own ∧ fleet.rivalProperties? = some other ∧
    other ≠ own

end Fleet

section

variable {fleet : Fleet} {operatorVersion : String} {gateway : GatewayDescriptor}

theorem name_ofFleet {context : FleetContext}
    (h : FleetContext.ofFleet fleet operatorVersion = .ok context) : context.name = fleet.name := by
  obtain ⟨ns, -, rfl⟩ := FleetContext.eq_of_ofFleet h
  rfl

theorem keepsUnder_compose
    (h : GatewayDescriptor.compose fleet .builtin operatorVersion = .ok gateway) :
    gateway.KeepsUnder fleet.name fleet.mergedOwner fleet.mergedProperties? := by
  unfold GatewayDescriptor.compose at h
  unfold Fleet.mergedProperties?
  dsimp only at h
  split at h
  · next hwants =>
      obtain ⟨context, hcontext, h⟩ := Except.exists_of_bind_eq_ok h
      obtain ⟨templates, htemplates, h⟩ := Except.exists_of_bind_eq_ok h
      obtain rfl := Except.ok.inj h
      obtain rfl := select_builtin htemplates
      have howner := serviceAccountOwner_foldl fleet.spec.activeGate.capabilities .none
      rw [if_pos hwants]
      refine ⟨rfl, fun _ => howner, fun hown => ?_⟩
      rw [← name_ofFleet hcontext, Fleet.mergedOwner]
      refine (find?_assembleVolumes hown context _ _ _).trans ?_
      rw [howner]
      rfl
  · next hwants =>
      obtain rfl := Except.ok.inj h
      rw [if_neg hwants]
      exact ⟨rfl, fun hown => absurd rfl hown, fun hown => absurd rfl hown⟩

theorem keepsUnder_legacy {kind : CapabilityKind} {variant : GatewayVariant}
    {asked : Option LegacyCapabilitySpec}
    (h : GatewayDescriptor.legacy fleet .builtin operatorVersion kind variant asked =
      .ok gateway) :
    gateway.KeepsUnder fleet.name
      (CapabilityTemplate.builtin kind).configuration.serviceAccountOwner
      (LegacyCapabilitySpec.ownProperties? asked) := by
  unfold GatewayDescriptor.legacy at h
  unfold LegacyCapabilitySpec.ownProperties?
  rw [get?_builtin] at h
  dsimp only at h
  split at h
  · next hasked =>
      obtain rfl := Except.ok.inj h
      rw [hasked]
      exact ⟨rfl, fun hown => absurd rfl hown, fun hown => absurd rfl hown⟩
  · next spec hasked =>
      obtain ⟨context, hcontext, h⟩ := Except.exists_of_bind_eq_ok h
      obtain rfl := Except.ok.inj h
      rw [hasked]
      refine ⟨rfl, fun _ => rfl, fun hown => ?_⟩
      rw [← name_ofFleet hcontext]
      exact find?_assembleVolumes hown context
        (CapabilityTemplate.builtin kind).configuration.serviceAccountOwner _ none

theorem keepsUnder_all {gateways : List GatewayDescriptor}
    (h : GatewayDescriptor.all fleet .builtin operatorVersion = .ok gateways) :
    ∃ merged kubemon routing, gateways = [merged, kubemon, routing] ∧
      merged.KeepsUnder fleet.name fleet.mergedOwner fleet.mergedProperties? ∧
      kubemon.KeepsUnder fleet.name
        CapabilityTemplate.kubernetesMonitoring.configuration.serviceAccountOwner
        (LegacyCapabilitySpec.ownProperties? fleet.spec.kubernetesMonitoring) ∧
      routing.KeepsUnder fleet.name CapabilityTemplate.routing.configuration.serviceAccountOwner
        (LegacyCapabilitySpec.ownProperties? fleet.spec.routing) := by
  obtain ⟨merged, hmerged, h⟩ := Except.exists_of_bind_eq_ok h
  obtain ⟨kubemon, hkubemon, h⟩ := Except.exists_of_bind_eq_ok h
  obtain ⟨routing, hrouting, h⟩ := Except.exists_of_bind_eq_ok h
  exact ⟨merged, kubemon, routing, (Except.ok.inj h).symm, keepsUnder_compose hmerged,
    keepsUnder_legacy hkubemon, keepsUnder_legacy hrouting⟩

end

end FleetOperator
