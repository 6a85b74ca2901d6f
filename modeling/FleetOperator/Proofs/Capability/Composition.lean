import FleetOperator.Proofs.Capability.Legacy

/-!
# What a gateway that should exist is composed of

The merged gateway and a gateway of one capability are put together by two
functions, in the same way: from templates of the registry with different
modules, one container for each. `ComposedFrom` says what that comes to, and
each of the gateways of a fleet is like that or should not exist
(`exists_composedFrom`). The two kinds differ in the certificate only, which
a gateway of one capability does not have.
-/

namespace FleetOperator

/-- The capabilities that a gateway of a fleet stands for. -/
def Fleet.capabilitiesOf (fleet : Fleet) : GatewayVariant → List CapabilityKind
  | .multi => fleet.spec.activeGate.capabilities
  | .legacyKubernetesMonitoring => [.kubernetesMonitoring]
  | .legacyRouting => [.routing]

namespace TemplateRegistry

/-- The templates of the listed capabilities, of those that have one. -/
def templatesOf (registry : TemplateRegistry) (kinds : List CapabilityKind) :
    List CapabilityTemplate :=
  kinds.filterMap registry.get?

theorem templatesOf_of_select {registry : TemplateRegistry} {kinds : List CapabilityKind}
    {seen : List String} {templates : List CapabilityTemplate}
    (h : registry.select seen kinds = .ok templates) : registry.templatesOf kinds = templates := by
  have hforall := (select_eq_ok_iff.1 h).1
  clear h
  induction hforall with
  | nil => rfl
  | cons hget _ ih => exact (List.filterMap_cons_some hget).trans (congrArg _ ih)

end TemplateRegistry

namespace GatewayDescriptor

/-- The secret with the certificate of a gateway. -/
def certificate? (gateway : GatewayDescriptor) (context : FleetContext) : Option String :=
  if gateway.variant.isLegacy then none else context.tlsSecret?

/-- A gateway that is composed from templates of a registry. -/
structure ComposedFrom (gateway : GatewayDescriptor) (registry : TemplateRegistry)
    (context : FleetContext) (templates : List CapabilityTemplate) : Prop where
  templates_ne_nil : templates ≠ []
  registered : ∀ template ∈ templates, ∃ kind, registry.get? kind = some template
  modules_nodup : (templates.map (·.moduleName)).Nodup
  containers : gateway.containers = templates.map fun template =>
    (template.instantiate context gateway.properties (gateway.certificate? context)).container
  initContainers : gateway.initContainers = templates.flatMap fun template =>
    (template.instantiate context gateway.properties
      (gateway.certificate? context)).initContainers
  volumes : gateway.volumes = assembleVolumes context gateway.properties
    gateway.configuration.serviceAccountOwner (templates.flatMap (·.volumes))
    (gateway.certificate? context)

variable {fleet : Fleet} {registry : TemplateRegistry} {operatorVersion : String}
  {gateway : GatewayDescriptor}

theorem composedFrom_ofTemplates {context : FleetContext} {properties : CapabilityProperties}
    {templates : List CapabilityTemplate} {kinds : List CapabilityKind}
    (hselect : registry.select [] kinds = .ok templates) (hkinds : kinds ≠ []) :
    (ofTemplates context properties templates).ComposedFrom registry context templates := by
  obtain ⟨hforall, hnodup, -⟩ := TemplateRegistry.select_eq_ok_iff.1 hselect
  have hregistered := hforall.imp fun template kind hget =>
    And.intro (⟨kind, hget⟩ : ∃ kind, registry.get? kind = some template) hget
  refine ⟨?_, ((List.forall₂_and_left _ _).1 hregistered).1, hnodup, containers_ofTemplates _ _ _,
    initContainers_ofTemplates _ _ _, ?_⟩
  · rintro rfl
    exact hkinds (List.forall₂_nil_left_iff.1 hforall)
  · simp only [ofTemplates, List.flatMap_map, CapabilityTemplate.instantiate]
    rfl

theorem exists_composedFrom_of_compose (h : compose fleet registry operatorVersion = .ok gateway)
    (henabled : gateway.enabled = true) :
    ∃ context, FleetContext.ofFleet fleet operatorVersion = .ok context ∧
      gateway.ComposedFrom registry context
        (registry.templatesOf fleet.spec.activeGate.capabilities) := by
  by_cases hwanted : fleet.spec.activeGate.capabilities = []
  · have hnone : ¬ fleet.wantsMergedGateway = true := by simp [Fleet.wantsMergedGateway, hwanted]
    rw [compose, if_neg hnone] at h
    obtain rfl := Except.ok.inj h
    cases henabled
  · obtain ⟨context, templates, hcontext, hselect, rfl⟩ := exists_of_compose_eq_ok hwanted h
    rw [TemplateRegistry.templatesOf_of_select hselect]
    exact ⟨context, hcontext, composedFrom_ofTemplates hselect hwanted⟩

theorem exists_composedFrom_of_legacy {kind : CapabilityKind} {variant : GatewayVariant}
    {asked : Option LegacyCapabilitySpec} (hlegacy : variant.isLegacy = true)
    (h : legacy fleet registry operatorVersion kind variant asked = .ok gateway)
    (henabled : gateway.enabled = true) :
    ∃ context, FleetContext.ofFleet fleet operatorVersion = .ok context ∧
      gateway.ComposedFrom registry context (registry.templatesOf [kind]) := by
  rw [legacy] at h
  cases hget : registry.get? kind with
  | none => simp [hget] at h
  | some template =>
      rw [hget] at h
      dsimp only at h
      split at h
      · obtain rfl := Except.ok.inj h
        cases henabled
      · next spec hasked =>
          obtain ⟨context, hcontext, h⟩ := Except.exists_of_bind_eq_ok h
          obtain rfl := Except.ok.inj h
          have htemplates : registry.templatesOf [kind] = [template] :=
            List.filterMap_cons_some hget
          rw [htemplates]
          refine ⟨context, hcontext, by simp, ?_, by simp, ?_, ?_, ?_⟩
          · intro other hother
            obtain rfl := List.mem_singleton.1 hother
            exact ⟨kind, hget⟩
          all_goals simp [certificate?, hlegacy, CapabilityTemplate.instantiate]

/-- An enabled gateway of a variant is composed from the templates of its capabilities. -/
theorem exists_composedFrom_of_ofVariant {variant : GatewayVariant}
    (h : ofVariant fleet registry operatorVersion variant = .ok gateway)
    (henabled : gateway.enabled = true) :
    ∃ context, FleetContext.ofFleet fleet operatorVersion = .ok context ∧
      gateway.ComposedFrom registry context
        (registry.templatesOf (fleet.capabilitiesOf variant)) := by
  cases variant with
  | multi => exact exists_composedFrom_of_compose h henabled
  | legacyKubernetesMonitoring => exact exists_composedFrom_of_legacy rfl h henabled
  | legacyRouting => exact exists_composedFrom_of_legacy rfl h henabled

/-- Each of the gateways of a fleet is composed from templates, or should not exist. -/
theorem exists_composedFrom {gateways : List GatewayDescriptor}
    (hall : all fleet registry operatorVersion = .ok gateways) (hmem : gateway ∈ gateways)
    (henabled : gateway.enabled = true) :
    ∃ context templates, FleetContext.ofFleet fleet operatorVersion = .ok context ∧
      gateway.ComposedFrom registry context templates := by
  obtain ⟨merged, hmerged, hall⟩ := Except.exists_of_bind_eq_ok hall
  obtain ⟨kubemon, hkubemon, hall⟩ := Except.exists_of_bind_eq_ok hall
  obtain ⟨routing, hrouting, hall⟩ := Except.exists_of_bind_eq_ok hall
  obtain rfl := Except.ok.inj hall
  obtain ⟨variant, hvariant⟩ : ∃ variant,
      ofVariant fleet registry operatorVersion variant = .ok gateway := by
    rcases List.mem_cons.1 hmem with rfl | hmem
    · exact ⟨.multi, hmerged⟩
    · rcases List.mem_cons.1 hmem with rfl | hmem
      · exact ⟨.legacyKubernetesMonitoring, hkubemon⟩
      · obtain rfl := List.mem_singleton.1 hmem
        exact ⟨.legacyRouting, hrouting⟩
  obtain ⟨context, hcontext, hcomposed⟩ := exists_composedFrom_of_ofVariant hvariant henabled
  exact ⟨context, _, hcontext, hcomposed⟩

end GatewayDescriptor

end FleetOperator
