import Mathlib.Data.List.Forall2
import FleetOperator.Capability.Legacy
import FleetOperator.Proofs.Gateway.Identity

/-!
# A gateway of one capability against its entry in the merged one

Both are put together from the template of the capability. What they are put
together in has everything in common but the certificate
(`ofFleet_withActiveGate`), and the certificate comes last: its mount among
those of a container (`mounts_certified`), its volume among those of the pod
(`assembleVolumes_certified`), where it gives way to an earlier one of its
name.

A list of capabilities that can be merged can be taken apart
(`exists_select_of_append`), so an entry stands between the gateways of what
comes before it and of what comes after.
-/

namespace FleetOperator

/-! ## Lists without repeated names -/

section

variable {α : Type} {name : α → String}

theorem mem_map_firstByName {items : List α} {wanted : String} :
    wanted ∈ (firstByName name items).map name ↔ wanted ∈ items.map name := by
  induction items with
  | nil => rfl
  | cons first rest ih =>
      rw [firstByName, List.map_cons, List.map_cons, List.mem_cons, List.mem_cons, ← ih]
      by_cases hfirst : wanted = name first
      · simp [hfirst]
      · simp only [hfirst, false_or, List.mem_map, List.mem_filter, bne_iff_ne]
        constructor
        · rintro ⟨item, ⟨hitem, -⟩, rfl⟩
          exact ⟨item, hitem, rfl⟩
        · rintro ⟨item, hitem, rfl⟩
          exact ⟨item, ⟨hitem, hfirst⟩, rfl⟩

/-- Of the items of one name the first is taken. -/
theorem filter_firstByName (items : List α) (wanted : String) :
    (firstByName name items).filter (name · == wanted) =
      (items.find? (name · == wanted)).toList := by
  induction items with
  | nil => rfl
  | cons first rest ih =>
      rw [firstByName]
      by_cases hfirst : name first = wanted
      · rw [List.filter_cons_of_pos (by simp [hfirst]), List.find?_cons_of_pos (by simp [hfirst]),
          List.filter_filter]
        simp [hfirst]
      · have hother (other : α) :
            (name other == wanted && name other != name first) = (name other == wanted) := by
          by_cases hwanted : name other = wanted
          · simp [hwanted, Ne.symm hfirst]
          · simp [hwanted]
        rw [List.filter_cons_of_neg (by simp [hfirst]), List.find?_cons_of_neg (by simp [hfirst]),
          List.filter_filter]
        simp only [hother, ih]

/-- A last item is taken unless one of its name comes before. -/
theorem firstByName_concat (items : List α) (last : α) :
    firstByName name (items ++ [last]) =
      firstByName name items ++ if name last ∈ items.map name then [] else [last] := by
  induction items with
  | nil => rfl
  | cons first rest ih =>
      rw [List.cons_append, firstByName, firstByName, ih, List.filter_append, List.cons_append,
        List.map_cons]
      by_cases hrest : name last ∈ rest.map name
      · rw [if_pos hrest, if_pos (List.mem_cons_of_mem _ hrest), List.filter_nil]
      · by_cases hfirst : name last = name first
        · rw [if_neg hrest, if_pos (List.mem_cons.2 (.inl hfirst))]
          simp [hfirst]
        · rw [if_neg hrest, if_neg (by simp only [List.mem_cons, hfirst, hrest, or_self,
            not_false_eq_true])]
          simp [hfirst]

end

/-! ## Lists of capabilities -/

namespace TemplateRegistry

variable {registry : TemplateRegistry} {kinds : List CapabilityKind} {seen : List String}
  {templates : List CapabilityTemplate}

theorem select_cons_eq_ok_iff {kind : CapabilityKind} :
    registry.select seen (kind :: kinds) = .ok templates ↔
      ∃ template rest, registry.get? kind = some template ∧ template.moduleName ∉ seen ∧
        registry.select (template.moduleName :: seen) kinds = .ok rest ∧
        templates = template :: rest := by
  rw [select]
  cases hget : registry.get? kind with
  | none => simp
  | some template =>
      dsimp only
      split
      · next hseen => simp [hseen]
      · next hseen =>
          constructor
          · intro h
            obtain ⟨rest, hrest, h⟩ := Except.exists_of_bind_eq_ok h
            exact ⟨template, rest, rfl, hseen, hrest, (Except.ok.inj h).symm⟩
          · rintro ⟨_, rest, hsame, -, hrest, rfl⟩
            obtain rfl := Option.some.inj hsame
            rw [hrest]
            rfl

/-- A list of capabilities is taken if each has a template and the modules of these differ, from
each other and from what was seen before. -/
theorem select_eq_ok_iff :
    registry.select seen kinds = .ok templates ↔
      List.Forall₂ (fun template kind => registry.get? kind = some template) templates kinds ∧
        (templates.map (·.moduleName)).Nodup ∧
        ∀ template ∈ templates, template.moduleName ∉ seen := by
  induction kinds generalizing seen templates with
  | nil =>
      constructor
      · intro h
        obtain rfl := Except.ok.inj h
        simp
      · rintro ⟨hforall, -, -⟩
        rw [List.forall₂_nil_right_iff.1 hforall]
        rfl
  | cons kind kinds ih =>
      rw [select_cons_eq_ok_iff, List.forall₂_cons_right_iff]
      constructor
      · rintro ⟨template, rest, hget, hseen, hrest, rfl⟩
        obtain ⟨hforall, hnodup, hfresh⟩ := ih.1 hrest
        refine ⟨⟨template, rest, hget, hforall, rfl⟩, List.nodup_cons.2 ⟨?_, hnodup⟩,
          List.forall_mem_cons.2 ⟨hseen, fun other hother hin =>
            hfresh other hother (List.mem_cons_of_mem _ hin)⟩⟩
        intro hmem
        obtain ⟨other, hother, hsame⟩ := List.mem_map.1 hmem
        exact hfresh other hother (hsame ▸ List.mem_cons_self)
      · rintro ⟨⟨template, rest, hget, hforall, rfl⟩, hnodup, hfresh⟩
        obtain ⟨hname, hnodup⟩ := List.nodup_cons.1 hnodup
        obtain ⟨hseen, hfresh⟩ := List.forall_mem_cons.1 hfresh
        refine ⟨template, rest, hget, hseen, ih.2 ⟨hforall, hnodup, ?_⟩, rfl⟩
        intro other hother hin
        rcases List.mem_cons.1 hin with hsame | hin
        · exact hname (List.mem_map.2 ⟨other, hother, hsame⟩)
        · exact hfresh other hother hin

/-- A part of a list that is taken is taken by itself. -/
theorem exists_select_of_append {before after : List CapabilityKind}
    (h : registry.select seen (before ++ after) = .ok templates) :
    ∃ first last, templates = first ++ last ∧ registry.select [] before = .ok first ∧
      registry.select [] after = .ok last := by
  obtain ⟨hforall, hnodup, -⟩ := select_eq_ok_iff.1 h
  have hfirst := List.forall₂_take_append _ _ _ hforall
  have hlast := List.forall₂_drop_append _ _ _ hforall
  rw [← List.take_append_drop before.length templates, List.map_append] at hnodup
  obtain ⟨hfirstNodup, hlastNodup, -⟩ := List.nodup_append.1 hnodup
  exact ⟨_, _, (List.take_append_drop before.length templates).symm,
    select_eq_ok_iff.2 ⟨hfirst, hfirstNodup, by simp⟩,
    select_eq_ok_iff.2 ⟨hlast, hlastNodup, by simp⟩⟩

theorem exists_select_around {kind : CapabilityKind} {before after : List CapabilityKind}
    (h : registry.select seen (before ++ kind :: after) = .ok templates) :
    ∃ first template last, templates = first ++ template :: last ∧
      registry.select [] before = .ok first ∧ registry.get? kind = some template ∧
      registry.select [] after = .ok last := by
  obtain ⟨first, rest, rfl, hfirst, hrest⟩ := exists_select_of_append h
  have hrest : registry.select [] ([kind] ++ after) = .ok rest := hrest
  obtain ⟨single, last, rfl, hsingle, hlast⟩ := exists_select_of_append hrest
  obtain ⟨template, _, hget, -, hnone, rfl⟩ := select_cons_eq_ok_iff.1 hsingle
  obtain rfl := Except.ok.inj hnone
  exact ⟨first, template, last, rfl, hfirst, hget, hlast⟩

end TemplateRegistry

/-! ## Gateways by their variant -/

/-- The capability that a gateway stands for, if it stands for one only. -/
def GatewayVariant.kind? : GatewayVariant → Option CapabilityKind
  | .multi => none
  | .legacyKubernetesMonitoring => some .kubernetesMonitoring
  | .legacyRouting => some .routing

namespace Fleet

/-- The section that asks for a gateway of one capability. -/
def legacySection? (fleet : Fleet) : GatewayVariant → Option LegacyCapabilitySpec
  | .multi => none
  | .legacyKubernetesMonitoring => fleet.spec.kubernetesMonitoring
  | .legacyRouting => fleet.spec.routing

/-- The fleet with another merged gateway. -/
def withActiveGate (fleet : Fleet) (gateway : ActiveGateSpec) : Fleet :=
  { fleet with spec := { fleet.spec with activeGate := gateway } }

end Fleet

namespace GatewayDescriptor

/-- The gateway of a variant, of the three that a fleet has. -/
def ofVariant (fleet : Fleet) (registry : TemplateRegistry) (operatorVersion : String) :
    GatewayVariant → Except CapabilityError GatewayDescriptor
  | .multi => compose fleet registry operatorVersion
  | .legacyKubernetesMonitoring => legacyKubernetesMonitoring fleet registry operatorVersion
  | .legacyRouting => legacyRouting fleet registry operatorVersion

variable {fleet : Fleet} {registry : TemplateRegistry} {operatorVersion : String}
  {variant : GatewayVariant} {kind : CapabilityKind}

theorem ofVariant_eq_legacy (hkind : variant.kind? = some kind) :
    ofVariant fleet registry operatorVersion variant =
      legacy fleet registry operatorVersion kind variant (fleet.legacySection? variant) := by
  cases variant with
  | multi => cases hkind
  | legacyKubernetesMonitoring =>
      obtain rfl := Option.some.inj hkind
      rfl
  | legacyRouting =>
      obtain rfl := Option.some.inj hkind
      rfl

theorem exists_of_compose_eq_ok {gateway : GatewayDescriptor}
    (hwanted : fleet.spec.activeGate.capabilities ≠ [])
    (h : compose fleet registry operatorVersion = .ok gateway) :
    ∃ context templates, FleetContext.ofFleet fleet operatorVersion = .ok context ∧
      registry.select [] fleet.spec.activeGate.capabilities = .ok templates ∧
      gateway = ofTemplates context fleet.spec.activeGate.properties templates := by
  have hwants : fleet.wantsMergedGateway = true := by
    simpa [Fleet.wantsMergedGateway] using hwanted
  rw [compose, if_pos hwants] at h
  obtain ⟨context, hcontext, h⟩ := Except.exists_of_bind_eq_ok h
  obtain ⟨templates, hselect, h⟩ := Except.exists_of_bind_eq_ok h
  exact ⟨context, templates, hcontext, hselect, (Except.ok.inj h).symm⟩

/-- A gateway of one template keeps its custom properties under the owner of that. -/
theorem serviceAccountOwner_merge_none (configuration : Configuration) :
    (Configuration.none.merge configuration).serviceAccountOwner =
      configuration.serviceAccountOwner := by
  rw [Configuration.merge]
  split
  · next hempty => exact (String.isEmpty_iff.1 hempty).symm
  · rfl

theorem containers_ofTemplates (context : FleetContext) (properties : CapabilityProperties)
    (templates : List CapabilityTemplate) :
    (ofTemplates context properties templates).containers = templates.map fun template =>
      (template.instantiate context properties context.tlsSecret?).container := by
  simp [ofTemplates]

theorem initContainers_ofTemplates (context : FleetContext) (properties : CapabilityProperties)
    (templates : List CapabilityTemplate) :
    (ofTemplates context properties templates).initContainers = templates.flatMap fun template =>
      (template.instantiate context properties context.tlsSecret?).initContainers := by
  simp [ofTemplates, List.flatMap_map]

theorem volumes_ofTemplates_singleton (context : FleetContext)
    (properties : CapabilityProperties) (template : CapabilityTemplate) :
    (ofTemplates context properties [template]).volumes =
      assembleVolumes context properties template.configuration.serviceAccountOwner
        template.volumes context.tlsSecret? := by
  rw [← serviceAccountOwner_merge_none]
  simp [ofTemplates, CapabilityTemplate.instantiate]

/-- Also where the list is empty, and there is no merged gateway, it has the containers of the
list. -/
theorem exists_compose {context : FleetContext} {templates : List CapabilityTemplate}
    (hcontext : FleetContext.ofFleet fleet operatorVersion = .ok context)
    (hselect : registry.select [] fleet.spec.activeGate.capabilities = .ok templates) :
    ∃ gateway, compose fleet registry operatorVersion = .ok gateway ∧
      gateway.containers = templates.map (fun template => (template.instantiate context
        fleet.spec.activeGate.properties context.tlsSecret?).container) ∧
      gateway.initContainers = templates.flatMap fun template => (template.instantiate context
        fleet.spec.activeGate.properties context.tlsSecret?).initContainers := by
  cases hwants : fleet.wantsMergedGateway with
  | true =>
      refine ⟨ofTemplates context fleet.spec.activeGate.properties templates, ?_, ?_, ?_⟩
      · rw [compose, if_pos hwants, hcontext, Except.ok_bind_eq, hselect]
        rfl
      · exact containers_ofTemplates _ _ _
      · exact initContainers_ofTemplates _ _ _
  | false =>
      have hnone : fleet.spec.activeGate.capabilities = [] := by
        simpa [Fleet.wantsMergedGateway] using hwants
      rw [hnone] at hselect
      obtain rfl := Except.ok.inj hselect
      refine ⟨disabled .multi multiModule fleet.spec.activeGate.properties, ?_, rfl, rfl⟩
      rw [compose, if_neg (by simp [hwants])]
      rfl

/-- The gateways of a fleet have everything in common with those of the same fleet with another
merged gateway of the same image, but for the certificate. -/
theorem ofFleet_withActiveGate {asked : ActiveGateSpec}
    (himage : asked.image = fleet.spec.activeGate.image) :
    FleetContext.ofFleet (fleet.withActiveGate asked) operatorVersion =
      (FleetContext.ofFleet fleet operatorVersion).map
        ({ · with tlsSecretName := asked.tlsSecretName }) := by
  have hgatewayImage : (fleet.withActiveGate asked).gatewayImage = fleet.gatewayImage := by
    simp only [Fleet.gatewayImage, Fleet.withActiveGate, himage]
  have hns : (fleet.withActiveGate asked).ns? = fleet.ns? := rfl
  rw [FleetContext.ofFleet, FleetContext.ofFleet, hgatewayImage, hns]
  cases fleet.ns? <;> rfl

theorem legacy_eq_ok {context : FleetContext} {template : CapabilityTemplate}
    {spec : LegacyCapabilitySpec} (hget : registry.get? kind = some template)
    (henabled : spec.enabled = true)
    (hcontext : FleetContext.ofFleet fleet operatorVersion = .ok context) :
    ∃ gateway, legacy fleet registry operatorVersion kind variant (some spec) = .ok gateway ∧
      gateway.containers = [(template.instantiate context spec.properties none).container] ∧
      gateway.initContainers = (template.instantiate context spec.properties none).initContainers ∧
      gateway.volumes = assembleVolumes context spec.properties
        template.configuration.serviceAccountOwner template.volumes none := by
  have hasked : (some spec).filter (·.enabled) = some spec := by
    rw [Option.filter_some, if_pos henabled]
  rw [legacy, hget]
  dsimp only
  rw [hasked, hcontext]
  exact ⟨_, rfl, rfl, rfl, rfl⟩

/-- The mount of a server certificate, where there is one. -/
def certificateMounts (tlsSecretName : String) : List VolumeMount :=
  if tlsSecretName = "" then [] else [.whole tlsVolume tlsPath true]

theorem exists_assembleVolumes_eq (context : FleetContext) (properties : CapabilityProperties)
    (owner : String) (volumes : List Volume) :
    ∃ plain, assembleVolumes context properties owner volumes none = firstByName (·.name) plain ∧
      ∀ secret, assembleVolumes context properties owner volumes (some secret) =
        firstByName (·.name) (plain ++ [.fromSecret tlsVolume secret]) := by
  refine ⟨_ ++ volumes, ?_, fun secret => rfl⟩
  rw [assembleVolumes.eq_def, List.append_nil]

/-- The volume of a server certificate comes last, unless there is one of its name. -/
theorem assembleVolumes_certified (context : FleetContext) (properties : CapabilityProperties)
    (owner : String) (volumes : List Volume) :
    let before := assembleVolumes context properties owner volumes none
    assembleVolumes context properties owner volumes context.tlsSecret? = before ++
      if context.tlsSecretName = "" ∨ tlsVolume ∈ before.map (·.name) then []
      else [.fromSecret tlsVolume context.tlsSecretName] := by
  intro before
  obtain ⟨plain, hbefore, hcertified⟩ := exists_assembleVolumes_eq context properties owner volumes
  rw [FleetContext.tlsSecret?]
  by_cases hnone : context.tlsSecretName = ""
  · simp [hnone, before]
  · simp only [String.isEmpty_iff, hnone, if_false, false_or, before]
    rw [hcertified, hbefore, firstByName_concat]
    simp only [mem_map_firstByName]
    rfl

theorem mounts_certified (template : CapabilityTemplate) (context : FleetContext)
    (properties : CapabilityProperties) :
    template.mounts properties context.tlsSecret? =
      template.mounts properties none ++ certificateMounts context.tlsSecretName := by
  rw [CapabilityTemplate.mounts, CapabilityTemplate.mounts, FleetContext.tlsSecret?,
    certificateMounts]
  by_cases hnone : context.tlsSecretName = "" <;> simp [hnone]

theorem container_instantiate (template : CapabilityTemplate) (context : FleetContext)
    (properties : CapabilityProperties) (tlsSecretName : String) :
    let certified := { context with tlsSecretName := tlsSecretName }
    let container := (template.instantiate context properties none).container
    (template.instantiate certified properties certified.tlsSecret?).container =
      { container with
        volumeMounts := container.volumeMounts ++ certificateMounts tlsSecretName } := by
  intro certified container
  exact congrArg (fun mounts => { container with volumeMounts := mounts })
    (mounts_certified template certified properties)

/-- The container of a gateway of one capability, with the certificate, stands in the merged gateway
between those of the capabilities before and after it in the list, and so do its init containers;
where there are none before and after, the volumes are the same but for the certificate. -/
theorem legacy_agrees_with_merged {spec : LegacyCapabilitySpec} {asked : ActiveGateSpec}
    {before after : List CapabilityKind} {merged : GatewayDescriptor}
    (hkind : variant.kind? = some kind) (hsection : fleet.legacySection? variant = some spec)
    (henabled : spec.enabled = true) (hproperties : asked.properties = spec.properties)
    (himage : asked.image = fleet.spec.activeGate.image)
    (hcapabilities : asked.capabilities = before ++ kind :: after)
    (hmerged : compose (fleet.withActiveGate asked) registry operatorVersion = .ok merged) :
    ∃ legacy container first last,
      ofVariant fleet registry operatorVersion variant = .ok legacy ∧
      legacy.containers = [container] ∧
      compose (fleet.withActiveGate { asked with capabilities := before }) registry
        operatorVersion = .ok first ∧
      compose (fleet.withActiveGate { asked with capabilities := after }) registry
        operatorVersion = .ok last ∧
      first.containers.length = before.length ∧
      merged.containers = first.containers ++
        { container with
          volumeMounts := container.volumeMounts ++ certificateMounts asked.tlsSecretName } ::
        last.containers ∧
      merged.initContainers = first.initContainers ++ legacy.initContainers ++
        last.initContainers ∧
      (before = [] → after = [] → merged.volumes = legacy.volumes ++
        if asked.tlsSecretName = "" ∨ tlsVolume ∈ legacy.volumes.map (·.name) then []
        else [.fromSecret tlsVolume asked.tlsSecretName]) := by
  have hwanted : (fleet.withActiveGate asked).spec.activeGate.capabilities ≠ [] := by
    show asked.capabilities ≠ []
    simp [hcapabilities]
  obtain ⟨context, templates, hcontext, hselect, rfl⟩ := exists_of_compose_eq_ok hwanted hmerged
  have hselect : registry.select [] asked.capabilities = .ok templates := hselect
  rw [hcapabilities] at hselect
  obtain ⟨first, template, last, rfl, hfirst, hget, hlast⟩ :=
    TemplateRegistry.exists_select_around hselect
  -- The merged gateways of the two parts of the list are composed in the context of the whole.
  have hcontexts (kinds : List CapabilityKind) :
      FleetContext.ofFleet (fleet.withActiveGate { asked with capabilities := kinds })
          operatorVersion =
        (FleetContext.ofFleet fleet operatorVersion).map
          ({ · with tlsSecretName := asked.tlsSecretName }) := ofFleet_withActiveGate himage
  rw [ofFleet_withActiveGate himage] at hcontext
  cases hbase : FleetContext.ofFleet fleet operatorVersion with
  | error e =>
      rw [hbase] at hcontext
      cases hcontext
  | ok base =>
      rw [hbase] at hcontext hcontexts
      obtain rfl := Except.ok.inj hcontext
      obtain ⟨old, hold, hcontainers, hinit, hvolumes⟩ := legacy_eq_ok hget henabled hbase
      rw [← hproperties] at hcontainers hinit hvolumes
      obtain ⟨head, hhead, hheadContainers, hheadInit⟩ := exists_compose (hcontexts before) hfirst
      obtain ⟨tail, htail, htailContainers, htailInit⟩ := exists_compose (hcontexts after) hlast
      refine ⟨old, _, head, tail, ?_, hcontainers, hhead, htail, ?_, ?_, ?_, ?_⟩
      · rw [ofVariant_eq_legacy hkind, hsection]
        exact hold
      · rw [hheadContainers, List.length_map]
        exact (TemplateRegistry.select_eq_ok_iff.1 hfirst).1.length_eq
      · rw [containers_ofTemplates, List.map_append, List.map_cons, hheadContainers,
          htailContainers, ← container_instantiate]
        rfl
      · rw [initContainers_ofTemplates, List.flatMap_append, List.flatMap_cons, hheadInit,
          htailInit, hinit, List.append_assoc]
        rfl
      · rintro rfl rfl
        obtain rfl := Except.ok.inj hfirst
        obtain rfl := Except.ok.inj hlast
        rw [hvolumes]
        exact (volumes_ofTemplates_singleton _ _ template).trans (assembleVolumes_certified _ _ _ _)

/-- The sample fleet, with a gateway of its own for monitoring. -/
def monitoredFleet : Fleet :=
  { sampleFleet with spec := { sampleFleet.spec with
    kubernetesMonitoring := some ⟨true, "", sampleFleet.spec.activeGate.properties⟩ } }

/-- A merged gateway that monitors as well, between two other capabilities. -/
def monitoringGate : ActiveGateSpec :=
  ⟨[.dataIngest, .kubernetesMonitoring, .routing], "gateway-cert", "",
    sampleFleet.spec.activeGate.properties⟩

theorem legacy_agrees_with_monitoringGate :
    ∃ merged legacy container first last,
      compose (monitoredFleet.withActiveGate monitoringGate) .builtin "1.0.0" = .ok merged ∧
      ofVariant monitoredFleet .builtin "1.0.0" .legacyKubernetesMonitoring = .ok legacy ∧
      legacy.containers = [container] ∧ first.length = 1 ∧
      merged.containers = first ++
        { container with
          volumeMounts := container.volumeMounts ++ [.whole tlsVolume tlsPath true] } :: last := by
  obtain ⟨merged, hmerged⟩ : ∃ merged,
      compose (monitoredFleet.withActiveGate monitoringGate) .builtin "1.0.0" = .ok merged :=
    ⟨_, rfl⟩
  obtain ⟨legacy, container, first, last, hlegacy, hcontainer, -, -, hlength, hcontainers, -⟩ :=
    @legacy_agrees_with_merged monitoredFleet .builtin "1.0.0" .legacyKubernetesMonitoring
      .kubernetesMonitoring ⟨true, "", sampleFleet.spec.activeGate.properties⟩ monitoringGate
      [.dataIngest] [.routing] merged rfl rfl rfl rfl rfl rfl hmerged
  exact ⟨merged, legacy, container, _, _, hmerged, hlegacy, hcontainer, hlength, hcontainers⟩

end GatewayDescriptor

end FleetOperator
