import FleetOperator.Proofs.Capability.Legacy

/-!
# A list of capabilities in two parts

The merged gateway of two lists, one after the other, is made of the gateways
of the two. Each of its parts is collected over the list in its own way:
containers one by one, flags and owner by `Configuration.merge`, mounts and
volumes with the first of each name. Every one of these collections can be
cut anywhere. For the configurations that is the law of a monoid
(`merge_assoc`), for what is taken once by name it is `firstByName_append`:
of the second part exactly those are left whose names the first part does not
have.

The volumes agree in their names only. The secret with the custom properties
is named after the owner of the whole list, which need not be that of a part.
-/

namespace FleetOperator

/-! ## Configurations -/

namespace Configuration

theorem merge_assoc (first second third : Configuration) :
    (first.merge second).merge third = first.merge (second.merge third) := by
  simp only [merge, Bool.or_assoc, mk.injEq, true_and]
  by_cases hthird : third.serviceAccountOwner.isEmpty = true
  · simp only [hthird, if_true]
  · simp only [hthird, Bool.false_eq_true, if_false]

theorem none_merge (configuration : Configuration) : none.merge configuration = configuration := by
  have howner := GatewayDescriptor.serviceAccountOwner_merge_none configuration
  cases configuration
  simp only [merge, none, Bool.false_or, mk.injEq, true_and] at howner ⊢
  exact howner

theorem merge_none (configuration : Configuration) : configuration.merge none = configuration := by
  cases configuration
  simp [merge, none]

instance : Std.Associative merge := ⟨merge_assoc⟩

/-- What the modules of two lists need, one after the other. -/
theorem foldl_merge_append (first second : List Configuration) :
    (first ++ second).foldl merge none =
      (first.foldl merge none).merge (second.foldl merge none) := by
  have hassoc : second.foldl merge ((first.foldl merge none).merge none) =
      (first.foldl merge none).merge (second.foldl merge none) := List.foldl_assoc
  rw [List.foldl_append, ← hassoc, merge_none]

end Configuration

/-! ## Lists without repeated names -/

section

variable {α : Type} {name : α → String}

theorem nodup_map_firstByName (items : List α) : ((firstByName name items).map name).Nodup := by
  induction items with
  | nil => exact List.nodup_nil
  | cons first rest ih =>
      rw [firstByName, List.map_cons, List.nodup_cons]
      refine ⟨fun hmem => ?_, ih.sublist ((List.filter_sublist).map name)⟩
      obtain ⟨other, hother, hsame⟩ := List.mem_map.1 hmem
      exact bne_iff_ne.1 (List.mem_filter.1 hother).2 hsame

/-- A list without repeated names is taken as it is. -/
theorem firstByName_of_nodup {items : List α} (h : (items.map name).Nodup) :
    firstByName name items = items := by
  induction items with
  | nil => rfl
  | cons first rest ih =>
      obtain ⟨hfirst, hrest⟩ := List.nodup_cons.1 h
      rw [firstByName, ih hrest, List.filter_eq_self.2]
      intro other hother
      exact bne_iff_ne.2 fun hsame => hfirst (List.mem_map.2 ⟨other, hother, hsame⟩)

/-- Of a second list those are taken whose names the first one does not have. -/
theorem firstByName_append (first second : List α) :
    firstByName name (first ++ second) =
      firstByName name first ++
        (firstByName name second).filter fun item => decide (name item ∉ first.map name) := by
  induction first with
  | nil => simp [firstByName]
  | cons item rest ih =>
      rw [List.cons_append, firstByName, firstByName, ih, List.filter_append, List.filter_filter,
        List.cons_append]
      have hnames (other : α) :
          (name other != name item && decide (name other ∉ rest.map name)) =
            decide (name other ∉ (item :: rest).map name) := by
        rw [List.map_cons, Bool.eq_iff_iff]
        simp only [Bool.and_eq_true, bne_iff_ne, decide_eq_true_eq, List.mem_cons, not_or]
      simp only [hnames]

/-- It makes no difference whether the parts of a list have repeated names. -/
theorem firstByName_append_firstByName (first second : List α) :
    firstByName name (firstByName name first ++ firstByName name second) =
      firstByName name (first ++ second) := by
  rw [firstByName_append, firstByName_append, firstByName_of_nodup (nodup_map_firstByName first),
    firstByName_of_nodup (nodup_map_firstByName second)]
  simp only [mem_map_firstByName]

end

/-! ## Gateways -/

/-- The fleet with other capabilities in its merged gateway. -/
def Fleet.withCapabilities (fleet : Fleet) (capabilities : List CapabilityKind) : Fleet :=
  fleet.withActiveGate { fleet.spec.activeGate with capabilities := capabilities }

/-- The volumes that a pod has whatever its templates are. -/
def commonVolumes (properties : CapabilityProperties) (tlsSecret : Option String) : List String :=
  (if properties.declaredCustomProperties?.isSome then [customPropertiesVolume] else []) ++
    if tlsSecret.isSome then [tlsVolume] else []

theorem mem_map_assembleVolumes {context : FleetContext} {properties : CapabilityProperties}
    {owner : String} {volumes : List Volume} {tlsSecret : Option String} {wanted : String} :
    wanted ∈ (assembleVolumes context properties owner volumes tlsSecret).map (·.name) ↔
      wanted ∈ commonVolumes properties tlsSecret ∨ wanted ∈ volumes.map (·.name) := by
  rw [assembleVolumes.eq_def, mem_map_firstByName, commonVolumes]
  cases properties.declaredCustomProperties? <;> cases tlsSecret <;>
    simp [Volume.fromSecretKey, Volume.fromSecret, or_comm, or_assoc]

theorem nodup_map_assembleVolumes (context : FleetContext) (properties : CapabilityProperties)
    (owner : String) (volumes : List Volume) (tlsSecret : Option String) :
    ((assembleVolumes context properties owner volumes tlsSecret).map (·.name)).Nodup :=
  nodup_map_firstByName _

namespace GatewayDescriptor

/-- A gateway that is put together from two others, one after the other. -/
structure MergedFrom (merged first second : GatewayDescriptor) : Prop where
  containers : merged.containers = first.containers ++ second.containers
  initContainers : merged.initContainers = first.initContainers ++ second.initContainers
  capabilityName : merged.capabilityName =
    first.capabilityName ++ "," ++ second.capabilityName
  configuration : merged.configuration = first.configuration.merge second.configuration
  /-- Of the mounts of one name the first is taken. -/
  volumeMounts : merged.volumeMounts =
    firstByName (·.name) (first.volumeMounts ++ second.volumeMounts)
  /-- Each volume of either is there once, and no other. -/
  volumes : ∀ name, (merged.volumes.map (·.name)).count name =
    if name ∈ first.volumes.map (·.name) ∨ name ∈ second.volumes.map (·.name) then 1 else 0

section

variable (context : FleetContext) (properties : CapabilityProperties)
  (templates : List CapabilityTemplate)

theorem configuration_ofTemplates :
    (ofTemplates context properties templates).configuration =
      (templates.map (·.configuration)).foldl Configuration.merge .none := by
  rw [List.foldl_map]
  rfl

theorem volumeMounts_ofTemplates :
    (ofTemplates context properties templates).volumeMounts =
      firstByName (·.name) (templates.flatMap fun template =>
        template.mounts properties context.tlsSecret?) := by
  simp only [ofTemplates, List.flatMap_map, CapabilityTemplate.instantiate]

theorem mem_map_volumes_ofTemplates {wanted : String} :
    wanted ∈ (ofTemplates context properties templates).volumes.map (·.name) ↔
      wanted ∈ commonVolumes properties context.tlsSecret? ∨
        wanted ∈ (templates.flatMap (·.volumes)).map (·.name) := by
  refine mem_map_assembleVolumes.trans ?_
  simp only [List.flatMap_map, CapabilityTemplate.instantiate]

theorem nodup_map_volumes_ofTemplates :
    ((ofTemplates context properties templates).volumes.map (·.name)).Nodup :=
  nodup_map_assembleVolumes _ _ _ _ _

end

/-- The gateway of templates in two parts. -/
theorem mergedFrom_ofTemplates (context : FleetContext) (properties : CapabilityProperties)
    {first second : List CapabilityTemplate} (hfirst : first ≠ []) (hsecond : second ≠ []) :
    (ofTemplates context properties (first ++ second)).MergedFrom
      (ofTemplates context properties first) (ofTemplates context properties second) where
  containers := by
    rw [containers_ofTemplates, containers_ofTemplates, containers_ofTemplates, List.map_append]
  initContainers := by
    rw [initContainers_ofTemplates, initContainers_ofTemplates, initContainers_ofTemplates,
      List.flatMap_append]
  capabilityName := by
    have hnames : (ofTemplates context properties (first ++ second)).capabilityName =
        ",".intercalate (first.map (·.capabilityName) ++ second.map (·.capabilityName)) := by
      rw [← List.map_append]
      rfl
    rw [hnames, String.intercalate_append_of_ne_nil (by simpa using hfirst)
      (by simpa using hsecond)]
    rfl
  configuration := by
    rw [configuration_ofTemplates, configuration_ofTemplates, configuration_ofTemplates,
      List.map_append, Configuration.foldl_merge_append]
  volumeMounts := by
    rw [volumeMounts_ofTemplates, volumeMounts_ofTemplates, volumeMounts_ofTemplates,
      List.flatMap_append, firstByName_append_firstByName]
  volumes name := by
    rw [(nodup_map_volumes_ofTemplates _ _ _).count]
    refine if_congr ?_ rfl rfl
    rw [mem_map_volumes_ofTemplates, mem_map_volumes_ofTemplates, mem_map_volumes_ofTemplates,
      List.flatMap_append, List.map_append, List.mem_append, or_or_distrib_left]

variable {fleet : Fleet} {registry : TemplateRegistry} {operatorVersion : String}

/-- The merged gateway of a list that is not empty. -/
theorem compose_withCapabilities_eq_ok_iff {capabilities : List CapabilityKind}
    (hwanted : capabilities ≠ []) {gateway : GatewayDescriptor} :
    compose (fleet.withCapabilities capabilities) registry operatorVersion = .ok gateway ↔
      ∃ context templates, FleetContext.ofFleet fleet operatorVersion = .ok context ∧
        registry.select [] capabilities = .ok templates ∧
        gateway = ofTemplates context fleet.spec.activeGate.properties templates := by
  constructor
  · exact exists_of_compose_eq_ok hwanted
  · rintro ⟨context, templates, hcontext, hselect, rfl⟩
    have hwants : (fleet.withCapabilities capabilities).wantsMergedGateway = true := by
      simpa [Fleet.wantsMergedGateway, Fleet.withCapabilities, Fleet.withActiveGate] using hwanted
    have hsame : FleetContext.ofFleet (fleet.withCapabilities capabilities) operatorVersion =
        .ok context := hcontext
    rw [compose, if_pos hwants, hsame, Except.ok_bind_eq]
    exact congrArg (· >>= _) hselect

theorem ne_nil_of_select {capabilities : List CapabilityKind} {seen : List String}
    {templates : List CapabilityTemplate} (hselect : registry.select seen capabilities =
      .ok templates) (hwanted : capabilities ≠ []) : templates ≠ [] := by
  have hlength := (TemplateRegistry.select_eq_ok_iff.1 hselect).1.length_eq
  rintro rfl
  exact hwanted (List.length_eq_zero_iff.1 hlength.symm)

/-- Where the capabilities of a list can be merged, those of each part of it can, and the gateway
of the list is put together from the gateways of the parts. The configurations are a monoid. -/
theorem compose_append {first second : List CapabilityKind} {merged : GatewayDescriptor}
    (hfirst : first ≠ []) (hsecond : second ≠ [])
    (hmerged : compose (fleet.withCapabilities (first ++ second)) registry operatorVersion =
      .ok merged) :
    (∃ left right,
      compose (fleet.withCapabilities first) registry operatorVersion = .ok left ∧
      compose (fleet.withCapabilities second) registry operatorVersion = .ok right ∧
      merged.MergedFrom left right) ∧
    (∀ a b c : Configuration, (a.merge b).merge c = a.merge (b.merge c)) ∧
    ∀ a : Configuration, Configuration.none.merge a = a ∧ a.merge .none = a := by
  refine ⟨?_, Configuration.merge_assoc, fun a => ⟨a.none_merge, a.merge_none⟩⟩
  obtain ⟨context, templates, hcontext, hselect, rfl⟩ :=
    (compose_withCapabilities_eq_ok_iff (by simp [hfirst])).1 hmerged
  obtain ⟨head, tail, rfl, hhead, htail⟩ := TemplateRegistry.exists_select_of_append hselect
  refine ⟨ofTemplates context fleet.spec.activeGate.properties head,
    ofTemplates context fleet.spec.activeGate.properties tail,
    (compose_withCapabilities_eq_ok_iff hfirst).2 ⟨context, head, hcontext, hhead, rfl⟩,
    (compose_withCapabilities_eq_ok_iff hsecond).2 ⟨context, tail, hcontext, htail, rfl⟩, ?_⟩
  exact mergedFrom_ofTemplates context fleet.spec.activeGate.properties
    (ne_nil_of_select hhead hfirst) (ne_nil_of_select htail hsecond)

/-- All three capabilities, of which the second brings the owner and a volume, cut before it. -/
theorem compose_append_sample :
    ∃ merged left right,
      compose (sampleFleet.withCapabilities ([.dataIngest] ++ [.kubernetesMonitoring, .routing]))
        .builtin "1.0.0" = .ok merged ∧
      compose (sampleFleet.withCapabilities [.dataIngest]) .builtin "1.0.0" = .ok left ∧
      compose (sampleFleet.withCapabilities [.kubernetesMonitoring, .routing]) .builtin "1.0.0" =
        .ok right ∧
      merged.MergedFrom left right ∧ merged.containers.length = 3 := by
  obtain ⟨merged, hmerged, hlength⟩ : ∃ merged,
      compose (sampleFleet.withCapabilities ([.dataIngest] ++ [.kubernetesMonitoring, .routing]))
        .builtin "1.0.0" = .ok merged ∧ merged.containers.length = 3 := ⟨_, rfl, rfl⟩
  obtain ⟨⟨left, right, hleft, hright, hfrom⟩, -⟩ :=
    compose_append (List.cons_ne_nil _ _) (List.cons_ne_nil _ _) hmerged
  exact ⟨merged, left, right, hmerged, hleft, hright, hfrom, hlength⟩

end GatewayDescriptor

end FleetOperator
