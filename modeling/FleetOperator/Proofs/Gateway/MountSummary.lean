import FleetOperator.Proofs.Gateway.Mounts

/-!
# The mounts of a gateway, listed once

A gateway lists the mounts of its containers. For the merged gateway the list
is taken once by name, the first mount of each name in the order in which the
names come (`listsOnce_firstByName`). A gateway of one capability lists the
mounts of its one container as they are, so a template that mounts a volume at
two places, or one under the name of declared custom properties, has that name
listed twice (`routing_lists_a_volume_twice`). Where no template does that,
both lists are the same.
-/

namespace FleetOperator

/-! ## Lists taken once by name -/

section

variable {α : Type} {name : α → String} {items summary : List α}

/-- A list with the first item of each name, in the order in which the names come. -/
structure ListsOnce (name : α → String) (summary items : List α) : Prop where
  nodup : (summary.map name).Nodup
  mem_iff : ∀ wanted, wanted ∈ summary.map name ↔ wanted ∈ items.map name
  order : (summary.map name).Pairwise fun earlier later =>
    (items.map name).idxOf earlier < (items.map name).idxOf later
  first : ∀ item ∈ summary, items.find? (name · == name item) = some item

theorem pairwise_idxOf_firstByName (items : List α) :
    ((firstByName name items).map name).Pairwise fun earlier later =>
      (items.map name).idxOf earlier < (items.map name).idxOf later := by
  induction items with
  | nil => exact .nil
  | cons first rest ih =>
      have hne {wanted : String} (hmem : wanted ∈
          ((firstByName name rest).filter fun other => name other != name first).map name) :
          wanted ≠ name first := by
        obtain ⟨other, hother, rfl⟩ := List.mem_map.1 hmem
        exact bne_iff_ne.1 (List.mem_filter.1 hother).2
      rw [firstByName, List.map_cons, List.map_cons, List.pairwise_cons]
      constructor
      · intro wanted hmem
        rw [List.idxOf_cons_self, List.idxOf_cons_ne _ (hne hmem).symm]
        exact Nat.succ_pos _
      · refine (ih.sublist (List.filter_sublist.map name)).imp_of_mem ?_
        intro earlier later hearlier hlater hlt
        rw [List.idxOf_cons_ne _ (hne hearlier).symm, List.idxOf_cons_ne _ (hne hlater).symm]
        exact Nat.succ_lt_succ hlt

theorem find?_of_mem_firstByName {item : α} (hmem : item ∈ firstByName name items) :
    items.find? (name · == name item) = some item := by
  have hfilter : item ∈ (firstByName name items).filter (name · == name item) :=
    List.mem_filter.2 ⟨hmem, beq_self_eq_true _⟩
  rw [filter_firstByName] at hfilter
  exact Option.mem_toList.1 hfilter

theorem listsOnce_firstByName (items : List α) : ListsOnce name (firstByName name items) items where
  nodup := nodup_map_firstByName items
  mem_iff _ := mem_map_firstByName
  order := pairwise_idxOf_firstByName items
  first _ := find?_of_mem_firstByName

/-- A list lists itself once if no name comes twice in it. -/
theorem listsOnce_self_iff : ListsOnce name items items ↔ (items.map name).Nodup := by
  refine ⟨fun h => h.nodup, fun h => ?_⟩
  have hfirst : ListsOnce name (firstByName name items) items := listsOnce_firstByName items
  rwa [firstByName_of_nodup h] at hfirst

end

/-! ## Gateways -/

/-- A template that mounts each volume at one place, and none under the name of custom properties
that are declared. -/
structure CapabilityTemplate.MountsOnce (template : CapabilityTemplate)
    (properties : CapabilityProperties) : Prop where
  nodup : (template.volumeMounts.map (·.name)).Nodup
  fresh : properties.declaredCustomProperties?.isSome = true →
    customPropertiesVolume ∉ template.volumeMounts.map (·.name)

theorem CapabilityTemplate.nodup_map_mounts_iff {template : CapabilityTemplate}
    {properties : CapabilityProperties} :
    ((template.mounts properties none).map (·.name)).Nodup ↔ template.MountsOnce properties := by
  have hmounts : template.MountsOnce properties ↔ (template.volumeMounts.map (·.name)).Nodup ∧
      (properties.declaredCustomProperties?.isSome = true →
        customPropertiesVolume ∉ template.volumeMounts.map (·.name)) :=
    ⟨fun h => ⟨h.nodup, h.fresh⟩, fun h => ⟨h.1, h.2⟩⟩
  rw [hmounts, mounts]
  by_cases hdeclared : properties.declaredCustomProperties?.isSome = true
  · simp [hdeclared, VolumeMount.file, and_comm]
  · simp [hdeclared]

namespace GatewayDescriptor

variable {fleet : Fleet} {registry : TemplateRegistry} {operatorVersion : String}
  {variant : GatewayVariant} {gateway : GatewayDescriptor}

/-- The mounts of the containers of a gateway, one container after another. -/
def mounts (gateway : GatewayDescriptor) : List VolumeMount :=
  gateway.containers.flatMap (·.volumeMounts)

theorem volumeMounts_of_compose (h : compose fleet registry operatorVersion = .ok gateway) :
    gateway.volumeMounts = firstByName (·.name) gateway.mounts := by
  by_cases hwanted : fleet.spec.activeGate.capabilities = []
  · have hnone : ¬ fleet.wantsMergedGateway = true := by simp [Fleet.wantsMergedGateway, hwanted]
    rw [compose, if_neg hnone] at h
    obtain rfl := Except.ok.inj h
    rfl
  · obtain ⟨context, templates, -, -, rfl⟩ := exists_of_compose_eq_ok hwanted h
    simp only [mounts, ofTemplates, List.flatMap_map]

theorem volumeMounts_of_legacy {kind : CapabilityKind} {asked : Option LegacyCapabilitySpec}
    (h : legacy fleet registry operatorVersion kind variant asked = .ok gateway) :
    gateway.volumeMounts = gateway.mounts := by
  rw [legacy] at h
  cases hget : registry.get? kind with
  | none => simp [hget] at h
  | some template =>
      rw [hget] at h
      dsimp only at h
      split at h
      · obtain rfl := Except.ok.inj h
        rfl
      · next spec hasked =>
          obtain ⟨context, -, h⟩ := Except.exists_of_bind_eq_ok h
          obtain rfl := Except.ok.inj h
          exact (List.append_nil _).symm

/-- The mounts of a gateway of one capability are those of its one template. -/
theorem exists_mounts_of_legacy {kind : CapabilityKind} (hkind : variant.kind? = some kind)
    (hgateway : ofVariant fleet registry operatorVersion variant = .ok gateway)
    (henabled : gateway.enabled = true) :
    ∃ template, registry.templatesOf (fleet.capabilitiesOf variant) = [template] ∧
      gateway.mounts = template.mounts (fleet.propertiesOf variant) none := by
  obtain ⟨context, hcontext, hcomposed⟩ := exists_composedFrom_of_ofVariant hgateway henabled
  obtain ⟨hvariant, hproperties⟩ := asked_ofVariant hgateway
  have hcertificate : fleet.certificateOf variant = none := by
    cases variant with
    | multi => cases hkind
    | legacyKubernetesMonitoring | legacyRouting => rfl
  have hkinds : fleet.capabilitiesOf variant = [kind] := by
    cases variant with
    | multi => cases hkind
    | legacyKubernetesMonitoring | legacyRouting =>
        obtain rfl := Option.some.inj hkind
        rfl
  have hcontainers := hcomposed.containers
  have hsome := hcomposed.templates_ne_nil
  rw [hproperties, certificate?_eq hcontext hvariant, hcertificate] at hcontainers
  rw [hkinds] at hcontainers hsome ⊢
  cases hget : registry.get? kind with
  | none => exact absurd (List.filterMap_cons_none hget) hsome
  | some template =>
      have htemplates : registry.templatesOf [kind] = [template] :=
        List.filterMap_cons_some hget
      refine ⟨template, htemplates, ?_⟩
      rw [mounts, hcontainers, htemplates]
      exact List.append_nil _

/-- A gateway that should exist lists every name that one of its containers mounts, and no other.
It lists the first mount of each name, once and in the order of the names, exactly if it is the
merged one or its template mounts each volume at one place, and none under the name of custom
properties that are declared. -/
theorem mounts_listed_once_iff
    (hgateway : ofVariant fleet registry operatorVersion variant = .ok gateway)
    (henabled : gateway.enabled = true) :
    (∀ wanted, wanted ∈ gateway.volumeMounts.map (·.name) ↔
      ∃ container ∈ gateway.containers, wanted ∈ container.volumeMounts.map (·.name)) ∧
    (ListsOnce (·.name) gateway.volumeMounts gateway.mounts ↔
      variant = .multi ∨ ∀ template ∈ registry.templatesOf (fleet.capabilitiesOf variant),
        template.MountsOnce (fleet.propertiesOf variant)) := by
  have hmounted (wanted : String) : wanted ∈ gateway.mounts.map (·.name) ↔
      ∃ container ∈ gateway.containers, wanted ∈ container.volumeMounts.map (·.name) := by
    simp only [mounts, List.map_flatMap, List.mem_flatMap]
  cases hkind : variant.kind? with
  | none =>
      cases variant with
      | legacyKubernetesMonitoring | legacyRouting => cases hkind
      | multi =>
          rw [volumeMounts_of_compose hgateway]
          exact ⟨fun wanted => mem_map_firstByName.trans (hmounted wanted),
            fun _ => .inl rfl, fun _ => listsOnce_firstByName gateway.mounts⟩
  | some kind =>
      have hmulti : variant ≠ .multi := by
        rintro rfl
        cases hkind
      obtain ⟨template, htemplates, hmounts⟩ := exists_mounts_of_legacy hkind hgateway henabled
      rw [ofVariant_eq_legacy hkind] at hgateway
      rw [volumeMounts_of_legacy hgateway]
      refine ⟨hmounted, ?_⟩
      rw [listsOnce_self_iff, hmounts, CapabilityTemplate.nodup_map_mounts_iff, htemplates]
      simp [hmulti]

/-- The built-in templates, but the one for routing mounts a volume of its own at two places. -/
def twiceMountingRegistry : TemplateRegistry :=
  TemplateRegistry.builtin.insert .routing
    { CapabilityTemplate.routing with
      volumeMounts := [.whole "scratch" "/scratch" false, .whole "scratch" "/tmp" false]
      volumes := [.fromEmptyDir "scratch"] }

/-- A fleet with both a merged gateway for routing and a gateway of its own for it. -/
def routingFleet : Fleet :=
  { sampleFleet with spec := { sampleFleet.spec with
    activeGate := ⟨[.routing], "", "", .none⟩
    routing := some ⟨true, "", .none⟩ } }

/-- The merged gateway lists the volume of such a template once. -/
theorem merged_lists_a_volume_once :
    ∃ gateway, ofVariant routingFleet twiceMountingRegistry "1.0.0" .multi = .ok gateway ∧
      gateway.enabled = true ∧
      gateway.mounts.map (·.mountPath) = ["/scratch", "/tmp"] ∧
      gateway.volumeMounts.map (·.mountPath) = ["/scratch"] ∧
      ListsOnce (·.name) gateway.volumeMounts gateway.mounts := by
  obtain ⟨gateway, hgateway, henabled, hmounts, hlisted⟩ : ∃ gateway,
      ofVariant routingFleet twiceMountingRegistry "1.0.0" .multi = .ok gateway ∧
      gateway.enabled = true ∧ gateway.mounts.map (·.mountPath) = ["/scratch", "/tmp"] ∧
      gateway.volumeMounts.map (·.mountPath) = ["/scratch"] :=
    ⟨_, rfl, rfl, rfl, rfl⟩
  obtain ⟨-, hiff⟩ := mounts_listed_once_iff hgateway henabled
  exact ⟨gateway, hgateway, henabled, hmounts, hlisted, hiff.2 (.inl rfl)⟩

/-- The gateway that only routes lists it twice. -/
theorem routing_lists_a_volume_twice :
    ∃ gateway, ofVariant routingFleet twiceMountingRegistry "1.0.0" .legacyRouting = .ok gateway ∧
      gateway.enabled = true ∧ gateway.volumeMounts.map (·.name) = ["scratch", "scratch"] ∧
      ¬ ListsOnce (·.name) gateway.volumeMounts gateway.mounts := by
  refine ⟨_, rfl, rfl, rfl, fun h => absurd h.nodup ?_⟩
  decide

end GatewayDescriptor

end FleetOperator
