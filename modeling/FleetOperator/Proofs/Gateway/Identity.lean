import FleetOperator.Proofs.Gateway.Slots

/-!
# Under which key a gateway is built

The object of a gateway is named after the fleet and the module. The merged
gateway has a module name of its own, a gateway of one capability has that of
its template, so three different module names make three different keys
(`distinctKeys_of_all`). Adjustments that keep names keep the key.

Whether there is a desired object at all does not depend on the version of
the cluster: a fleet that can own objects, and whose secrets are there, has
one (`desiredResult_eq`).
-/

namespace FleetOperator

/-! ## Module names -/

theorem moduleName_compose {fleet : Fleet} {registry : TemplateRegistry} {operatorVersion : String}
    {gateway : GatewayDescriptor}
    (h : GatewayDescriptor.compose fleet registry operatorVersion = .ok gateway) :
    gateway.moduleName = GatewayDescriptor.multiModule := by
  unfold GatewayDescriptor.compose at h
  dsimp only at h
  split at h
  · cases hcontext : FleetContext.ofFleet fleet operatorVersion with
    | error e =>
        rw [hcontext] at h
        cases h
    | ok context =>
        rw [hcontext] at h
        cases hselect : registry.select [] fleet.spec.activeGate.capabilities with
        | error e =>
            simp only [hselect] at h
            cases h
        | ok templates =>
            simp only [hselect] at h
            obtain rfl := Except.ok.inj h
            rfl
  · obtain rfl := Except.ok.inj h
    rfl

theorem moduleName_legacy {fleet : Fleet} {registry : TemplateRegistry} {operatorVersion : String}
    {kind : CapabilityKind} {variant : GatewayVariant} {asked : Option LegacyCapabilitySpec}
    {gateway : GatewayDescriptor} {template : CapabilityTemplate}
    (htemplate : registry.get? kind = some template)
    (h : GatewayDescriptor.legacy fleet registry operatorVersion kind variant asked =
      .ok gateway) : gateway.moduleName = template.moduleName := by
  unfold GatewayDescriptor.legacy at h
  rw [htemplate] at h
  dsimp only at h
  split at h
  · obtain rfl := Except.ok.inj h
    rfl
  · cases hcontext : FleetContext.ofFleet fleet operatorVersion with
    | error e =>
        rw [hcontext] at h
        cases h
    | ok context =>
        rw [hcontext] at h
        obtain rfl := Except.ok.inj h
        rfl

theorem key_ne_of_moduleName_ne {gateway other : GatewayDescriptor}
    (h : gateway.moduleName ≠ other.moduleName) (base : WorkloadMeta) :
    gateway.key base ≠ other.key base := by
  intro hkey
  have hname := congrArg ObjectKey.name hkey
  exact h ((String.append_right_inj _).1 hname)

theorem Except.ok_bind_eq {ε α β : Type} (a : α) (next : α → Except ε β) :
    (Except.ok a >>= next) = next a := rfl

theorem Except.exists_of_bind_eq_ok {ε α β : Type} {value : Except ε α} {next : α → Except ε β}
    {result : β} (h : (value >>= next) = .ok result) :
    ∃ a, value = .ok a ∧ next a = .ok result := by
  cases value with
  | error e => cases h
  | ok a => exact ⟨a, rfl, h⟩

/-- Three different module names keep the gateways of a fleet apart. -/
theorem distinctKeys_of_all {fleet : Fleet} {registry : TemplateRegistry}
    {operatorVersion : String} {gateways : List GatewayDescriptor}
    (hall : GatewayDescriptor.all fleet registry operatorVersion = .ok gateways)
    {monitoring routing : CapabilityTemplate}
    (hmonitoring : registry.get? .kubernetesMonitoring = some monitoring)
    (hrouting : registry.get? .routing = some routing)
    (hne : monitoring.moduleName ≠ routing.moduleName)
    (hmonitoringNe : monitoring.moduleName ≠ GatewayDescriptor.multiModule)
    (hroutingNe : routing.moduleName ≠ GatewayDescriptor.multiModule) (base : WorkloadMeta) :
    DistinctKeys base gateways := by
  obtain ⟨multi, hmulti, hall⟩ := Except.exists_of_bind_eq_ok hall
  obtain ⟨kubemon, hkubemon, hall⟩ := Except.exists_of_bind_eq_ok hall
  obtain ⟨router, hrouter, hall⟩ := Except.exists_of_bind_eq_ok hall
  obtain rfl := Except.ok.inj hall
  have hmulti := moduleName_compose hmulti
  have hkubemon := moduleName_legacy hmonitoring hkubemon
  have hrouter := moduleName_legacy hrouting hrouter
  have hfirst : kubemon.key base ≠ multi.key base :=
    key_ne_of_moduleName_ne (by rw [hkubemon, hmulti]; exact hmonitoringNe) base
  have hsecond : router.key base ≠ multi.key base :=
    key_ne_of_moduleName_ne (by rw [hrouter, hmulti]; exact hroutingNe) base
  have hthird : router.key base ≠ kubemon.key base :=
    key_ne_of_moduleName_ne (by rw [hrouter, hkubemon]; exact hne.symm) base
  simp only [DistinctKeys, List.pairwise_cons, List.mem_cons, List.not_mem_nil, or_false,
    forall_eq_or_imp, forall_eq, false_implies, implies_true, List.Pairwise.nil, and_true]
  exact ⟨⟨hfirst, hsecond⟩, hthird⟩

/-! ## The reference to a fleet -/

theorem Fleet.ownerReference?_of_ownerOf {fleet : Fleet} {object : String}
    {owner : OwnerReference} (h : fleet.ownerOf object = .ok owner) :
    fleet.ownerReference? = some owner := by
  unfold Fleet.ownerOf at h
  split at h
  · next found hfound => rw [hfound, Except.ok.inj h]
  · cases h

theorem Fleet.of_ownerReference {fleet : Fleet} {owner : OwnerReference}
    (h : fleet.ownerReference? = some owner) :
    fleet.header.name = some owner.name ∧ fleet.header.uid = some owner.uid ∧
      owner.controller = some true := by
  unfold Fleet.ownerReference? at h
  cases hname : fleet.header.name with
  | none => simp [hname] at h
  | some name =>
      cases huid : fleet.header.uid with
      | none => simp [hname, huid] at h
      | some uid =>
          simp only [hname, huid] at h
          obtain rfl := Option.some.inj h
          exact ⟨rfl, rfl, rfl⟩

theorem Fleet.name_of_ownerReference {fleet : Fleet} {owner : OwnerReference}
    (h : fleet.ownerReference? = some owner) : owner.name = fleet.name := by
  rw [Fleet.name, ObjectHeader.nameOrGenerated, (Fleet.of_ownerReference h).1]
  rfl

/-! ## The desired object -/

/-- An adjustment that changes neither the name nor the namespace of an object. -/
def KeepsIdentity (adjust : Adjustment) : Prop :=
  ∀ workload, (adjust workload).name = workload.name ∧ (adjust workload).ns = workload.ns

/-- What each of some adjustments leaves alone, all of them do. -/
theorem foldl_adjustments_eq {α : Type} (part : StatefulSet → α) {adjustments : List Adjustment}
    (hkeep : ∀ adjust ∈ adjustments, ∀ workload, part (adjust workload) = part workload)
    (workload : StatefulSet) :
    part (adjustments.foldl (fun workload adjust => adjust workload) workload) =
      part workload := by
  induction adjustments generalizing workload with
  | nil => rfl
  | cons adjust rest ih =>
      rw [List.foldl_cons, ih fun other hmem => hkeep other (List.mem_cons_of_mem _ hmem)]
      exact hkeep adjust List.mem_cons_self workload

theorem KeepsIdentity.key_eq {adjust : Adjustment} (h : KeepsIdentity adjust)
    (workload : StatefulSet) : (adjust workload).key = workload.key := by
  obtain ⟨hname, hns⟩ := h workload
  rw [StatefulSet.key, hname, hns]
  rfl

theorem key_desired {adjustments : List Adjustment}
    (hkeep : ∀ adjust ∈ adjustments, KeepsIdentity adjust) (base : WorkloadMeta)
    (gateway : GatewayDescriptor) (hash : String) (version : ServerVersion) :
    (StatefulSet.desired base gateway hash version adjustments).key = gateway.key base :=
  foldl_adjustments_eq StatefulSet.key (fun adjust hmem => (hkeep adjust hmem).key_eq)
    (StatefulSet.plain base gateway hash version)

/-- The desired object without its hash: the built object after the adjustments. -/
def StatefulSet.adjusted (base : WorkloadMeta) (gateway : GatewayDescriptor) (hash : String)
    (version : ServerVersion) (adjustments : List Adjustment) : StatefulSet :=
  adjustments.foldl (fun workload adjust => adjust workload) (plain base gateway hash version)

/-- The hash that a desired object carries is that of the adjusted one. -/
theorem StatefulSet.templateHash?_ownedBy_desired (base : WorkloadMeta)
    (gateway : GatewayDescriptor) (hash : String) (version : ServerVersion)
    (adjustments : List Adjustment) (owner : OwnerReference) :
    ((StatefulSet.desired base gateway hash version adjustments).ownedBy owner).templateHash? =
      some (StatefulSet.adjusted base gateway hash version adjustments).contentHash :=
  SortedMap.get?_insert_self _ _ _

/-- What a fleet that can own objects wants, once the custom properties have a hash. -/
theorem desiredResult_eq {adjustments : List Adjustment} {fleet : Fleet}
    {gateway : GatewayDescriptor} {secrets : SortedMap ObjectKey SecretData} {base : WorkloadMeta}
    {owner : OwnerReference} {hash : String} (hbase : fleet.workloadMeta = .ok base)
    (howner : fleet.ownerReference? = some owner)
    (hhash : propertiesHash secrets base.ns gateway.customProperties? = .ok hash)
    (version : ServerVersion) :
    desiredResult adjustments fleet gateway secrets version =
      .ok ((StatefulSet.desired base gateway hash version adjustments).ownedBy owner) := by
  have hownerOf (object : String) : fleet.ownerOf object = .ok owner := by
    rw [Fleet.ownerOf, howner]
  have hproperties : propertiesOwner fleet base gateway = .ok () := by
    unfold propertiesOwner
    cases gateway.customProperties? with
    | none => rfl
    | some properties => simp only [hownerOf]; rfl
  simp only [desiredResult, hbase, Except.ok_bind_eq, hproperties, hhash, hownerOf]
  rfl

/-- A desired object is built from what the fleet contributes, a hash and an owner. -/
theorem exists_of_desiredResult {adjustments : List Adjustment} {fleet : Fleet}
    {gateway : GatewayDescriptor} {secrets : SortedMap ObjectKey SecretData}
    {version : ServerVersion} {desired : StatefulSet}
    (h : desiredResult adjustments fleet gateway secrets version = .ok desired) :
    ∃ base hash owner, fleet.workloadMeta = .ok base ∧ fleet.ownerReference? = some owner ∧
      propertiesHash secrets base.ns gateway.customProperties? = .ok hash ∧
      desired = (StatefulSet.desired base gateway hash version adjustments).ownedBy owner := by
  obtain ⟨base, hbase, h⟩ := Except.exists_of_bind_eq_ok h
  obtain ⟨_, -, h⟩ := Except.exists_of_bind_eq_ok h
  obtain ⟨hash, hhash, h⟩ := Except.exists_of_bind_eq_ok h
  obtain ⟨owner, howner, h⟩ := Except.exists_of_bind_eq_ok h
  exact ⟨base, hash, owner, hbase, Fleet.ownerReference?_of_ownerOf howner, hhash,
    (Except.ok.inj h).symm⟩

/-! ## Fleets that have their objects built -/

/-- The custom properties that a gateway takes from a secret are there. -/
def SecretsResolve (secrets : SortedMap ObjectKey SecretData) (ns : String)
    (gateway : GatewayDescriptor) : Prop :=
  ∀ properties secret, gateway.customProperties? = some properties →
    properties.reference? = some secret →
    ∃ bytes, secretValue ns secret customPropertiesKey (secrets.get? ⟨ns, secret⟩) = .ok bytes

theorem SecretsResolve.exists_hash {secrets : SortedMap ObjectKey SecretData} {ns : String}
    {gateway : GatewayDescriptor} (h : SecretsResolve secrets ns gateway) :
    ∃ hash, propertiesHash secrets ns gateway.customProperties? = .ok hash := by
  cases hproperties : gateway.customProperties? with
  | none => exact ⟨_, rfl⟩
  | some properties =>
      simp only [propertiesHash]
      cases hreference : properties.reference? with
      | none => exact ⟨_, rfl⟩
      | some secret =>
          obtain ⟨bytes, hbytes⟩ := h properties secret hproperties hreference
          simp only [hbytes]
          exact ⟨_, rfl⟩

theorem Fleet.exists_ownerReference {fleet : Fleet} (hname : fleet.header.name.isSome = true)
    (huid : fleet.header.uid.isSome = true) : ∃ owner, fleet.ownerReference? = some owner := by
  obtain ⟨name, hname⟩ := Option.isSome_iff_exists.1 hname
  obtain ⟨uid, huid⟩ := Option.isSome_iff_exists.1 huid
  rw [Fleet.ownerReference?, hname, huid]
  exact ⟨_, rfl⟩

/-- Such a fleet, with its secrets in place, has the object of every gateway under its key. -/
theorem Steady.serves {steady : Steady} {gateway : GatewayDescriptor}
    (hname : steady.fleet.header.name.isSome = true)
    (huid : steady.fleet.header.uid.isSome = true)
    (hkeep : ∀ adjust ∈ steady.adjustments, KeepsIdentity adjust)
    (hsecrets : gateway.enabled = true →
      SecretsResolve steady.secrets steady.base.ns gateway) : steady.Serves gateway := by
  intro henabled
  obtain ⟨owner, howner⟩ := Fleet.exists_ownerReference hname huid
  obtain ⟨hash, hhash⟩ := (hsecrets henabled).exists_hash
  exact ⟨_, desiredResult_eq steady.base_eq howner hhash steady.version,
    key_desired hkeep steady.base gateway hash steady.version⟩

/-! ## A fleet to go by -/

/-- A fleet with a merged gateway for one capability, which takes its custom properties from the
secret `props`, and without a gateway of one capability. -/
def sampleFleet : Fleet where
  header := {
    name := some "fleet"
    generateName := none
    ns := some "meridian"
    uid := some "uid-1"
    labels := none
    annotations := none
    ownerReferences := none
    resourceVersion := none }
  spec := {
    apiUrl := "https://live.example.com/api"
    tokens := ""
    customPullSecret := ""
    proxy := none
    networkZone := ""
    skipCertCheck := false
    activeGate := {
      capabilities := [.dataIngest]
      tlsSecretName := ""
      image := ""
      properties := { CapabilityProperties.none with customProperties := some ⟨"", "props"⟩ } }
    kubernetesMonitoring := none
    routing := none }
  status := none

/-- The merged gateway of that fleet. -/
def sampleGateway : GatewayDescriptor :=
  .ofTemplates
    { name := "fleet"
      ns := "meridian"
      image := sampleFleet.gatewayImage
      kubeSystemUuid := ""
      proxy := none
      networkZone := ""
      tlsSecretName := ""
      operatorVersion := "1.0.0" }
    sampleFleet.spec.activeGate.properties [.dataIngest]

/-- The gateways of that fleet. -/
def sampleGateways : List GatewayDescriptor :=
  [sampleGateway, .disabled .legacyKubernetesMonitoring "kubemon" .none,
    .disabled .legacyRouting "routing" .none]

theorem all_sampleFleet :
    GatewayDescriptor.all sampleFleet .builtin "1.0.0" = .ok sampleGateways := rfl

/-- The cluster of that fleet, with nothing of the operator's in it yet. -/
def sampleCluster : SimulatedCluster where
  objects := ∅
  revision := 0
  secrets := .ofList [(⟨"meridian", "props"⟩, .ofList [(customPropertiesKey, [97, 61, 49])])]
  version := ⟨"1", "29"⟩
  failures := []
  calls := []

theorem keyed_sampleCluster : sampleCluster.Keyed := by
  intro key workload h
  cases h

/-- An object that another hand has made under the key of the merged gateway. -/
def handMade : StatefulSet where
  apiVersion := "apps/v1"
  kind := "StatefulSet"
  metadata := .new "fleet-multi" "meridian"
  spec := .empty

/-- A run of the controller for that fleet. -/
def sampleSteady (adjustments : List Adjustment) (version : ServerVersion) : Steady where
  adjustments := adjustments
  fleet := sampleFleet
  secrets := sampleCluster.secrets
  version := version
  base := ⟨"fleet", "meridian", "", sampleFleet.pullSecret⟩
  base_eq := rfl

theorem propertiesHash_sample : propertiesHash sampleCluster.secrets "meridian"
    sampleGateway.customProperties? = .ok (Hash.ofText "a=1") := by
  have htext : Text.ofBytesLossy [97, 61, 49] = "a=1" := by decide +kernel
  rw [← htext]
  rfl

/-- The desired object of the sample gateway, for any version. -/
theorem desired_sample (adjustments : List Adjustment) (version : ServerVersion) :
    ∃ owner, ∀ version', (sampleSteady adjustments version').desired sampleGateway =
      .ok ((StatefulSet.desired (sampleSteady adjustments version).base sampleGateway
        (Hash.ofText "a=1") version' adjustments).ownedBy owner) :=
  ⟨_, fun version' => desiredResult_eq rfl rfl propertiesHash_sample version'⟩

theorem serves_sample {adjustments : List Adjustment}
    (hkeep : ∀ adjust ∈ adjustments, KeepsIdentity adjust) (version : ServerVersion) :
    (sampleSteady adjustments version).Serves sampleGateway := by
  intro _
  obtain ⟨owner, hdesired⟩ := desired_sample adjustments version
  exact ⟨_, hdesired version, key_desired hkeep _ _ _ _⟩

end FleetOperator
