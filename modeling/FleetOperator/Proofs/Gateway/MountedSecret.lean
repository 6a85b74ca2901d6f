import FleetOperator.Proofs.Capability.Composition
import FleetOperator.Proofs.Gateway.Calls
import FleetOperator.Proofs.Gateway.Clients
import FleetOperator.Proofs.Gateway.Moments
import FleetOperator.Proofs.Gateway.Rollout

/-!
# The secret behind mounted custom properties

Three parts of a cycle find out by themselves which secret the custom
properties of a gateway are in: the part that writes them, the part that
hashes them, and the composition of the gateway, which mounts them. The first
goes by the name in the reference to the fleet and by the owner of the
gateway, the last by the name of the fleet and by the owner of the templates.

They agree because a cycle that does not fail has a reference to the fleet,
which bears its name (`Fleet.name_of_ownerReference`), and because a gateway
is composed under the owner that it has (`exists_composedFrom`). The volume
with the custom properties is the first of all, so it is there once, whatever
volumes the templates bring (`filter_assembleVolumes`).
-/

namespace FleetOperator

open SimulatedCluster
open GatewayProgram (ask askOr ofExcept)

/-! ## The volume and its mounts -/

/-- The volume with custom properties. -/
def propertiesVolume (secret : String) : Volume :=
  .fromSecretKey customPropertiesVolume secret customPropertiesKey customPropertiesFile

/-- The secret behind custom properties, by the owner of the service account. -/
def ValueSource.secretName (source : ValueSource) (fleetName owner : String) : String :=
  source.reference?.getD (customPropertiesSecretName fleetName owner)

theorem filter_assembleVolumes {properties : CapabilityProperties} {source : ValueSource}
    (h : properties.declaredCustomProperties? = some source) (context : FleetContext)
    (owner : String) (volumes : List Volume) (tlsSecret : Option String) :
    (assembleVolumes context properties owner volumes tlsSecret).filter
        (·.name == customPropertiesVolume) =
      [propertiesVolume (source.secretName context.name owner)] := by
  rw [assembleVolumes.eq_def, h, filter_firstByName]
  rfl

theorem mem_mounts_of_declared {properties : CapabilityProperties}
    (h : properties.declaredCustomProperties?.isSome = true) (template : CapabilityTemplate)
    (tlsSecret : Option String) :
    .file customPropertiesVolume customPropertiesPath customPropertiesFile ∈
      template.mounts properties tlsSecret := by
  simp [CapabilityTemplate.mounts, h]

/-- The pods of an object have one volume with custom properties, and each container mounts it. -/
structure StatefulSet.MountsProperties (workload : StatefulSet) (volume : Volume) : Prop where
  volumes : workload.spec.template.spec.volumes.filter (·.name == customPropertiesVolume) =
    [volume]
  containers_ne_nil : workload.spec.template.spec.containers ≠ []
  mounts : ∀ container ∈ workload.spec.template.spec.containers,
    .file customPropertiesVolume customPropertiesPath customPropertiesFile ∈
      container.volumeMounts

/-- A gateway mounts its custom properties from the secret under its own owner, or from the one
that it refers to. -/
theorem mountsProperties_of_composedFrom {gateway : GatewayDescriptor}
    {registry : TemplateRegistry} {context : FleetContext} {templates : List CapabilityTemplate}
    {source : ValueSource} (hcomposed : gateway.ComposedFrom registry context templates)
    (hsource : gateway.customProperties? = some source) {workload : StatefulSet}
    (hvolumes : workload.spec.template.spec.volumes = gateway.volumes)
    (hcontainers : workload.spec.template.spec.containers = gateway.containers) :
    workload.MountsProperties (propertiesVolume
      (source.secretName context.name gateway.configuration.serviceAccountOwner)) where
  volumes := by
    rw [hvolumes, hcomposed.volumes]
    exact filter_assembleVolumes hsource context _ _ _
  containers_ne_nil := by
    rw [hcontainers, hcomposed.containers]
    exact mt List.map_eq_nil_iff.1 hcomposed.templates_ne_nil
  mounts container hmem := by
    rw [hcontainers, hcomposed.containers] at hmem
    obtain ⟨template, -, rfl⟩ := List.mem_map.1 hmem
    have hdeclared : gateway.properties.declaredCustomProperties? = some source := hsource
    exact mem_mounts_of_declared (by rw [hdeclared]; rfl) template _

/-! ## The calls about secrets -/

/-- The secret that a call reads. -/
def GatewayCall.readKey? : GatewayCall → Option ObjectKey
  | .readSecret ns name => some ⟨ns, name⟩
  | _ => none

section

variable {plan : FaultPlan} {cluster after : SimulatedCluster} {adjustments : List Adjustment}
  {fleet : Fleet} {gateway : GatewayDescriptor} {base : WorkloadMeta} {owner : OwnerReference}
  {source : ValueSource} {outcome : Outcome}

theorem callsUnder_applyCustomProperties (howner : fleet.ownerReference? = some owner)
    (hsource : gateway.customProperties? = some source) :
    cluster.callsUnder plan (applyCustomProperties fleet base gateway) =
      [.applyProperties owner base.ns gateway.configuration.serviceAccountOwner source] := by
  rw [applyCustomProperties, hsource]
  simp only [Fleet.ownerOf, howner]
  rfl

theorem callsUnder_hashCustomProperties (plan : FaultPlan) (cluster : SimulatedCluster)
    (ns : String) (source : ValueSource) :
    cluster.callsUnder plan (hashCustomProperties ns (some source)) =
      source.reference?.toList.map (.readSecret ns) := by
  simp only [hashCustomProperties]
  cases source.reference? with
  | none => rfl
  | some secret =>
      refine callsUnder_bind_of_silent fun found after => ?_
      cases secretValue ns secret customPropertiesKey found <;> rfl

/-- After the custom properties a cycle has nothing to do with secrets. -/
theorem asksNoSecrets_convergeFrom (adjustments : List Adjustment) (fleet : Fleet)
    (base : WorkloadMeta) (gateway : GatewayDescriptor) (hash : String) :
    (convergeFrom adjustments fleet base gateway hash).AsksOnly
      fun call => call.secret? = none ∧ call.readKey? = none := by
  refine .bind (.askOr ⟨rfl, rfl⟩ _) fun (version : ServerVersion) => ?_
  refine .bind (.ofExcept _ _) fun owner => .bind (.ask ⟨rfl, rfl⟩) fun live? => ?_
  exact asksOnly_settle ⟨rfl, rfl⟩ (fun _ => ⟨rfl, rfl⟩) (fun _ => ⟨rfl, rfl⟩) live?

/-- A cycle that does not fail sees to the secret and reads the one that is referred to. -/
theorem callsUnder_convergeGateway
    (hrun : cluster.runUnder plan (convergeGateway adjustments fleet gateway) =
      (.ok outcome, after)) (hbase : fleet.workloadMeta = .ok base)
    (howner : fleet.ownerReference? = some owner)
    (hsource : gateway.customProperties? = some source) :
    ∃ rest, cluster.callsUnder plan (convergeGateway adjustments fleet gateway) =
        .applyProperties owner base.ns gateway.configuration.serviceAccountOwner source ::
          source.reference?.toList.map (.readSecret base.ns) ++ rest ∧
      ∀ call ∈ rest, call.secret? = none ∧ call.readKey? = none := by
  rw [convergeGateway_eq_convergeFrom] at hrun ⊢
  obtain ⟨found, middle, hmeta, hrun⟩ := exists_of_runUnder_bind hrun
  obtain ⟨hfound, rfl⟩ := Prod.mk.inj hmeta
  rw [mapError_id, hbase] at hfound
  obtain rfl := Except.ok.inj hfound
  obtain ⟨⟨⟩, applied, happly, hrun⟩ := exists_of_runUnder_bind hrun
  obtain ⟨hash, hashed, hhash, hrun⟩ := exists_of_runUnder_bind hrun
  refine ⟨hashed.callsUnder plan (convergeFrom adjustments fleet base gateway hash), ?_, ?_⟩
  · rw [callsUnder_bind hmeta, callsUnder_bind happly, callsUnder_bind hhash,
      callsUnder_applyCustomProperties howner hsource, hsource, callsUnder_hashCustomProperties]
    rfl
  · intro call hcall
    obtain ⟨moment, hmem, rfl⟩ := List.mem_map.1 hcall
    exact call_of_mem_moments (asksNoSecrets_convergeFrom _ _ _ _ _) hmem

/-- What a cycle stores has the specification that it wants. -/
theorem spec_of_stored {desired workload : StatefulSet} {call : GatewayCall}
    (hbuilt : (cluster.runUnder plan (desiredWorkload adjustments fleet gateway)).1 = .ok desired)
    (hcall : call ∈ cluster.callsUnder plan (convergeGateway adjustments fleet gateway))
    (hstored : call.stored? = some workload) : workload.spec = desired.spec := by
  have hread {other : GatewayCall} (h : other.isWrite = false) : other.stored? ≠ some workload := by
    cases other with
    | create | update => cases h
    | applyProperties | readSecret | serverVersion | get | delete => simp [GatewayCall.stored?]
  obtain ⟨moment, hmem, rfl⟩ := List.mem_map.1 hcall
  rw [convergeGateway_eq] at hmem
  rcases mem_momentsWith_bind.1 hmem with hmem | ⟨built, middle, hrun, hmem⟩
  · exact absurd hstored (hread (call_of_mem_moments (readsOnly_desiredWorkload _ _ _) hmem))
  · rw [runWith_answerUnder] at hrun
    rw [hrun] at hbuilt
    obtain rfl := Except.ok.inj hbuilt
    have hsettle : (ask (.get built.ns built.name) >>= settle built).AsksOnly fun call =>
        ∀ workload, call.stored? = some workload → workload.spec = built.spec := by
      refine .bind (.ask (by simp [GatewayCall.stored?])) fun live? =>
        asksOnly_settle ?_ (by simp [GatewayCall.stored?]) ?_ live?
      · rintro _ hsome
        obtain rfl := Option.some.inj hsome
        rfl
      · rintro live _ hsome
        obtain rfl := Option.some.inj hsome
        rfl
    exact call_of_mem_moments hsettle hmem workload hstored

/-- The secret that such a cycle writes, if any, and the one that it reads, if any. -/
theorem secrets_of_convergeGateway
    (hrun : cluster.runUnder plan (convergeGateway adjustments fleet gateway) =
      (.ok outcome, after)) (hbase : fleet.workloadMeta = .ok base)
    (howner : fleet.ownerReference? = some owner)
    (hsource : gateway.customProperties? = some source) :
    let made := cluster.callsUnder plan (convergeGateway adjustments fleet gateway)
    made.filterMap GatewayCall.secret? =
        (secretToApply? owner base.ns gateway.configuration.serviceAccountOwner source).toList ∧
      made.filterMap GatewayCall.readKey? = source.reference?.toList.map (⟨base.ns, ·⟩) := by
  obtain ⟨rest, hmade, hrest⟩ := callsUnder_convergeGateway hrun hbase howner hsource
  have hwritten : rest.filterMap GatewayCall.secret? = [] :=
    List.filterMap_eq_nil_iff.2 fun call hmem => (hrest call hmem).1
  have hread : rest.filterMap GatewayCall.readKey? = [] :=
    List.filterMap_eq_nil_iff.2 fun call hmem => (hrest call hmem).2
  simp only [hmade, List.filterMap_append, hwritten, hread, List.append_nil]
  cases hreference : source.reference? with
  | none =>
      rw [secretToApply?, hreference]
      refine ⟨List.filterMap_cons_some ?_, rfl⟩
      rw [GatewayCall.secret?, secretToApply?, hreference]
  | some secret =>
      rw [secretToApply?, hreference]
      refine ⟨List.filterMap_cons_none ?_, rfl⟩
      rw [GatewayCall.secret?, secretToApply?, hreference]

end

/-- The hash of custom properties that are written out. -/
theorem propertiesHash_of_inline {source : ValueSource} (h : source.reference? = none)
    (secrets : SortedMap ObjectKey SecretData) (ns : String) :
    propertiesHash secrets ns (some source) = .ok (Hash.ofText source.value) := by
  simp only [propertiesHash, h]

/-- The hash of custom properties that stand in a secret is that of what the secret holds. -/
theorem exists_bytes_of_propertiesHash {source : ValueSource} {secret hash ns : String}
    {secrets : SortedMap ObjectKey SecretData} (h : source.reference? = some secret)
    (hhash : propertiesHash secrets ns (some source) = .ok hash) :
    ∃ bytes, secretValue ns secret customPropertiesKey (secrets.get? ⟨ns, secret⟩) = .ok bytes ∧
      hash = Hash.ofText (Text.ofBytesLossy bytes) := by
  simp only [propertiesHash, h] at hhash
  cases hbytes : secretValue ns secret customPropertiesKey (secrets.get? ⟨ns, secret⟩) with
  | error e => rw [hbytes] at hhash; cases hhash
  | ok bytes =>
      rw [hbytes] at hhash
      exact ⟨bytes, rfl, (Except.ok.inj hhash).symm⟩

/-! ## One secret -/

/-- A cycle that takes the custom properties of its pods from a secret and writes none. -/
structure TakesProperties (secrets : SortedMap ObjectKey SecretData) (made : List GatewayCall)
    (desired : StatefulSet) (volume : Volume) (secret : String) : Prop where
  written : made.filterMap GatewayCall.secret? = []
  read : made.filterMap GatewayCall.readKey? = [⟨desired.ns, secret⟩]
  volume_eq : volume =
    .fromSecretKey customPropertiesVolume secret customPropertiesKey customPropertiesFile
  hash : ∃ bytes, secretValue desired.ns secret customPropertiesKey
      (secrets.get? ⟨desired.ns, secret⟩) = .ok bytes ∧
    desired.propertiesHash? = some (Hash.ofText (Text.ofBytesLossy bytes))

/-- A cycle that writes the custom properties of its pods to a secret and reads none. -/
structure KeepsProperties (made : List GatewayCall) (desired : StatefulSet) (volume : Volume)
    (text : String) (secret : Secret) : Prop where
  written : made.filterMap GatewayCall.secret? = [secret]
  read : made.filterMap GatewayCall.readKey? = []
  ns : secret.ns = desired.ns
  data : secret.data = .ofList [(customPropertiesKey, Text.bytes text)]
  volume_eq : volume =
    .fromSecretKey customPropertiesVolume secret.name customPropertiesKey customPropertiesFile
  hash : desired.propertiesHash? = some (toString (Hash.fnv1a (Text.bytes text)).toNat)

section

variable {secrets : SortedMap ObjectKey SecretData} {made : List GatewayCall}
  {desired : StatefulSet} {base : WorkloadMeta} {owner : OwnerReference} {source : ValueSource}
  {hash serviceAccountOwner : String}
  (hwritten : made.filterMap GatewayCall.secret? =
    (secretToApply? owner base.ns serviceAccountOwner source).toList)
  (hread : made.filterMap GatewayCall.readKey? = source.reference?.toList.map (⟨base.ns, ·⟩))
  (hns : desired.ns = base.ns) (hcarried : desired.propertiesHash? = some hash)
  (hhash : propertiesHash secrets base.ns (some source) = .ok hash)

include hwritten hread hns hcarried hhash

theorem takesProperties_of_reference {secret : String} (h : source.reference? = some secret)
    (fleetName : String) : TakesProperties secrets made desired
      (propertiesVolume (source.secretName fleetName serviceAccountOwner)) secret where
  written := by
    rw [hwritten, secretToApply?, h]
    rfl
  read := by
    rw [hread, h, hns]
    rfl
  volume_eq := by
    rw [ValueSource.secretName, h]
    rfl
  hash := by
    obtain ⟨bytes, hbytes, rfl⟩ := exists_bytes_of_propertiesHash h hhash
    exact ⟨bytes, hns ▸ hbytes, hcarried⟩

theorem keepsProperties_of_inline (h : source.reference? = none) : KeepsProperties made desired
    (propertiesVolume (source.secretName owner.name serviceAccountOwner)) source.value
    (customPropertiesSecret owner base.ns serviceAccountOwner source.value) where
  written := by
    rw [hwritten, secretToApply?, h]
    rfl
  read := by
    rw [hread, h]
    rfl
  ns := hns.symm
  data := rfl
  volume_eq := by
    rw [ValueSource.secretName, h]
    rfl
  hash := by
    rw [propertiesHash_of_inline h] at hhash
    obtain rfl := Except.ok.inj hhash
    exact hcarried

end

/-- Let a gateway of a fleet that should exist have custom properties, and its cycle come to an
end without adjustments. Whatever it stores has the pods of the desired object, all of whose
containers mount the one volume with custom properties.

If they are referred to, the cycle writes no secret and reads that one, once, in the namespace of
the fleet; the volume has its value, and the pods carry the hash of that. Otherwise the cycle
reads no secret and writes one; the volume has its value, which is the one written out, and the
pods carry the hash of that. -/
theorem one_secret_is_written_mounted_and_hashed {fleet : Fleet} {registry : TemplateRegistry}
    {operatorVersion : String} {gateways : List GatewayDescriptor} {gateway : GatewayDescriptor}
    {source : ValueSource} {plan : FaultPlan} {cluster after : SimulatedCluster}
    {outcome : Outcome} (hall : GatewayDescriptor.all fleet registry operatorVersion = .ok gateways)
    (hmem : gateway ∈ gateways) (henabled : gateway.enabled = true)
    (hsource : gateway.customProperties? = some source)
    (hrun : cluster.runUnder plan (reconcileGateway [] fleet gateway) = (.ok outcome, after)) :
    let made := cluster.callsUnder plan (reconcileGateway [] fleet gateway)
    after.calls = made.reverse ++ cluster.calls ∧
    ∃ desired volume,
      (cluster.runUnder plan (desiredWorkload [] fleet gateway)).1 = .ok desired ∧
      fleet.ns? = some desired.ns ∧
      (∀ call ∈ made, ∀ workload, call.stored? = some workload →
        workload.spec = desired.spec) ∧
      desired.MountsProperties volume ∧
      (∀ secret, source.reference? = some secret →
        TakesProperties cluster.secrets made desired volume secret) ∧
      (source.reference? = none → ∃ secret,
        KeepsProperties made desired volume source.value secret) := by
  intro made
  have hmade : made = cluster.callsUnder plan (reconcileGateway [] fleet gateway) := rfl
  have hcalls := calls_runUnder plan cluster (reconcileGateway [] fleet gateway)
  rw [hrun, ← hmade] at hcalls
  rw [reconcileGateway, if_pos henabled] at hrun hmade
  have hsettled := run_convergeGateway plan cluster [] fleet gateway
  rw [hrun] at hsettled
  cases hsettled with
  | @settled desired calls _ _ hbuilt hdesired =>
      obtain ⟨base, hash, owner, hbase, howner, hhash, hform⟩ := exists_of_desiredResult hdesired
      obtain ⟨context, templates, hcontext, hcomposed⟩ :=
        GatewayDescriptor.exists_composedFrom hall hmem henabled
      obtain ⟨hwritten, hread⟩ := secrets_of_convergeGateway hrun hbase howner hsource
      rw [← hmade] at hwritten hread
      rw [hsource] at hhash
      have hns : desired.ns = base.ns := by rw [hform]; rfl
      -- the composition names the secret after the fleet, the cycle after the owner reference
      have hname : context.name = owner.name := by
        rw [name_ofFleet hcontext, Fleet.name_of_ownerReference howner]
      have hcarried : desired.propertiesHash? = some hash := by
        rw [hform]
        exact StatefulSet.propertiesHash?_plain base gateway hash _
      have hmounts : desired.MountsProperties _ :=
        mountsProperties_of_composedFrom hcomposed hsource (by rw [hform]; rfl)
          (by rw [hform]; rfl)
      rw [hname] at hmounts
      refine ⟨hcalls, desired, _, hbuilt, by rw [hns]; exact ns?_of_workloadMeta hbase,
        fun call hcall workload => spec_of_stored hbuilt (hmade ▸ hcall), hmounts, ?_, ?_⟩
      · exact fun secret h =>
          takesProperties_of_reference hwritten hread hns hcarried hhash h owner.name
      · exact fun h =>
          ⟨_, keepsProperties_of_inline hwritten hread hns hcarried hhash h⟩

/-- The built-in templates, of which one brings a volume of its own under the name of the volume
with custom properties. -/
def crowdedRegistry : TemplateRegistry :=
  TemplateRegistry.builtin.insert .dataIngest
    { CapabilityTemplate.dataIngest with volumes := [.fromEmptyDir customPropertiesVolume] }

theorem one_secret_of_crowdedRegistry :
    ∃ merged others, GatewayDescriptor.all (twoTextFleet [.dataIngest]) crowdedRegistry "1.0.0" =
        .ok (merged :: others) ∧
      merged.enabled = true ∧ merged.customProperties? = some ⟨"a=1", ""⟩ ∧
      (sampleCluster.runUnder .clear
        (reconcileGateway [] (twoTextFleet [.dataIngest]) merged)).1 = .ok .created ∧
      ∃ desired secret volume,
        KeepsProperties (sampleCluster.callsUnder .clear
          (reconcileGateway [] (twoTextFleet [.dataIngest]) merged)) desired volume "a=1"
          secret ∧ desired.MountsProperties volume := by
  obtain ⟨merged, others, hall, henabled, hsource, hcreated⟩ : ∃ merged others,
      GatewayDescriptor.all (twoTextFleet [.dataIngest]) crowdedRegistry "1.0.0" =
        .ok (merged :: others) ∧
      merged.enabled = true ∧ merged.customProperties? = some ⟨"a=1", ""⟩ ∧
      (sampleCluster.runUnder .clear
        (reconcileGateway [] (twoTextFleet [.dataIngest]) merged)).1 = .ok .created :=
    ⟨_, _, rfl, rfl, rfl, rfl⟩
  obtain ⟨-, desired, volume, -, -, -, hmounts, -, hinline⟩ :=
    one_secret_is_written_mounted_and_hashed hall List.mem_cons_self henabled hsource
      (Prod.ext hcreated rfl)
  obtain ⟨secret, hkeeps⟩ := hinline rfl
  exact ⟨merged, others, hall, henabled, hsource, hcreated, desired, secret, volume, hkeeps,
    hmounts⟩

end FleetOperator
