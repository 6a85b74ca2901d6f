import FleetOperator.Gateway.Adjustment
import FleetOperator.Proofs.Gateway.OwnSecret

/-!
# What the secrets with custom properties hold

A cycle of a gateway leaves its own custom properties in the secret that it
keeps them in and every other secret as it was (`held_reconcileGateway`), so
after the cycles of several gateways a secret holds those of the last of them
that keeps it (`held_mapM`).

The merged gateway comes first and shares its secret with one of the gateways
of one capability. Where both have custom properties written out that are not
the same, the pods of the merged one mount those of the other
(`mountsOwn_all_iff`).

The API server is taken as given: a `SecretServer` is any for which the
values of an applied secret are there afterwards and no other secret has
changed.
-/

namespace FleetOperator

open GatewayProgram (ask askOr ofExcept AsksOnly)

/-! ## Secrets that are applied -/

/-- What the API server makes of a secret that is applied to it. -/
structure SecretServer where
  apply : Secret → SortedMap ObjectKey SecretData → SortedMap ObjectKey SecretData
  /-- The applied values are there. -/
  has_applied (secret : Secret) (secrets : SortedMap ObjectKey SecretData) {key : String}
    {value : List UInt8} (h : secret.data.get? key = some value) :
    ((apply secret secrets).get? ⟨secret.ns, secret.name⟩).bind (·.get? key) = some value
  /-- The other secrets are as they were. -/
  keeps_others (secret : Secret) (secrets : SortedMap ObjectKey SecretData) {other : ObjectKey}
    (h : other ≠ ⟨secret.ns, secret.name⟩) : (apply secret secrets).get? other = secrets.get? other

/-- The secret that a call applies. -/
def GatewayCall.secret? : GatewayCall → Option Secret
  | .applyProperties owner ns serviceAccountOwner properties =>
    secretToApply? owner ns serviceAccountOwner properties
  | _ => none

namespace SimulatedCluster

variable {α β : Type} (server : SecretServer) (plan : FaultPlan)

/-- The cluster after a secret is applied. -/
def applying (cluster : SimulatedCluster) (secret : Secret) : SimulatedCluster :=
  { cluster with secrets := server.apply secret cluster.secrets }

/-- Answers a call and, if it does not fail, applies the secret that it is about. -/
def answerApplying (call : GatewayCall) (cluster : SimulatedCluster) :
    Except OperatorError call.Result × SimulatedCluster :=
  let answered := answerUnder plan call cluster
  match call.secret? with
  | none => answered
  | some secret =>
    (answered.1, if answered.1.isOk then answered.2.applying server secret else answered.2)

/-- Runs a program of gateway calls on a cluster that takes secrets. -/
def runApplying (program : GatewayProgram α) (cluster : SimulatedCluster) :
    Except GatewayError α × SimulatedCluster :=
  Dialogue.run (I := gatewayInterface) (answerApplying server plan) (ExceptT.run program) cluster

/-- The custom properties in a secret of the cluster. -/
def held (cluster : SimulatedCluster) (key : ObjectKey) : Option (List UInt8) :=
  (cluster.secrets.get? key).bind (·.get? customPropertiesKey)

variable {server plan} {cluster after : SimulatedCluster}

theorem secrets_answerUnder (plan : FaultPlan) (call : GatewayCall) (cluster : SimulatedCluster) :
    (answerUnder plan call cluster).2.secrets = cluster.secrets := by
  unfold answerUnder
  split
  · rfl
  · cases call <;> rfl

theorem fst_answerApplying (call : GatewayCall) :
    (answerApplying server plan call cluster).1 = (answerUnder plan call cluster).1 := by
  unfold answerApplying
  split <;> rfl

theorem secrets_answerApplying {call : GatewayCall} (h : call.secret? = none) :
    (answerApplying server plan call cluster).2.secrets = cluster.secrets := by
  unfold answerApplying
  rw [h]
  exact secrets_answerUnder plan call cluster

/-- A program that applies no secret leaves the secrets alone. -/
theorem secrets_runApplying {program : GatewayProgram α}
    (h : program.AsksOnly fun call => call.secret? = none) :
    (cluster.runApplying server plan program).2.secrets = cluster.secrets := by
  unfold GatewayProgram.AsksOnly at h
  unfold runApplying
  generalize ExceptT.run program = dialogue at h ⊢
  induction dialogue generalizing cluster with
  | done value => rfl
  | ask call next ih => exact (ih _ (h.2 _)).trans (secrets_answerApplying h.1)

/-- A successful run of two programs in turn is a successful run of each. -/
theorem exists_of_runApplying_bind {program : GatewayProgram α} {next : α → GatewayProgram β}
    {result : β}
    (h : cluster.runApplying server plan (program >>= next) = (.ok result, after)) :
    ∃ value middle, cluster.runApplying server plan program = (.ok value, middle) ∧
      middle.runApplying server plan (next value) = (.ok result, after) := by
  unfold runApplying at h ⊢
  replace h := (Dialogue.run_exceptT_bind (answerApplying server plan) program next
    cluster).symm.trans h
  cases hrun : Dialogue.run (I := gatewayInterface) (answerApplying server plan)
      (ExceptT.run program) cluster with
  | mk found middle =>
      rw [hrun] at h
      cases found with
      | ok value => exact ⟨value, middle, rfl, h⟩
      | error e => cases (congrArg Prod.fst h : Except.error e = Except.ok result)

theorem eq_of_runApplying_ofExcept {ε : Type} {wrap : ε → GatewayError} {value : Except ε α}
    {result : α}
    (h : cluster.runApplying server plan (ofExcept wrap value) = (.ok result, after)) :
    value = .ok result ∧ after = cluster := by
  cases value with
  | error e => cases (congrArg Prod.fst h : Except.error (wrap e) = Except.ok result)
  | ok found =>
      obtain rfl := Except.ok.inj (congrArg Prod.fst h : Except.ok found = Except.ok result)
      exact ⟨rfl, (congrArg Prod.snd h : cluster = after).symm⟩

theorem held_eq_of_runApplying {program : GatewayProgram α} {result : α}
    (hquiet : program.AsksOnly fun call => call.secret? = none)
    (h : cluster.runApplying server plan program = (.ok result, after)) (key : ObjectKey) :
    after.held key = cluster.held key := by
  have hsecrets : (cluster.runApplying server plan program).2.secrets = cluster.secrets :=
    secrets_runApplying hquiet
  rw [h] at hsecrets
  rw [held, held, hsecrets]

theorem held_answerApplying {call : GatewayCall} {result : call.Result}
    (h : cluster.runApplying server plan (ask call) = (.ok result, after)) (key : ObjectKey) :
    after.held key =
      match call.secret? with
      | none => cluster.held key
      | some secret => (cluster.applying server secret).held key := by
  have hrun : cluster.runApplying server plan (ask call) =
      ((answerApplying server plan call cluster).1.mapError .operator,
        (answerApplying server plan call cluster).2) := rfl
  rw [hrun] at h
  obtain ⟨hresult, rfl⟩ := Prod.mk.inj h
  have hok : (answerUnder plan call cluster).1.isOk = true := by
    rw [fst_answerApplying] at hresult
    cases hanswer : (answerUnder plan call cluster).1 with
    | ok value => rfl
    | error e =>
        rw [hanswer] at hresult
        cases hresult
  unfold answerApplying
  cases hsecret : call.secret? with
  | none => simp only [held, secrets_answerUnder]
  | some secret => simp only [hok, if_true, held, applying, secrets_answerUnder]

/-- An applied text is in its secret, and the other secrets hold what they held. -/
theorem held_apply (server : SecretServer) (cluster : SimulatedCluster) (owner : OwnerReference)
    (ns serviceAccountOwner text secret : String) :
    (cluster.applying server (customPropertiesSecret owner ns serviceAccountOwner text)).held
        ⟨ns, secret⟩ =
      if secret = customPropertiesSecretName owner.name serviceAccountOwner then
        some (Text.bytes text)
      else cluster.held ⟨ns, secret⟩ := by
  have hdata : (customPropertiesSecret owner ns serviceAccountOwner text).data.get?
      customPropertiesKey = some (Text.bytes text) := SortedMap.get?_insert_self _ _ _
  split
  · next hname =>
      subst hname
      exact server.has_applied _ _ hdata
  · next hname =>
      have hother : (⟨ns, secret⟩ : ObjectKey) ≠
          ⟨ns, customPropertiesSecretName owner.name serviceAccountOwner⟩ :=
        fun hkey => hname (congrArg ObjectKey.name hkey)
      exact congrArg (·.bind (·.get? customPropertiesKey))
        (server.keeps_others (customPropertiesSecret owner ns serviceAccountOwner text)
          cluster.secrets hother)

end SimulatedCluster

/-! ## What a cycle leaves in the secrets -/

section

open SimulatedCluster

variable {server : SecretServer} {plan : FaultPlan} {cluster after : SimulatedCluster}
  {adjustments : List Adjustment} {fleet : Fleet} {base : WorkloadMeta}
  {gateway : GatewayDescriptor}

theorem held_applyCustomProperties (henabled : gateway.enabled = true)
    (h : cluster.runApplying server plan (applyCustomProperties fleet base gateway) =
      (.ok (), after)) (secret : String) :
    after.held ⟨base.ns, secret⟩ =
      gateway.leaves fleet.name secret (cluster.held ⟨base.ns, secret⟩) := by
  unfold applyCustomProperties GatewayDescriptor.customProperties? at h
  unfold GatewayDescriptor.leaves GatewayDescriptor.ownProperties?
    CapabilityProperties.inlineProperties?
  rw [if_pos henabled]
  cases hdeclared : gateway.properties.declaredCustomProperties? with
  | none =>
      rw [hdeclared] at h
      exact congrArg (·.held ⟨base.ns, secret⟩) (congrArg Prod.snd h).symm
  | some source =>
      simp only [hdeclared] at h ⊢
      obtain ⟨owner, middle, hfirst, hlast⟩ := exists_of_runApplying_bind h
      obtain ⟨howner, rfl⟩ := eq_of_runApplying_ofExcept hfirst
      have hname := Fleet.name_of_ownerReference (Fleet.ownerReference?_of_ownerOf howner)
      have happlied := held_answerApplying hlast ⟨base.ns, secret⟩
      unfold GatewayCall.secret? secretToApply? at happlied
      cases hreference : source.reference? with
      | some reference => simpa only [hreference] using happlied
      | none =>
          simp only [hreference] at happlied ⊢
          rw [happlied, held_apply, hname]
          rfl

theorem asksOnly_settle {p : GatewayCall → Prop} {desired : StatefulSet}
    (hcreate : p (.create desired)) (hdelete : ∀ live, p (.delete live))
    (hupdate : ∀ live, p (.update (desired.atVersionOf live))) (live? : Option StatefulSet) :
    (settle desired live?).AsksOnly p := by
  cases live? with
  | none => exact .bind (.ask hcreate) fun _ => .pure _
  | some live =>
      simp only [settle]
      split
      · exact .bind (.ask (hdelete live)) fun _ => .pure _
      · split
        · exact .bind (.ask (hupdate live)) fun _ => .pure _
        · exact .pure _

theorem asksNoSecret_retireGateway (fleet : Fleet) (gateway : GatewayDescriptor) :
    (retireGateway fleet gateway).AsksOnly fun call => call.secret? = none := by
  refine .bind (.ofExcept _ _) fun base => .bind (.ask rfl) fun live? => ?_
  cases live? with
  | none => exact .pure _
  | some live =>
      dsimp only
      split
      · exact .bind (.ask rfl) fun _ => .pure _
      · exact .pure _

/-- A cycle of a gateway leaves its own custom properties in its secret, and nothing else in any
other. -/
theorem held_reconcileGateway {outcome : Outcome}
    (h : cluster.runApplying server plan (reconcileGateway adjustments fleet gateway) =
      (.ok outcome, after)) :
    ∃ base, fleet.workloadMeta = .ok base ∧ ∀ secret, after.held ⟨base.ns, secret⟩ =
      gateway.leaves fleet.name secret (cluster.held ⟨base.ns, secret⟩) := by
  unfold reconcileGateway at h
  split at h
  · next henabled =>
      obtain ⟨base, middle, hfirst, hrest⟩ := exists_of_runApplying_bind h
      obtain ⟨hbase, rfl⟩ := eq_of_runApplying_ofExcept hfirst
      refine ⟨base, ?_, fun secret => ?_⟩
      · exact hbase
      · obtain ⟨⟨⟩, applied, happlied, hrest⟩ := exists_of_runApplying_bind hrest
        have hquiet : (buildDesired adjustments base gateway >>= fun built =>
            ofExcept id (fleet.ownerOf built.name) >>= fun owner =>
              ask (.get (built.ownedBy owner).ns (built.ownedBy owner).name) >>=
                settle (built.ownedBy owner)).AsksOnly fun call => call.secret? = none := by
          refine .bind (asksOnly_buildDesired (fun _ _ => by rfl) (by rfl) _ _ _) fun built => ?_
          refine .bind (.ofExcept _ _) fun owner => .bind (.ask rfl) ?_
          exact asksOnly_settle rfl (fun _ => rfl) fun _ => rfl
        rw [held_eq_of_runApplying hquiet hrest]
        exact held_applyCustomProperties henabled happlied secret
  · next hdisabled =>
      obtain ⟨base, middle, hfirst, -⟩ := exists_of_runApplying_bind h
      obtain ⟨hbase, -⟩ := eq_of_runApplying_ofExcept hfirst
      have hnone : gateway.ownProperties? = none := by
        rw [GatewayDescriptor.ownProperties?, if_neg hdisabled]
      refine ⟨base, hbase, fun secret => ?_⟩
      rw [GatewayDescriptor.leaves, hnone]
      exact held_eq_of_runApplying (asksNoSecret_retireGateway fleet gateway) h _

/-- After the cycles of several gateways a secret holds what the last of them that keeps it has
left there. -/
theorem held_mapM (hbase : fleet.workloadMeta = .ok base) {gateways : List GatewayDescriptor}
    {outcomes : List Outcome}
    (h : cluster.runApplying server plan
      (gateways.mapM (reconcileGateway adjustments fleet)) = (.ok outcomes, after))
    (secret : String) :
    after.held ⟨base.ns, secret⟩ =
      gateways.foldl (fun found gateway => gateway.leaves fleet.name secret found)
        (cluster.held ⟨base.ns, secret⟩) := by
  induction gateways generalizing cluster outcomes with
  | nil => exact congrArg (·.held ⟨base.ns, secret⟩) (congrArg Prod.snd h).symm
  | cons gateway rest ih =>
      rw [List.mapM_cons] at h
      obtain ⟨outcome, middle, hhead, htail⟩ := exists_of_runApplying_bind h
      obtain ⟨others, last, hothers, hlast⟩ := exists_of_runApplying_bind htail
      obtain rfl : last = after := congrArg Prod.snd hlast
      obtain ⟨base', hbase', hleaves⟩ := held_reconcileGateway hhead
      obtain rfl := Except.ok.inj (hbase.symm.trans hbase')
      rw [List.foldl_cons, ih hothers, hleaves]

end

/-! ## What the pods mount -/

/-- An adjustment that does not change the volumes of the pods. -/
def KeepsVolumes (adjust : Adjustment) : Prop :=
  ∀ workload, (adjust workload).spec.template.spec.volumes = workload.spec.template.spec.volumes

/-- The secret that the pods of a gateway mount holds the custom properties that are written out
for the gateway, if there are any. -/
def SimulatedCluster.MountsOwn (cluster : SimulatedCluster) (adjustments : List Adjustment)
    (base : WorkloadMeta) (gateway : GatewayDescriptor) : Prop :=
  ∀ text, gateway.ownProperties? = some text → ∀ hash version, ∃ secret,
    (StatefulSet.desired base gateway hash version adjustments).propertiesSecret? = some secret ∧
      cluster.held ⟨base.ns, secret⟩ = some (Text.bytes text)

section

open SimulatedCluster

variable {adjustments : List Adjustment} {fleet : Fleet} {base : WorkloadMeta}
  {gateway : GatewayDescriptor} {owner : String} {own : Option String}

theorem propertiesSecret?_desired (hkeep : ∀ adjust ∈ adjustments, KeepsVolumes adjust)
    (h : gateway.KeepsUnder fleet.name owner own) (hown : own ≠ none) (hash : String)
    (version : ServerVersion) :
    (StatefulSet.desired base gateway hash version adjustments).propertiesSecret? =
      some (customPropertiesSecretName fleet.name owner) := by
  have hvolumes : (StatefulSet.desired base gateway hash version
      adjustments).spec.template.spec.volumes = gateway.volumes :=
    foldl_adjustments_eq (·.spec.template.spec.volumes) hkeep
      (StatefulSet.plain base gateway hash version)
  rw [StatefulSet.propertiesSecret?, hvolumes, h.mounts hown]
  rfl

theorem mountsOwn_iff (hkeep : ∀ adjust ∈ adjustments, KeepsVolumes adjust)
    (h : gateway.KeepsUnder fleet.name owner own) (cluster : SimulatedCluster) :
    cluster.MountsOwn adjustments base gateway ↔
      ∀ text, own = some text →
        cluster.held ⟨base.ns, customPropertiesSecretName fleet.name owner⟩ =
          some (Text.bytes text) := by
  constructor
  · intro hmounts text htext
    obtain ⟨secret, hsecret, hheld⟩ := hmounts text (h.own_eq.trans htext) "" .unknown
    rw [propertiesSecret?_desired hkeep h (by simp [htext])] at hsecret
    rwa [Option.some.inj hsecret]
  · intro hheld text htext hash version
    have hown := h.own_eq.symm.trans htext
    exact ⟨_, propertiesSecret?_desired hkeep h (by simp [hown]) hash version, hheld text hown⟩

/-- After a successful cycle of the controller with the built-in templates each gateway of one
capability mounts its own custom properties. The merged gateway does so exactly when the other
one with the same owner has none written out that are different. -/
theorem mountsOwn_all_iff (server : SecretServer) (plan : FaultPlan) (operatorVersion : String)
    (hkeep : ∀ adjust ∈ adjustments, KeepsVolumes adjust) {before after : SimulatedCluster}
    {seconds : Nat}
    (hrun : before.runApplying server plan
      (reconcileFleet .builtin operatorVersion adjustments fleet) = (.ok seconds, after)) :
    ∃ base merged others, fleet.workloadMeta = .ok base ∧
      GatewayDescriptor.all fleet .builtin operatorVersion = .ok (merged :: others) ∧
      (∀ gateway ∈ others, after.MountsOwn adjustments base gateway) ∧
      (after.MountsOwn adjustments base merged ↔ ¬ fleet.PropertiesClash) := by
  obtain ⟨gateways, start, hfirst, hrest⟩ := exists_of_runApplying_bind hrun
  obtain ⟨hall, rfl⟩ := eq_of_runApplying_ofExcept hfirst
  obtain ⟨outcomes, last, hcycles, hlast⟩ := exists_of_runApplying_bind hrest
  obtain rfl : last = after := congrArg Prod.snd hlast
  obtain ⟨merged, kubemon, routing, rfl, hmerged, hkubemon, hrouting⟩ := keepsUnder_all hall
  obtain ⟨base, hbase⟩ : ∃ base, fleet.workloadMeta = .ok base := by
    have hcons := hcycles
    rw [List.mapM_cons] at hcons
    obtain ⟨_, _, hone, -⟩ := exists_of_runApplying_bind hcons
    obtain ⟨base, hbase, -⟩ := held_reconcileGateway hone
    exact ⟨base, hbase⟩
  have hheld := held_mapM hbase hcycles
  simp only [List.foldl_cons, List.foldl_nil] at hheld
  refine ⟨base, merged, [kubemon, routing], hbase, hall, ?_, ?_⟩
  · intro gateway hmem
    rcases List.mem_cons.1 hmem with rfl | hmem
    · refine (mountsOwn_iff hkeep hkubemon _).2 fun text htext => ?_
      rw [hheld, hrouting.leaves_of_owner_ne (by decide), hkubemon.leaves_own htext]
    · obtain rfl := List.mem_singleton.1 hmem
      refine (mountsOwn_iff hkeep hrouting _).2 fun text htext => ?_
      rw [hheld, hrouting.leaves_own htext]
  · rw [mountsOwn_iff hkeep hmerged]
    have hkept (text : String) (htext : fleet.mergedProperties? = some text) :
        last.held ⟨base.ns, customPropertiesSecretName fleet.name fleet.mergedOwner⟩ =
            some (Text.bytes text) ↔
          ∀ other, fleet.rivalProperties? = some other → other = text := by
      rw [hheld, hmerged.leaves_own htext]
      unfold Fleet.mergedOwner Fleet.rivalProperties?
      split
      · rw [hrouting.leaves_of_owner_ne (by decide)]
        exact hkubemon.leaves_eq_iff text
      · rw [hkubemon.leaves_of_owner_ne (by decide)]
        exact hrouting.leaves_eq_iff text
    constructor
    · rintro hmounts ⟨own, other, hown, hother, hne⟩
      exact hne ((hkept own hown).1 (hmounts own hown) other hother)
    · intro hclash text htext
      exact (hkept text htext).2 fun other hother => Decidable.not_not.1 fun hne =>
        hclash ⟨text, other, htext, hother, hne⟩

end

/-! ## Two texts in one fleet -/

/-- A server whose secrets nobody but the operator writes. -/
def SecretServer.replacing : SecretServer where
  apply secret secrets := secrets.insert ⟨secret.ns, secret.name⟩ secret.data
  has_applied secret secrets key value h := by rw [SortedMap.get?_insert_self]; exact h
  keeps_others secret secrets other h := by
    have hne : compare other (⟨secret.ns, secret.name⟩ : ObjectKey) ≠ .eq :=
      fun heq => h (Std.LawfulEqCmp.compare_eq_iff_eq.1 heq)
    rw [SortedMap.get?_insert, if_neg hne]

/-- Custom properties that are written out, and nothing else. -/
def inlineOnly (text : String) : CapabilityProperties :=
  { CapabilityProperties.none with customProperties := some ⟨text, ""⟩ }

/-- A fleet with one text for the merged gateway and another one for the gateway that routes. -/
def twoTextFleet (capabilities : List CapabilityKind) : Fleet :=
  { sampleFleet with
    spec := { sampleFleet.spec with
      activeGate := { sampleFleet.spec.activeGate with
        capabilities := capabilities
        properties := inlineOnly "a=1" }
      routing := some ⟨true, "", inlineOnly "b=2"⟩ } }

/-- A cycle of the controller for that fleet in which nothing fails. -/
def twoTextCycle (capabilities : List CapabilityKind) (adjustments : List Adjustment) :
    Except GatewayError Nat × SimulatedCluster :=
  sampleCluster.runApplying .replacing .clear
    (reconcileFleet .builtin "1.0.0" adjustments (twoTextFleet capabilities))

/-- Next to a merged gateway that monitors the cluster, both texts are mounted where they
belong. -/
theorem mountsOwn_of_different_owners :
    (twoTextCycle [.kubernetesMonitoring, .dataIngest]
        [(WorkloadChange.replicas (some 2)).apply]).1 = .ok changedRequeue ∧
      ∃ base merged others,
        (twoTextFleet [.kubernetesMonitoring, .dataIngest]).workloadMeta = .ok base ∧
        GatewayDescriptor.all (twoTextFleet [.kubernetesMonitoring, .dataIngest]) .builtin
          "1.0.0" = .ok (merged :: others) ∧
        ∀ gateway ∈ merged :: others,
          (twoTextCycle [.kubernetesMonitoring, .dataIngest]
            [(WorkloadChange.replicas (some 2)).apply]).2.MountsOwn
            [(WorkloadChange.replicas (some 2)).apply] base gateway := by
  have hkeep : ∀ adjust ∈ [(WorkloadChange.replicas (some 2)).apply], KeepsVolumes adjust := by
    intro adjust hmem
    obtain rfl := List.mem_singleton.1 hmem
    exact fun _ => rfl
  have hrun : twoTextCycle [.kubernetesMonitoring, .dataIngest]
      [(WorkloadChange.replicas (some 2)).apply] =
      (.ok changedRequeue, (twoTextCycle [.kubernetesMonitoring, .dataIngest]
        [(WorkloadChange.replicas (some 2)).apply]).2) := Prod.ext rfl rfl
  obtain ⟨base, merged, others, hbase, hall, hothers, hmerged⟩ :=
    mountsOwn_all_iff .replacing .clear "1.0.0" hkeep hrun
  refine ⟨congrArg Prod.fst hrun, base, merged, others, hbase, hall,
    List.forall_mem_cons.2 ⟨hmerged.2 ?_, hothers⟩⟩
  rintro ⟨own, other, -, hother, -⟩
  cases hother

/-- Next to a merged gateway that routes, the gateway that routes puts its text in the place of
the other one, and the pods of the merged gateway mount it. -/
theorem merged_gateway_mounts_other_text :
    (twoTextCycle [.routing] []).1 = .ok changedRequeue ∧
      ∃ base merged others, (twoTextFleet [.routing]).workloadMeta = .ok base ∧
        GatewayDescriptor.all (twoTextFleet [.routing]) .builtin "1.0.0" =
          .ok (merged :: others) ∧
        ¬ (twoTextCycle [.routing] []).2.MountsOwn [] base merged := by
  refine ⟨rfl, _, _, _, rfl, rfl, fun hmounts => ?_⟩
  obtain ⟨secret, hsecret, hheld⟩ := hmounts "a=1" rfl "" .unknown
  obtain rfl : "fleet--custom-properties" = secret := Option.some.inj hsecret
  have hother : (twoTextCycle [.routing] []).2.held ⟨"meridian", "fleet--custom-properties"⟩ =
      some (Text.bytes "b=2") := rfl
  have hsame := Option.some.inj (hother.symm.trans hheld)
  exact absurd hsame (by decide)

end FleetOperator
