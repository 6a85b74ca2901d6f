import FleetOperator.Gateway.Controller
import FleetOperator.Proofs.Gateway.Faults

/-!
# What a gateway cycle does

A cycle first finds out what the workload should be, and only then looks at
the live object and settles the difference. The first part makes no write,
and what it comes to is a function of the fleet, the gateway, the secrets and
the version that it was told (`desiredResult`), unless a call failed on the
way. The second part makes at most one write.

`ConvergeRun` and `RetireRun` say, constructor by constructor, everything
that one cycle can do under any plan of failures, and `GatewayRun` says it
whether the gateway should exist or not. Whatever is proved about many cycles
is a case analysis over them, and does not look at the programs again.
-/

namespace FleetOperator

open SimulatedCluster
open GatewayProgram (ask askOr ofExcept)

/-! ## Writes -/

/-- The object under the resource version of a write. -/
def StatefulSet.atRevision (workload : StatefulSet) (revision : Nat) : StatefulSet :=
  { workload with
    metadata := { workload.metadata with resourceVersion := some (toString revision) } }

@[simp]
theorem StatefulSet.key_atRevision (workload : StatefulSet) (revision : Nat) :
    (workload.atRevision revision).key = workload.key := rfl

namespace SimulatedCluster

theorem objects_write (cluster : SimulatedCluster) (workload : StatefulSet) :
    (cluster.write workload).objects =
      cluster.objects.insert workload.key (workload.atRevision (cluster.revision + 1)) := rfl

theorem get?_write (cluster : SimulatedCluster) (workload : StatefulSet) (key : ObjectKey) :
    (cluster.write workload).objects.get? key =
      if key = workload.key then some (workload.atRevision (cluster.revision + 1))
      else cluster.objects.get? key := by
  have hcompare : compare key workload.key = .eq ↔ key = workload.key :=
    Std.LawfulEqCmp.compare_eq_iff_eq
  rw [objects_write, SortedMap.get?_insert]
  simp only [hcompare]

theorem get?_remove (cluster : SimulatedCluster) (removed key : ObjectKey) :
    (cluster.remove removed).objects.get? key =
      if key = removed then none else cluster.objects.get? key := by
  have hcompare : compare key removed = .eq ↔ key = removed :=
    Std.LawfulEqCmp.compare_eq_iff_eq
  refine (SortedMap.get?_erase _ _ _).trans ?_
  simp only [hcompare]

theorem sameState_write {cluster other : SimulatedCluster} (h : SameState cluster other)
    (workload : StatefulSet) : SameState (cluster.write workload) (other.write workload) := by
  obtain ⟨hobjects, hrevision, hsecrets, hversion⟩ := h
  constructor <;> simp only [write, hobjects, hrevision, hsecrets, hversion]

theorem sameState_remove {cluster other : SimulatedCluster} (h : SameState cluster other)
    (key : ObjectKey) : SameState (cluster.remove key) (other.remove key) := by
  obtain ⟨hobjects, hrevision, hsecrets, hversion⟩ := h
  constructor <;> simp only [remove, hobjects, hrevision, hsecrets, hversion]

end SimulatedCluster

/-! ## The desired workload -/

/-- What the hash of custom properties is, given the secrets. -/
def propertiesHash (secrets : SortedMap ObjectKey SecretData) (ns : String) :
    Option ValueSource → Except GatewayError String
  | none => .ok ""
  | some properties =>
    match properties.reference? with
    | none => .ok (Hash.ofText properties.value)
    | some secret => do
      let bytes ← (secretValue ns secret customPropertiesKey
        (secrets.get? ⟨ns, secret⟩)).mapError .operator
      return Hash.ofText (Text.ofBytesLossy bytes)

/-- Whether the fleet can own a secret for custom properties, if it declares any. -/
def propertiesOwner (fleet : Fleet) (base : WorkloadMeta) (gateway : GatewayDescriptor) :
    Except GatewayError Unit :=
  match gateway.customProperties? with
  | none => .ok ()
  | some _ => do
    let _ ← fleet.ownerOf (gateway.workloadName base.name)
    return ()

/-- What the workload of a gateway should be, given the secrets and the version of the cluster;
or why there is none. -/
def desiredResult (adjustments : List Adjustment) (fleet : Fleet) (gateway : GatewayDescriptor)
    (secrets : SortedMap ObjectKey SecretData) (version : ServerVersion) :
    Except GatewayError StatefulSet := do
  let base ← fleet.workloadMeta
  propertiesOwner fleet base gateway
  let hash ← propertiesHash secrets base.ns gateway.customProperties?
  let built := StatefulSet.desired base gateway hash version adjustments
  let owner ← fleet.ownerOf built.name
  return built.ownedBy owner

/-- The first part of a cycle. -/
def desiredWorkload (adjustments : List Adjustment) (fleet : Fleet)
    (gateway : GatewayDescriptor) : GatewayProgram StatefulSet := do
  let base ← ofExcept id fleet.workloadMeta
  applyCustomProperties fleet base gateway
  let built ← buildDesired adjustments base gateway
  let owner ← ofExcept id (fleet.ownerOf built.name)
  return built.ownedBy owner

theorem convergeGateway_eq (adjustments : List Adjustment) (fleet : Fleet)
    (gateway : GatewayDescriptor) :
    convergeGateway adjustments fleet gateway =
      desiredWorkload adjustments fleet gateway >>= fun desired =>
        ask (.get desired.ns desired.name) >>= settle desired := by
  simp only [convergeGateway, desiredWorkload, bind_assoc, pure_bind]

theorem readsOnly_applyCustomProperties (fleet : Fleet) (base : WorkloadMeta)
    (gateway : GatewayDescriptor) : (applyCustomProperties fleet base gateway).ReadsOnly := by
  unfold applyCustomProperties
  split
  · exact .pure ()
  · exact .bind (.ofExcept _ _) fun _ => .ask rfl

theorem asksOnly_hashCustomProperties {p : GatewayCall → Prop}
    (hread : ∀ ns name, p (.readSecret ns name)) (ns : String)
    (properties? : Option ValueSource) : (hashCustomProperties ns properties?).AsksOnly p := by
  unfold hashCustomProperties
  split
  · exact .pure ""
  · split
    · exact .pure _
    · exact .bind (.ask (hread _ _)) fun _ => .bind (.ofExcept _ _) fun _ => .pure _

theorem asksOnly_buildDesired {p : GatewayCall → Prop}
    (hread : ∀ ns name, p (.readSecret ns name)) (hversion : p .serverVersion)
    (adjustments : List Adjustment) (base : WorkloadMeta) (gateway : GatewayDescriptor) :
    (buildDesired adjustments base gateway).AsksOnly p :=
  .bind (asksOnly_hashCustomProperties hread base.ns gateway.customProperties?) fun _ =>
    .bind (.askOr hversion _) fun _ => .pure _

theorem readsOnly_desiredWorkload (adjustments : List Adjustment) (fleet : Fleet)
    (gateway : GatewayDescriptor) : (desiredWorkload adjustments fleet gateway).ReadsOnly := by
  refine .bind (.ofExcept _ _) fun base => ?_
  refine .bind (readsOnly_applyCustomProperties fleet base gateway) fun _ => ?_
  have hbuilds : (buildDesired adjustments base gateway).ReadsOnly :=
    asksOnly_buildDesired (fun _ _ => by rfl) (by rfl) adjustments base gateway
  exact .bind hbuilds fun built => .bind (.ofExcept _ _) fun owner => .pure _

/-! ## What the first part comes to -/

/-- A program comes to a result, or to an error where a call fails that has to be answered. -/
def ComesTo {α : Type} (plan : FaultPlan) (got expected : Except GatewayError α) : Prop :=
  got = expected ∨ (∃ e, got = .error e) ∧ ¬ plan.SparesOthers

namespace ComesTo

variable {α β : Type} {plan : FaultPlan} {cluster : SimulatedCluster}

theorem bind {program : GatewayProgram α} {next : α → GatewayProgram β}
    {expected : Except GatewayError α} {expectedNext : α → Except GatewayError β}
    (h : ComesTo plan (cluster.runUnder plan program).1 expected)
    (hnext : ∀ value, expected = .ok value →
      ComesTo plan ((cluster.runUnder plan program).2.runUnder plan (next value)).1
        (expectedNext value)) :
    ComesTo plan (cluster.runUnder plan (program >>= next)).1 (expected >>= expectedNext) := by
  rw [runUnder_bind]
  cases hrun : cluster.runUnder plan program with
  | mk result after =>
      rw [hrun] at h hnext
      rcases h with hresult | ⟨⟨e, hresult⟩, hplan⟩
      · cases result with
        | ok value =>
            rw [← hresult]
            exact hnext value hresult.symm
        | error e =>
            rw [← hresult]
            exact .inl rfl
      · cases result with
        | ok value => cases hresult
        | error e => exact .inr ⟨⟨e, rfl⟩, hplan⟩

theorem pure (value : α) :
    ComesTo plan (cluster.runUnder plan (Pure.pure value)).1 (.ok value) := .inl rfl

theorem ofExcept {ε : Type} (plan : FaultPlan) (cluster : SimulatedCluster)
    (wrap : ε → GatewayError) (value : Except ε α) :
    ComesTo plan (cluster.runUnder plan (GatewayProgram.ofExcept wrap value)).1
      (value.mapError wrap) := .inl rfl

theorem ask {call : GatewayCall} (hcall : call ≠ .serverVersion) :
    ComesTo plan (cluster.runUnder plan (GatewayProgram.ask call)).1
      (.ok ((cluster.recorded call).serve call).1) := by
  rw [runUnder_ask]
  cases hplan : plan cluster.calls call with
  | none => exact .inl rfl
  | some e =>
      refine .inr ⟨⟨_, rfl⟩, fun hspares => ?_⟩
      rw [hspares cluster.calls call hcall] at hplan
      cases hplan

end ComesTo

theorem mapError_id {α : Type} (value : Except GatewayError α) : value.mapError id = value := by
  cases value <;> rfl

theorem comesTo_applyCustomProperties (plan : FaultPlan) (cluster : SimulatedCluster)
    (fleet : Fleet) (base : WorkloadMeta) (gateway : GatewayDescriptor) :
    ComesTo plan (cluster.runUnder plan (applyCustomProperties fleet base gateway)).1
      (propertiesOwner fleet base gateway) := by
  unfold applyCustomProperties propertiesOwner
  cases gateway.customProperties? with
  | none => exact .pure ()
  | some properties =>
      have howner := ComesTo.ofExcept plan cluster id
        (fleet.ownerOf (gateway.workloadName base.name))
      rw [mapError_id] at howner
      exact howner.bind fun owner _ => .ask (by simp)

theorem comesTo_hashCustomProperties (plan : FaultPlan) (cluster : SimulatedCluster) (ns : String)
    (properties? : Option ValueSource) :
    ComesTo plan (cluster.runUnder plan (hashCustomProperties ns properties?)).1
      (propertiesHash cluster.secrets ns properties?) := by
  cases properties? with
  | none => exact .pure ""
  | some properties =>
      simp only [hashCustomProperties, propertiesHash]
      cases properties.reference? with
      | none => exact .pure _
      | some secret =>
          have hhash (found : Option SecretData) (after : SimulatedCluster) :=
            (ComesTo.ofExcept plan after GatewayError.operator
              (secretValue ns secret customPropertiesKey found)).bind
              fun bytes _ => .pure (Hash.ofText (Text.ofBytesLossy bytes))
          have hread : ComesTo plan
              (cluster.runUnder plan (GatewayProgram.ask (.readSecret ns secret))).1 _ :=
            .ask (by simp)
          exact hread.bind fun found _ => hhash found _

theorem comesTo_serverVersion (plan : FaultPlan) (cluster : SimulatedCluster) :
    ComesTo plan (cluster.runUnder plan (askOr .serverVersion .unknown)).1
      (.ok (plan.seen cluster.calls cluster.version)) := by
  rw [runUnder_askVersion]
  exact .inl rfl

theorem comesTo_buildDesired (plan : FaultPlan) (cluster : SimulatedCluster)
    (adjustments : List Adjustment) (base : WorkloadMeta) (gateway : GatewayDescriptor) :
    ∃ calls, ComesTo plan (cluster.runUnder plan (buildDesired adjustments base gateway)).1
      (do
        let hash ← propertiesHash cluster.secrets base.ns gateway.customProperties?
        return .desired base gateway hash (plan.seen calls cluster.version) adjustments) := by
  have hquiet := undisturbed_runUnder
    (asksOnly_hashCustomProperties (fun _ _ => by rfl) base.ns gateway.customProperties?)
    plan cluster
  refine ⟨(cluster.runUnder plan
    (hashCustomProperties base.ns gateway.customProperties?)).2.calls, ?_⟩
  refine (comesTo_hashCustomProperties plan cluster base.ns _).bind fun hash _ => ?_
  rw [← hquiet.version]
  exact (comesTo_serverVersion plan _).bind fun version _ => .pure _

/-- The first part of a cycle comes to the desired workload for the version that it is told. -/
theorem comesTo_desiredWorkload (plan : FaultPlan) (cluster : SimulatedCluster)
    (adjustments : List Adjustment) (fleet : Fleet) (gateway : GatewayDescriptor) :
    ∃ calls, ComesTo plan (cluster.runUnder plan (desiredWorkload adjustments fleet gateway)).1
      (desiredResult adjustments fleet gateway cluster.secrets
        (plan.seen calls cluster.version)) := by
  cases hmeta : fleet.workloadMeta with
  | error e =>
      refine ⟨[], .inl ?_⟩
      rw [desiredWorkload, desiredResult, runUnder_bind, runUnder_ofExcept, hmeta]
      rfl
  | ok base =>
      have hquiet := undisturbed_runUnder
        (readsOnly_applyCustomProperties fleet base gateway) plan cluster
      obtain ⟨calls, hbuilt⟩ := comesTo_buildDesired plan
        (cluster.runUnder plan (applyCustomProperties fleet base gateway)).2 adjustments base
        gateway
      rw [hquiet.secrets, hquiet.version] at hbuilt
      refine ⟨calls, ?_⟩
      have hlast := (comesTo_applyCustomProperties plan cluster fleet base gateway).bind
        fun _ _ => hbuilt.bind fun built _ =>
          (ComesTo.ofExcept plan _ id (fleet.ownerOf built.name)).bind
            fun owner _ => .pure (built.ownedBy owner)
      simp only [mapError_id, bind_assoc, pure_bind] at hlast
      rw [desiredWorkload, desiredResult, runUnder_bind, runUnder_ofExcept, hmeta]
      exact hlast

/-! ## What a whole cycle does -/

/-- What settling the difference does to the objects of a cluster. -/
inductive ConvergeEffect (cluster : SimulatedCluster) (desired : StatefulSet) :
    Outcome → SimulatedCluster → Prop
  | created {after : SimulatedCluster}
      (habsent : cluster.objects.get? desired.key = none)
      (hwrite : SameState (cluster.write desired) after) :
      ConvergeEffect cluster desired .created after
  | deleted {after : SimulatedCluster} {live : StatefulSet}
      (hlive : cluster.objects.get? desired.key = some live)
      (hlabels : live.metadata.labels ≠ desired.metadata.labels)
      (hremove : SameState (cluster.remove live.key) after) :
      ConvergeEffect cluster desired .deleted after
  | updated {after : SimulatedCluster} {live : StatefulSet}
      (hlive : cluster.objects.get? desired.key = some live)
      (hlabels : live.metadata.labels = desired.metadata.labels)
      (hdiffers : live.differsFrom desired = true)
      (hwrite : SameState (cluster.write desired) after) :
      ConvergeEffect cluster desired .updated after
  | unchanged {after : SimulatedCluster} {live : StatefulSet}
      (hlive : cluster.objects.get? desired.key = some live)
      (hlabels : live.metadata.labels = desired.metadata.labels)
      (hsame : live.differsFrom desired = false)
      (hquiet : Undisturbed cluster after) :
      ConvergeEffect cluster desired .unchanged after

theorem ConvergeEffect.of_undisturbed {cluster other after : SimulatedCluster}
    {desired : StatefulSet} {outcome : Outcome} (h : Undisturbed cluster other)
    (heffect : ConvergeEffect other desired outcome after) :
    ConvergeEffect cluster desired outcome after := by
  cases heffect with
  | created habsent hwrite =>
      rw [h.objects] at habsent
      exact .created habsent ((sameState_write h.toSameState desired).trans hwrite)
  | deleted hlive hlabels hremove =>
      rw [h.objects] at hlive
      exact .deleted hlive hlabels ((sameState_remove h.toSameState _).trans hremove)
  | updated hlive hlabels hdiffers hwrite =>
      rw [h.objects] at hlive
      exact .updated hlive hlabels hdiffers ((sameState_write h.toSameState desired).trans hwrite)
  | unchanged hlive hlabels hsame hquiet =>
      rw [h.objects] at hlive
      exact .unchanged hlive hlabels hsame (h.trans hquiet)

/-- A last call either fails, or is served and gives the outcome. -/
theorem runUnder_ask_pure (plan : FaultPlan) (cluster : SimulatedCluster) (call : GatewayCall)
    (outcome : Outcome) :
    (∃ e, cluster.runUnder plan (ask call >>= fun _ => pure outcome) =
        (.error e, cluster.recorded call) ∧ plan cluster.calls call ≠ none) ∨
      cluster.runUnder plan (ask call >>= fun _ => pure outcome) =
        (.ok outcome, ((cluster.recorded call).serve call).2) := by
  rw [runUnder_bind, runUnder_ask]
  cases plan cluster.calls call with
  | some e => exact .inl ⟨_, rfl, by simp⟩
  | none => exact .inr rfl

/-- The second part of a cycle. -/
theorem run_settle (plan : FaultPlan) (cluster : SimulatedCluster) (desired : StatefulSet) :
    (∃ e after, cluster.runUnder plan (settle desired (cluster.objects.get? desired.key)) =
        (.error e, after) ∧ SameState cluster after ∧ ¬ plan.SparesOthers) ∨
      ∃ outcome after,
        cluster.runUnder plan (settle desired (cluster.objects.get? desired.key)) =
          (.ok outcome, after) ∧ ConvergeEffect cluster desired outcome after := by
  have hfault {call : GatewayCall} (hwrite : call.isWrite = true)
      (hfails : plan cluster.calls call ≠ none) : ¬ plan.SparesOthers := by
    intro hspares
    refine hfails (hspares cluster.calls call fun hversion => ?_)
    rw [hversion] at hwrite
    cases hwrite
  cases hlive : cluster.objects.get? desired.key with
  | none =>
      rcases runUnder_ask_pure plan cluster (.create desired) .created with
        ⟨e, hrun, hfails⟩ | hrun
      · exact .inl ⟨e, _, hrun, sameState_recorded _ _, hfault rfl hfails⟩
      · exact .inr ⟨_, _, hrun, .created hlive (sameState_write (sameState_recorded _ _) desired)⟩
  | some live =>
      simp only [settle]
      split
      · next hlabels =>
          rcases runUnder_ask_pure plan cluster (.delete live) .deleted with
            ⟨e, hrun, hfails⟩ | hrun
          · exact .inl ⟨e, _, hrun, sameState_recorded _ _, hfault rfl hfails⟩
          · exact .inr ⟨_, _, hrun,
              .deleted hlive hlabels (sameState_remove (sameState_recorded _ _) _)⟩
      · next hlabels =>
          have hlabels := Decidable.of_not_not hlabels
          split
          · next hdiffers =>
              rcases runUnder_ask_pure plan cluster (.update (desired.atVersionOf live))
                .updated with ⟨e, hrun, hfails⟩ | hrun
              · exact .inl ⟨e, _, hrun, sameState_recorded _ _, hfault rfl hfails⟩
              · exact .inr ⟨_, _, hrun, .updated hlive hlabels hdiffers
                  (sameState_write (sameState_recorded _ _) desired)⟩
          · next hsame =>
              exact .inr ⟨_, _, rfl,
                .unchanged hlive hlabels (Bool.not_eq_true _ ▸ hsame) (.refl _)⟩

section

variable (plan : FaultPlan) (cluster : SimulatedCluster) (adjustments : List Adjustment)
  (fleet : Fleet) (gateway : GatewayDescriptor)

/-- Everything that the cycle of a gateway that should exist can do. -/
inductive ConvergeRun : Except GatewayError Outcome × SimulatedCluster → Prop
  | failed {e : GatewayError} {after : SimulatedCluster}
      (hstate : SameState cluster after)
      (hcause : plan.SparesOthers → ∃ calls, desiredResult adjustments fleet gateway
        cluster.secrets (plan.seen calls cluster.version) = .error e) :
      ConvergeRun (.error e, after)
  | settled {desired : StatefulSet} {calls : List GatewayCall} {outcome : Outcome}
      {after : SimulatedCluster}
      (hbuilt : (cluster.runUnder plan (desiredWorkload adjustments fleet gateway)).1 =
        .ok desired)
      (hdesired : desiredResult adjustments fleet gateway cluster.secrets
        (plan.seen calls cluster.version) = .ok desired)
      (heffect : ConvergeEffect cluster desired outcome after) :
      ConvergeRun (.ok outcome, after)

theorem run_convergeGateway : ConvergeRun plan cluster adjustments fleet gateway
    (cluster.runUnder plan (convergeGateway adjustments fleet gateway)) := by
  rw [convergeGateway_eq, runUnder_bind]
  obtain ⟨calls, hcomes⟩ :=
    comesTo_desiredWorkload plan cluster adjustments fleet gateway
  have hquiet := undisturbed_runUnder (readsOnly_desiredWorkload adjustments fleet gateway)
    plan cluster
  cases hrun : cluster.runUnder plan (desiredWorkload adjustments fleet gateway) with
  | mk result middle =>
      rw [hrun] at hcomes hquiet
      cases result with
      | error e =>
          refine .failed hquiet.toSameState fun hspares => ?_
          rcases hcomes with hresult | ⟨-, hplan⟩
          · exact ⟨calls, hresult.symm⟩
          · exact absurd hspares hplan
      | ok desired =>
          have hdesired : desiredResult adjustments fleet gateway cluster.secrets
              (plan.seen calls cluster.version) = .ok desired := by
            rcases hcomes with hresult | ⟨⟨e, hresult⟩, -⟩
            · exact hresult.symm
            · cases hresult
          simp only
          rw [runUnder_get_bind]
          have hread : Undisturbed cluster (middle.recorded (.get desired.ns desired.name)) :=
            hquiet.trans (undisturbed_recorded middle rfl)
          cases hplan : plan middle.calls (.get desired.ns desired.name) with
          | some e =>
              refine .failed hread.toSameState fun hspares => ?_
              rw [hspares middle.calls _ (by simp)] at hplan
              cases hplan
          | none =>
              rcases run_settle plan (middle.recorded (.get desired.ns desired.name)) desired with
                ⟨e, after, hsettle, hstate, hfails⟩ | ⟨outcome, after, hsettle, heffect⟩
              · have hend : ConvergeRun plan cluster adjustments fleet gateway (.error e, after) :=
                  .failed (hread.toSameState.trans hstate) fun hspares => absurd hspares hfails
                rw [← hsettle] at hend
                exact hend
              · have hend := ConvergeRun.settled (congrArg Prod.fst hrun) hdesired
                  (heffect.of_undisturbed hread)
                rw [← hsettle] at hend
                exact hend

/-- Where the workload can be built and no call fails but the one for the version, the cycle
comes to an effect. -/
theorem exists_effect_of_sparesOthers {plan : FaultPlan} {cluster : SimulatedCluster}
    {adjustments : List Adjustment} {fleet : Fleet} {gateway : GatewayDescriptor}
    {desired : StatefulSet} (hplan : plan.SparesOthers)
    (hdesired : ∀ calls, desiredResult adjustments fleet gateway cluster.secrets
      (plan.seen calls cluster.version) = .ok desired) :
    ∃ outcome after,
      cluster.runUnder plan (convergeGateway adjustments fleet gateway) = (.ok outcome, after) ∧
        ConvergeEffect cluster desired outcome after := by
  have hrun := run_convergeGateway plan cluster adjustments fleet gateway
  generalize cluster.runUnder plan (convergeGateway adjustments fleet gateway) = result at hrun ⊢
  cases hrun with
  | failed hstate hcause =>
      obtain ⟨calls, herror⟩ := hcause hplan
      rw [hdesired calls] at herror
      cases herror
  | settled _ hbuilt heffect =>
      rw [hdesired _] at hbuilt
      obtain rfl := Except.ok.inj hbuilt
      exact ⟨_, _, rfl, heffect⟩

/-- Everything that the cycle of a gateway that should not exist can do. -/
inductive RetireRun : Except GatewayError Outcome × SimulatedCluster → Prop
  | failed {e : GatewayError} {after : SimulatedCluster}
      (hstate : SameState cluster after)
      (hcause : plan.SparesOthers → fleet.workloadMeta = .error e) :
      RetireRun (.error e, after)
  | deleted {base : WorkloadMeta} {live : StatefulSet} {after : SimulatedCluster}
      (hbase : fleet.workloadMeta = .ok base)
      (hlive : cluster.objects.get? ⟨base.ns, gateway.workloadName base.name⟩ = some live)
      (hgateway : live.isGatewayOf base.name gateway.moduleName = true)
      (hremove : SameState (cluster.remove live.key) after) :
      RetireRun (.ok .deleted, after)
  | unchanged {base : WorkloadMeta} {after : SimulatedCluster}
      (hbase : fleet.workloadMeta = .ok base)
      (hother : ∀ live,
        cluster.objects.get? ⟨base.ns, gateway.workloadName base.name⟩ = some live →
          live.isGatewayOf base.name gateway.moduleName = false)
      (hquiet : Undisturbed cluster after) :
      RetireRun (.ok .unchanged, after)

/-- Removes a live object that is the gateway's. -/
def settleAbsence (base : WorkloadMeta) (gateway : GatewayDescriptor) :
    Option StatefulSet → GatewayProgram Outcome
  | none => pure .unchanged
  | some live =>
    if live.isGatewayOf base.name gateway.moduleName then do
      ask (.delete live)
      return .deleted
    else pure .unchanged

theorem retireGateway_eq : retireGateway fleet gateway =
    ofExcept id fleet.workloadMeta >>= fun base =>
      ask (.get base.ns (gateway.workloadName base.name)) >>= settleAbsence base gateway := by
  unfold retireGateway
  refine bind_congr fun base => bind_congr fun live => ?_
  cases live <;> rfl

theorem run_retireGateway :
    RetireRun plan cluster fleet gateway (cluster.runUnder plan (retireGateway fleet gateway)) := by
  rw [retireGateway_eq, runUnder_bind, runUnder_ofExcept, mapError_id]
  cases hbase : fleet.workloadMeta with
  | error e => exact .failed (.refl cluster) fun _ => hbase
  | ok base =>
      simp only
      rw [runUnder_get_bind]
      have hread : Undisturbed cluster
          (cluster.recorded (.get base.ns (gateway.workloadName base.name))) :=
        undisturbed_recorded cluster rfl
      cases hplan : plan cluster.calls (.get base.ns (gateway.workloadName base.name)) with
      | some e =>
          refine .failed hread.toSameState fun hspares => ?_
          rw [hspares cluster.calls _ (by simp)] at hplan
          cases hplan
      | none =>
          simp only
          generalize hmiddle :
            cluster.recorded (.get base.ns (gateway.workloadName base.name)) = middle at hread ⊢
          cases hlive : cluster.objects.get? ⟨base.ns, gateway.workloadName base.name⟩ with
          | none => exact .unchanged hbase (by simp [hlive]) hread
          | some live =>
              simp only [settleAbsence]
              split
              · next hgateway =>
                  rcases runUnder_ask_pure plan middle (.delete live) .deleted with
                    ⟨e, hrun, hfails⟩ | hrun
                  · refine (congrArg _ hrun).mpr (.failed
                      (hread.toSameState.trans (sameState_recorded _ _)) fun hspares => ?_)
                    exact absurd (hspares middle.calls _ (by simp)) hfails
                  · exact (congrArg _ hrun).mpr (.deleted hbase hlive hgateway
                      (sameState_remove (hread.toSameState.trans (sameState_recorded _ _)) _))
              · next hgateway =>
                  refine .unchanged hbase (fun other hother => ?_) hread
                  rw [hlive] at hother
                  obtain rfl := Option.some.inj hother
                  exact Bool.not_eq_true _ ▸ hgateway

/-- Everything that the cycle of a gateway can do, whether the gateway should exist or not. -/
inductive GatewayRun : Except GatewayError Outcome × SimulatedCluster → Prop
  | failed {e : GatewayError} {after : SimulatedCluster}
      (hstate : SameState cluster after) : GatewayRun (.error e, after)
  | converged {desired : StatefulSet} {calls : List GatewayCall} {outcome : Outcome}
      {after : SimulatedCluster} (henabled : gateway.enabled = true)
      (hbuilt : (cluster.runUnder plan (desiredWorkload adjustments fleet gateway)).1 =
        .ok desired)
      (hdesired : desiredResult adjustments fleet gateway cluster.secrets
        (plan.seen calls cluster.version) = .ok desired)
      (heffect : ConvergeEffect cluster desired outcome after) :
      GatewayRun (.ok outcome, after)
  | retired {base : WorkloadMeta} {live : StatefulSet} {after : SimulatedCluster}
      (hdisabled : gateway.enabled = false) (hbase : fleet.workloadMeta = .ok base)
      (hlive : cluster.objects.get? ⟨base.ns, gateway.workloadName base.name⟩ = some live)
      (hgateway : live.isGatewayOf base.name gateway.moduleName = true)
      (hremove : SameState (cluster.remove live.key) after) :
      GatewayRun (.ok .deleted, after)
  | absent {base : WorkloadMeta} {after : SimulatedCluster}
      (hdisabled : gateway.enabled = false) (hbase : fleet.workloadMeta = .ok base)
      (hother : ∀ live,
        cluster.objects.get? ⟨base.ns, gateway.workloadName base.name⟩ = some live →
          live.isGatewayOf base.name gateway.moduleName = false)
      (hquiet : Undisturbed cluster after) :
      GatewayRun (.ok .unchanged, after)

theorem run_reconcileGateway : GatewayRun plan cluster adjustments fleet gateway
    (cluster.runUnder plan (reconcileGateway adjustments fleet gateway)) := by
  unfold reconcileGateway
  split
  · next henabled =>
      have hrun := run_convergeGateway plan cluster adjustments fleet gateway
      generalize cluster.runUnder plan (convergeGateway adjustments fleet gateway) = result
        at hrun ⊢
      cases hrun with
      | failed hstate hcause => exact .failed hstate
      | settled hbuilt hdesired heffect => exact .converged henabled hbuilt hdesired heffect
  · next hdisabled =>
      have hdisabled : gateway.enabled = false := Bool.not_eq_true _ ▸ hdisabled
      have hrun := run_retireGateway plan cluster fleet gateway
      generalize cluster.runUnder plan (retireGateway fleet gateway) = result at hrun ⊢
      cases hrun with
      | failed hstate hcause => exact .failed hstate
      | deleted hbase hlive hgateway hremove =>
          exact .retired hdisabled hbase hlive hgateway hremove
      | unchanged hbase hother hquiet => exact .absent hdisabled hbase hother hquiet

end

end FleetOperator
