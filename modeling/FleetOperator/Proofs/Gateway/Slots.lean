import FleetOperator.Proofs.Gateway.Cycle

/-!
# One gateway and its place in the cluster

While a fleet, its secrets and the version of the cluster stay the same, what
the controller wants under the key of a gateway is a function of what is
there (`Steady.target`). A gateway that should exist wants its desired object,
but leaves an object alone that counts as up to date. One that should not
exist wants nothing of its own there, and leaves other objects alone.

The target is what cycles agree on. A cycle may fail at any point, may delete
what a later cycle has to create anew, or may replace it; each of these steps
leaves the target as it was, up to a resource version (`slotStep`). And a
cycle without failures comes closer to it: it leaves the target in place, or
nothing at all, and out of nothing it makes the target (`clearStep`).
-/

namespace FleetOperator

open SimulatedCluster

/-! ## Contents -/

namespace StatefulSet

/-- The object as it is apart from its resource version. -/
def withoutRevision (workload : StatefulSet) : StatefulSet :=
  { workload with metadata := { workload.metadata with resourceVersion := none } }

@[simp]
theorem templateHash?_atRevision (workload : StatefulSet) (revision : Nat) :
    (workload.atRevision revision).templateHash? = workload.templateHash? := rfl

theorem differsFrom_of_hashes {live desired : StatefulSet} {built wanted : String}
    (hbuilt : live.templateHash? = some built) (hwanted : desired.templateHash? = some wanted) :
    live.differsFrom desired = (built != wanted) := by
  rw [differsFrom, hbuilt, hwanted]

theorem differsFrom_of_unhashed {live desired : StatefulSet} (h : live.templateHash? = none) :
    live.differsFrom desired = (live.spec != desired.spec) := by
  rw [differsFrom, h]

@[simp]
theorem differsFrom_atRevision (workload : StatefulSet) (revision : Nat) :
    (workload.atRevision revision).differsFrom workload = false := by
  unfold differsFrom
  rw [templateHash?_atRevision]
  cases workload.templateHash? with
  | none => exact bne_self_eq_false _
  | some built => exact bne_self_eq_false _

theorem differsFrom_self (workload : StatefulSet) : workload.differsFrom workload = false := by
  unfold differsFrom
  cases workload.templateHash? with
  | none => exact bne_self_eq_false _
  | some built => exact bne_self_eq_false _

/-- Whether a cycle leaves a live object alone. -/
def upToDate (live desired : StatefulSet) : Bool :=
  live.metadata.labels == desired.metadata.labels && !live.differsFrom desired

theorem upToDate_iff {live desired : StatefulSet} : live.upToDate desired = true ↔
    live.metadata.labels = desired.metadata.labels ∧ live.differsFrom desired = false := by
  simp [upToDate]

theorem upToDate_self (workload : StatefulSet) : workload.upToDate workload = true :=
  upToDate_iff.2 ⟨rfl, differsFrom_self workload⟩

theorem upToDate_atRevision (workload : StatefulSet) (revision : Nat) :
    (workload.atRevision revision).upToDate workload = true :=
  upToDate_iff.2 ⟨rfl, differsFrom_atRevision workload revision⟩

theorem upToDate_eq_false_of_labels {live desired : StatefulSet}
    (h : live.metadata.labels ≠ desired.metadata.labels) : live.upToDate desired = false := by
  rw [Bool.eq_false_iff]
  exact fun hup => h (upToDate_iff.1 hup).1

theorem upToDate_eq_false_of_differs {live desired : StatefulSet}
    (h : live.differsFrom desired = true) : live.upToDate desired = false := by
  rw [Bool.eq_false_iff]
  intro hup
  rw [(upToDate_iff.1 hup).2] at h
  cases h

end StatefulSet

theorem ConvergeEffect.of_upToDate {cluster after : SimulatedCluster} {live desired : StatefulSet}
    {outcome : Outcome} (heffect : ConvergeEffect cluster desired outcome after)
    (hlive : cluster.objects.get? desired.key = some live)
    (hup : live.upToDate desired = true) :
    outcome = .unchanged ∧ Undisturbed cluster after := by
  cases heffect with
  | created habsent hwrite =>
      rw [habsent] at hlive
      cases hlive
  | deleted hlive' hlabels hremove =>
      obtain rfl := Option.some.inj (hlive.symm.trans hlive')
      rw [StatefulSet.upToDate_eq_false_of_labels hlabels] at hup
      cases hup
  | updated hlive' hlabels hdiffers hwrite =>
      obtain rfl := Option.some.inj (hlive.symm.trans hlive')
      rw [StatefulSet.upToDate_eq_false_of_differs hdiffers] at hup
      cases hup
  | unchanged hlive' hlabels hsame hquiet => exact ⟨rfl, hquiet⟩

theorem ConvergeEffect.exists_upToDate {cluster after : SimulatedCluster} {desired : StatefulSet}
    {outcome : Outcome} (heffect : ConvergeEffect cluster desired outcome after)
    (hne : outcome ≠ .deleted) :
    ∃ live, after.objects.get? desired.key = some live ∧ live.upToDate desired = true := by
  have hwritten (hwrite : SameState (cluster.write desired) after) :
      ∃ live, after.objects.get? desired.key = some live ∧ live.upToDate desired = true := by
    refine ⟨desired.atRevision (cluster.revision + 1), ?_, desired.upToDate_atRevision _⟩
    rw [hwrite.objects, get?_write, if_pos rfl]
  cases heffect with
  | created habsent hwrite => exact hwritten hwrite
  | deleted hlive hlabels hremove => exact absurd rfl hne
  | updated hlive hlabels hdiffers hwrite => exact hwritten hwrite
  | @unchanged _ live hlive hlabels hsame hquiet =>
      exact ⟨live, hquiet.objects ▸ hlive, StatefulSet.upToDate_iff.2 ⟨hlabels, hsame⟩⟩

/-- A cycle that finds an object with the right labels and a hash replaces it if the hash is
another one, and otherwise leaves it alone. -/
theorem ConvergeEffect.updated_or_unchanged {cluster after : SimulatedCluster}
    {live desired : StatefulSet} {built wanted : String} {outcome : Outcome}
    (heffect : ConvergeEffect cluster desired outcome after)
    (hlive : cluster.objects.get? desired.key = some live)
    (hlabels : live.metadata.labels = desired.metadata.labels)
    (hbuilt : live.templateHash? = some built) (hwanted : desired.templateHash? = some wanted) :
    (built ≠ wanted ∧ outcome = .updated ∧ SameState (cluster.write desired) after) ∨
      (built = wanted ∧ outcome = .unchanged ∧ Undisturbed cluster after) := by
  have hdiffersFrom := StatefulSet.differsFrom_of_hashes hbuilt hwanted
  cases heffect with
  | created habsent hwrite =>
      rw [habsent] at hlive
      cases hlive
  | deleted hlive' hlabels' hremove =>
      obtain rfl := Option.some.inj (hlive.symm.trans hlive')
      exact absurd hlabels hlabels'
  | updated hlive' hlabels' hdiffers hwrite =>
      obtain rfl := Option.some.inj (hlive.symm.trans hlive')
      rw [hdiffersFrom] at hdiffers
      exact .inl ⟨bne_iff_ne.1 hdiffers, rfl, hwrite⟩
  | unchanged hlive' hlabels' hsame hquiet =>
      obtain rfl := Option.some.inj (hlive.symm.trans hlive')
      rw [hdiffersFrom] at hsame
      exact .inr ⟨bne_eq_false_iff_eq.1 hsame, rfl, hquiet⟩

/-- An object with the right labels and another hash is replaced. -/
theorem ConvergeEffect.eq_updated {cluster after : SimulatedCluster} {live desired : StatefulSet}
    {built wanted : String} {outcome : Outcome}
    (heffect : ConvergeEffect cluster desired outcome after)
    (hlive : cluster.objects.get? desired.key = some live)
    (hlabels : live.metadata.labels = desired.metadata.labels)
    (hbuilt : live.templateHash? = some built) (hwanted : desired.templateHash? = some wanted)
    (hne : built ≠ wanted) : outcome = .updated := by
  rcases heffect.updated_or_unchanged hlive hlabels hbuilt hwanted with
    ⟨-, houtcome, -⟩ | ⟨hsame, -, -⟩
  · exact houtcome
  · exact absurd hsame hne

/-- What two places hold is the same, apart from resource versions. -/
def SameContents (slot other : Option StatefulSet) : Prop :=
  slot.map StatefulSet.withoutRevision = other.map StatefulSet.withoutRevision

namespace SimulatedCluster

/-- Whatever is stored has a property. -/
def Stores (P : ObjectKey → StatefulSet → Prop) (cluster : SimulatedCluster) : Prop :=
  ∀ key workload, cluster.objects.get? key = some workload → P key workload

variable {P : ObjectKey → StatefulSet → Prop} {cluster other : SimulatedCluster}

theorem Stores.write (h : cluster.Stores P) {workload : StatefulSet}
    (hnew : P workload.key (workload.atRevision (cluster.revision + 1))) :
    (cluster.write workload).Stores P := by
  intro key stored hstored
  rw [get?_write] at hstored
  split at hstored
  · next hkey =>
      obtain rfl := Option.some.inj hstored
      rw [hkey]
      exact hnew
  · exact h key stored hstored

theorem Stores.remove (h : cluster.Stores P) (removed : ObjectKey) :
    (cluster.remove removed).Stores P := by
  intro key stored hstored
  rw [get?_remove] at hstored
  split at hstored
  · cases hstored
  · exact h key stored hstored

theorem Stores.of_objects_eq (h : cluster.Stores P) (hobjects : other.objects = cluster.objects) :
    other.Stores P := by
  intro key stored hstored
  rw [hobjects] at hstored
  exact h key stored hstored

/-- Every object is stored under its own key. -/
def Keyed (cluster : SimulatedCluster) : Prop :=
  cluster.Stores fun key workload => workload.key = key

end SimulatedCluster

/-! ## The target of a gateway -/

/-- The key of the object of a gateway. -/
def GatewayDescriptor.key (gateway : GatewayDescriptor) (base : WorkloadMeta) : ObjectKey :=
  ⟨base.ns, gateway.workloadName base.name⟩

/-- No two gateways have one key. -/
def DistinctKeys (base : WorkloadMeta) (gateways : List GatewayDescriptor) : Prop :=
  gateways.Pairwise fun gateway other => other.key base ≠ gateway.key base

/-- What stays as it is over a run of the controller. -/
structure Steady where
  adjustments : List Adjustment
  fleet : Fleet
  secrets : SortedMap ObjectKey SecretData
  version : ServerVersion
  base : WorkloadMeta
  base_eq : fleet.workloadMeta = .ok base

namespace Steady

variable (steady : Steady) (gateway : GatewayDescriptor)

/-- What the workload of a gateway should be, or why there is none. -/
def desired : Except GatewayError StatefulSet :=
  desiredResult steady.adjustments steady.fleet gateway steady.secrets steady.version

/-- What should be in the place of a gateway, given what is there. -/
def target (slot : Option StatefulSet) : Option StatefulSet :=
  if gateway.enabled then
    match steady.desired gateway with
    | .error _ => slot
    | .ok desired => if slot.any (·.upToDate desired) then slot else some desired
  else slot.filter fun live => !live.isGatewayOf steady.base.name gateway.moduleName

/-- A gateway that should exist can be built, under its own key. -/
def Serves : Prop :=
  gateway.enabled = true →
    ∃ desired, steady.desired gateway = .ok desired ∧ desired.key = gateway.key steady.base

/-- A cluster under which the run goes on. -/
structure Holds (cluster : SimulatedCluster) : Prop where
  secrets : cluster.secrets = steady.secrets
  version : cluster.version = steady.version
  keyed : cluster.Keyed

theorem Holds.sameState {steady : Steady} {cluster other : SimulatedCluster}
    (h : steady.Holds cluster) (hstate : SameState cluster other) : steady.Holds other where
  secrets := hstate.secrets.trans h.secrets
  version := hstate.version.trans h.version
  keyed := h.keyed.of_objects_eq hstate.objects

theorem Holds.write {steady : Steady} {cluster : SimulatedCluster} (h : steady.Holds cluster)
    (workload : StatefulSet) : steady.Holds (cluster.write workload) :=
  ⟨h.secrets, h.version, h.keyed.write (StatefulSet.key_atRevision workload _)⟩

theorem Holds.remove {steady : Steady} {cluster : SimulatedCluster} (h : steady.Holds cluster)
    (key : ObjectKey) : steady.Holds (cluster.remove key) :=
  ⟨h.secrets, h.version, h.keyed.remove key⟩

variable {steady gateway}

theorem target_enabled (henabled : gateway.enabled = true) {desired : StatefulSet}
    (hdesired : steady.desired gateway = .ok desired) (slot : Option StatefulSet) :
    steady.target gateway slot =
      if slot.any (·.upToDate desired) then slot else some desired := by
  rw [target, if_pos henabled, hdesired]

theorem target_disabled (hdisabled : gateway.enabled = false) (slot : Option StatefulSet) :
    steady.target gateway slot =
      slot.filter fun live => !live.isGatewayOf steady.base.name gateway.moduleName := by
  rw [target, hdisabled]
  rfl

/-- What a cycle writes is the target of every place where the desired object is wanted. -/
theorem target_atRevision (henabled : gateway.enabled = true) {desired : StatefulSet}
    (hdesired : steady.desired gateway = .ok desired) (revision : Nat) :
    steady.target gateway (some (desired.atRevision revision)) =
      some (desired.atRevision revision) := by
  rw [target_enabled henabled hdesired, Option.any_some, desired.upToDate_atRevision, if_pos rfl]

theorem target_outdated (henabled : gateway.enabled = true) {desired : StatefulSet}
    (hdesired : steady.desired gateway = .ok desired) {slot : Option StatefulSet}
    (hslot : slot.any (·.upToDate desired) = false) :
    steady.target gateway slot = some desired := by
  rw [target_enabled henabled hdesired, hslot]
  rfl

end Steady

theorem ConvergeEffect.holds {steady : Steady} {cluster after : SimulatedCluster}
    {desired : StatefulSet} {outcome : Outcome}
    (heffect : ConvergeEffect cluster desired outcome after) (hholds : steady.Holds cluster) :
    steady.Holds after := by
  cases heffect with
  | created habsent hwrite => exact (hholds.write desired).sameState hwrite
  | @deleted _ live hlive hlabels hremove => exact (hholds.remove live.key).sameState hremove
  | updated hlive hlabels hdiffers hwrite => exact (hholds.write desired).sameState hwrite
  | unchanged hlive hlabels hsame hquiet => exact hholds.sameState hquiet.toSameState

/-! ## One step under any failures -/

/-- What one cycle of a gateway leaves as it was. -/
structure SlotStep (steady : Steady) (gateway : GatewayDescriptor)
    (before after : SimulatedCluster) : Prop where
  holds : steady.Holds after
  others : ∀ key, key ≠ gateway.key steady.base →
    after.objects.get? key = before.objects.get? key
  target : SameContents
    (steady.target gateway (after.objects.get? (gateway.key steady.base)))
    (steady.target gateway (before.objects.get? (gateway.key steady.base)))

section

variable {steady : Steady} {gateway : GatewayDescriptor} {cluster after : SimulatedCluster}

theorem SlotStep.of_sameState (hholds : steady.Holds cluster) (hstate : SameState cluster after) :
    SlotStep steady gateway cluster after where
  holds := hholds.sameState hstate
  others _ _ := by rw [hstate.objects]
  target := by
    rw [hstate.objects]
    rfl

theorem SlotStep.of_write (hholds : steady.Holds cluster) (henabled : gateway.enabled = true)
    {desired : StatefulSet} (hdesired : steady.desired gateway = .ok desired)
    (hkey : desired.key = gateway.key steady.base)
    (houtdated : (cluster.objects.get? (gateway.key steady.base)).any (·.upToDate desired) = false)
    (hwrite : SameState (cluster.write desired) after) :
    SlotStep steady gateway cluster after where
  holds := (hholds.write desired).sameState hwrite
  others key hother := by
    rw [hwrite.objects, get?_write, hkey, if_neg hother]
  target := by
    rw [hwrite.objects, get?_write, hkey, if_pos rfl,
      Steady.target_atRevision henabled hdesired,
      Steady.target_outdated henabled hdesired houtdated]
    rfl

theorem SlotStep.of_remove (hholds : steady.Holds cluster) {live : StatefulSet}
    (hlive : cluster.objects.get? (gateway.key steady.base) = some live)
    (hremove : SameState (cluster.remove live.key) after)
    (htarget : steady.target gateway none = steady.target gateway (some live)) :
    SlotStep steady gateway cluster after where
  holds := (hholds.remove live.key).sameState hremove
  others key hother := by
    rw [hremove.objects, get?_remove, hholds.keyed _ _ hlive, if_neg hother]
  target := by
    rw [hremove.objects, get?_remove, hholds.keyed _ _ hlive, if_pos rfl, hlive, htarget]
    rfl

/-- The effect of a cycle on the place of a gateway that should exist. -/
theorem SlotStep.of_effect (hholds : steady.Holds cluster) (henabled : gateway.enabled = true)
    {desired : StatefulSet} (hdesired : steady.desired gateway = .ok desired)
    (hkey : desired.key = gateway.key steady.base) {outcome : Outcome}
    (heffect : ConvergeEffect cluster desired outcome after) :
    SlotStep steady gateway cluster after := by
  cases heffect with
  | created habsent hwrite =>
      rw [hkey] at habsent
      exact .of_write hholds henabled hdesired hkey (by rw [habsent]; rfl) hwrite
  | @deleted _ live hlive hlabels hremove =>
      rw [hkey] at hlive
      refine .of_remove hholds hlive hremove ?_
      have houtdated : (some live).any (·.upToDate desired) = false :=
        StatefulSet.upToDate_eq_false_of_labels hlabels
      rw [Steady.target_outdated henabled hdesired houtdated,
        Steady.target_outdated henabled hdesired rfl]
  | updated hlive hlabels hdiffers hwrite =>
      rw [hkey] at hlive
      refine .of_write hholds henabled hdesired hkey ?_ hwrite
      rw [hlive]
      exact StatefulSet.upToDate_eq_false_of_differs hdiffers
  | unchanged hlive hlabels hsame hquiet => exact .of_sameState hholds hquiet.toSameState

/-- A cycle leaves the target of its gateway as it was, and all other places. -/
theorem slotStep (hserves : steady.Serves gateway) (hholds : steady.Holds cluster)
    {plan : FaultPlan} (hplan : plan.AnswersVersion) :
    SlotStep steady gateway cluster
      (cluster.runUnder plan (reconcileGateway steady.adjustments steady.fleet gateway)).2 := by
  have hrun := run_reconcileGateway plan cluster steady.adjustments steady.fleet gateway
  generalize cluster.runUnder plan
    (reconcileGateway steady.adjustments steady.fleet gateway) = result at hrun ⊢
  cases hrun with
  | failed hstate => exact .of_sameState hholds hstate
  | converged henabled _ hbuilt heffect =>
      obtain ⟨desired, hdesired, hkey⟩ := hserves henabled
      rw [hholds.secrets, hholds.version, plan.seen_eq_of_answersVersion hplan] at hbuilt
      obtain rfl := Except.ok.inj (hdesired.symm.trans hbuilt)
      exact .of_effect hholds henabled hdesired hkey heffect
  | retired hdisabled hbase hlive hgateway hremove =>
      obtain rfl := Except.ok.inj (steady.base_eq.symm.trans hbase)
      refine .of_remove hholds hlive hremove ?_
      rw [Steady.target_disabled hdisabled, Steady.target_disabled hdisabled,
        Option.filter_some, hgateway]
      rfl
  | absent hdisabled hbase hother hquiet => exact .of_sameState hholds hquiet.toSameState

/-! ## One step without failures -/

/-- What is in the place of a gateway is what should be there. -/
def Settled (steady : Steady) (gateway : GatewayDescriptor) (cluster : SimulatedCluster) : Prop :=
  steady.target gateway (cluster.objects.get? (gateway.key steady.base)) =
    cluster.objects.get? (gateway.key steady.base)

/-- How much closer a cycle without failures comes to the target of its gateway. -/
structure ClearStep (steady : Steady) (gateway : GatewayDescriptor) (before : SimulatedCluster)
    (result : Except GatewayError Outcome × SimulatedCluster) : Prop where
  succeeds : ∃ outcome, result.1 = .ok outcome
  stays : Settled steady gateway before →
    result.1 = .ok .unchanged ∧ Undisturbed before result.2
  fills : before.objects.get? (gateway.key steady.base) = none →
    Settled steady gateway result.2
  settles : Settled steady gateway result.2 ∨
    result.2.objects.get? (gateway.key steady.base) = none

theorem settled_of_upToDate (henabled : gateway.enabled = true) {live desired : StatefulSet}
    (hdesired : steady.desired gateway = .ok desired)
    (hlive : cluster.objects.get? (gateway.key steady.base) = some live)
    (hup : live.upToDate desired = true) : Settled steady gateway cluster := by
  rw [Settled, hlive, Steady.target_enabled henabled hdesired, Option.any_some, if_pos hup]

theorem Settled.upToDate (h : Settled steady gateway cluster) (henabled : gateway.enabled = true)
    {desired : StatefulSet} (hdesired : steady.desired gateway = .ok desired) :
    ∃ live, cluster.objects.get? (gateway.key steady.base) = some live ∧
      live.upToDate desired = true := by
  rw [Settled, Steady.target_enabled henabled hdesired] at h
  cases hslot : cluster.objects.get? (gateway.key steady.base) with
  | none =>
      rw [hslot] at h
      cases h
  | some live =>
      refine ⟨live, rfl, ?_⟩
      rw [hslot, Option.any_some] at h
      split at h
      · next hup => exact hup
      · obtain rfl := Option.some.inj h
        exact desired.upToDate_self

theorem ClearStep.of_effect (hholds : steady.Holds cluster) (henabled : gateway.enabled = true)
    {desired : StatefulSet} (hdesired : steady.desired gateway = .ok desired)
    (hkey : desired.key = gateway.key steady.base) {outcome : Outcome}
    (heffect : ConvergeEffect cluster desired outcome after) :
    ClearStep steady gateway cluster (.ok outcome, after) := by
  have hdone (hne : outcome ≠ .deleted) : Settled steady gateway after := by
    obtain ⟨live, hlive, hup⟩ := heffect.exists_upToDate hne
    rw [hkey] at hlive
    exact settled_of_upToDate henabled hdesired hlive hup
  have hstays (hsettled : Settled steady gateway cluster) :
      outcome = .unchanged ∧ Undisturbed cluster after := by
    obtain ⟨live, hlive, hup⟩ := hsettled.upToDate henabled hdesired
    rw [← hkey] at hlive
    exact heffect.of_upToDate hlive hup
  refine ⟨⟨_, rfl⟩, fun hsettled => ?_, fun hnone => hdone fun hdeleted => ?_, ?_⟩
  · obtain ⟨rfl, hquiet⟩ := hstays hsettled
    exact ⟨rfl, hquiet⟩
  · cases heffect with
    | deleted hlive hlabels hremove =>
        rw [hkey, hnone] at hlive
        cases hlive
    | created | updated | unchanged => cases hdeleted
  · cases heffect with
    | deleted hlive hlabels hremove =>
        rw [hkey] at hlive
        refine .inr ?_
        rw [hremove.objects, get?_remove, hholds.keyed _ _ hlive, if_pos rfl]
    | created | updated | unchanged => exact .inl (hdone (by simp))

theorem clearStep (hserves : steady.Serves gateway) (hholds : steady.Holds cluster) :
    ClearStep steady gateway cluster
      (cluster.runUnder .clear (reconcileGateway steady.adjustments steady.fleet gateway)) := by
  unfold reconcileGateway
  split
  · next henabled =>
      obtain ⟨desired, hdesired, hkey⟩ := hserves henabled
      have hseen (calls : List GatewayCall) :
          desiredResult steady.adjustments steady.fleet gateway cluster.secrets
            (FaultPlan.clear.seen calls cluster.version) = .ok desired := by
        rw [hholds.secrets, hholds.version,
          FaultPlan.seen_eq_of_answersVersion FaultPlan.answersVersion_clear]
        exact hdesired
      obtain ⟨outcome, after, hrun, heffect⟩ :=
        exists_effect_of_sparesOthers FaultPlan.sparesOthers_clear hseen
      rw [hrun]
      exact .of_effect hholds henabled hdesired hkey heffect
  · next hdisabled =>
      have hdisabled : gateway.enabled = false := Bool.not_eq_true _ ▸ hdisabled
      have hrun := run_retireGateway .clear cluster steady.fleet gateway
      generalize cluster.runUnder .clear (retireGateway steady.fleet gateway) = result at hrun ⊢
      cases hrun with
      | failed hstate hcause =>
          have herror := hcause FaultPlan.sparesOthers_clear
          rw [steady.base_eq] at herror
          cases herror
      | @deleted base live after hbase hlive hgateway hremove =>
          obtain rfl := Except.ok.inj (steady.base_eq.symm.trans hbase)
          have hnone : after.objects.get? (gateway.key steady.base) = none := by
            rw [hremove.objects, get?_remove, hholds.keyed _ _ hlive]
            exact if_pos rfl
          have hdone : Settled steady gateway after := by
            rw [Settled, hnone, Steady.target_disabled hdisabled]
            rfl
          refine ⟨⟨_, rfl⟩, fun hsettled => ?_, fun _ => hdone, .inl hdone⟩
          have hslot : cluster.objects.get? (gateway.key steady.base) = some live := hlive
          rw [Settled, hslot, Steady.target_disabled hdisabled, Option.filter_some,
            hgateway] at hsettled
          cases hsettled
      | @unchanged base after hbase hother hquiet =>
          obtain rfl := Except.ok.inj (steady.base_eq.symm.trans hbase)
          have hdone : Settled steady gateway after := by
            rw [Settled, hquiet.objects, Steady.target_disabled hdisabled]
            cases hslot : cluster.objects.get? (gateway.key steady.base) with
            | none => rfl
            | some live => rw [Option.filter_some, hother live hslot]; rfl
          exact ⟨⟨_, rfl⟩, fun _ => ⟨rfl, hquiet⟩, fun _ => hdone, .inl hdone⟩

end

end FleetOperator
