import FleetOperator.Proofs.Gateway.Identity
import FleetOperator.Proofs.Hash

/-!
# Cycles that do not learn the version

A cycle that fails to learn the version of the cluster goes on as if nothing
were known of it. What it then wants may not be what the other cycles want:
on a cluster of a version from 1.14 on, an unknown version adds a second term
to the affinity of the pods, and so a hash and a specification of its own.

So failures of that one call are harmless exactly when no live object tells
the two desired objects apart (`probe_failures_harmless_iff`). If they differ
in the key, the labels or the hash, the object that the first cycle creates
tells them apart; if only in the specification, an object without a hash
does. Without adjustments that comes down to the version of the cluster.
-/

namespace FleetOperator

open SimulatedCluster

/-- The plan by which the question for the version fails, or nothing does. -/
def probePlan (fault? : Option OperatorError) : FaultPlan := fun _ call =>
  match call with
  | .serverVersion => fault?
  | _ => none

theorem sparesOthers_probePlan (fault? : Option OperatorError) :
    (probePlan fault?).SparesOthers := by
  intro calls call hne
  cases call with
  | serverVersion => exact absurd rfl hne
  | applyProperties | readSecret | get | create | update | delete => rfl

theorem seen_probePlan (fault? : Option OperatorError) (calls : List GatewayCall)
    (version : ServerVersion) :
    (probePlan fault?).seen calls version = if fault?.isSome then .unknown else version := rfl

/-- Two desired objects that no live object tells apart. -/
structure Interchangeable (desired other : StatefulSet) : Prop where
  key : other.key = desired.key
  labels : other.metadata.labels = desired.metadata.labels
  hash : other.templateHash? = desired.templateHash?
  spec : other.spec = desired.spec

namespace Interchangeable

theorem refl (desired : StatefulSet) : Interchangeable desired desired := ⟨rfl, rfl, rfl, rfl⟩

theorem upToDate_iff {desired other : StatefulSet} (h : Interchangeable desired other)
    (live : StatefulSet) : live.upToDate other = true ↔ live.upToDate desired = true := by
  rw [StatefulSet.upToDate_iff, StatefulSet.upToDate_iff, StatefulSet.differsFrom,
    StatefulSet.differsFrom, h.labels, h.hash, h.spec]

end Interchangeable

namespace Steady

/-- The same with nothing known of the version. -/
def unprobed (steady : Steady) : Steady := { steady with version := .unknown }

/-- A cycle of a gateway that should exist, in which the question for the version may fail. -/
def probedCycle (steady : Steady) (gateway : GatewayDescriptor) (fault? : Option OperatorError)
    (cluster : SimulatedCluster) : Except GatewayError Outcome × SimulatedCluster :=
  cluster.runUnder (probePlan fault?)
    (convergeGateway steady.adjustments steady.fleet gateway)

/-- The cluster after such cycles. -/
def afterProbes (steady : Steady) (gateway : GatewayDescriptor)
    (faults : List (Option OperatorError)) (cluster : SimulatedCluster) : SimulatedCluster :=
  faults.foldl (fun cluster fault? => (steady.probedCycle gateway fault? cluster).2) cluster

/-- After a cycle that learnt the version and left an object in place, no cycle changes
anything, whichever of them learn the version. -/
def ProbeFailuresHarmless (steady : Steady) (gateway : GatewayDescriptor) : Prop :=
  ∀ start, steady.Holds start → ∀ outcome,
    (steady.probedCycle gateway none start).1 = .ok outcome → outcome ≠ .deleted →
    ∀ faults fault?,
      let now := steady.afterProbes gateway faults (steady.probedCycle gateway none start).2
      (steady.probedCycle gateway fault? now).1 = .ok .unchanged ∧
        Undisturbed now (steady.probedCycle gateway fault? now).2

section

variable {steady : Steady} {gateway : GatewayDescriptor} {cluster : SimulatedCluster}
  {desired other : StatefulSet}

/-- The desired object of a cycle that learns the version, or not. -/
def wanted (desired other : StatefulSet) (fault? : Option OperatorError) : StatefulSet :=
  if fault?.isSome then other else desired

theorem wanted_none (desired other : StatefulSet) : wanted desired other none = desired := rfl

theorem wanted_some (desired other : StatefulSet) (e : OperatorError) :
    wanted desired other (some e) = other := rfl

/-- A cycle in which only the question for the version may fail comes to an effect. -/
theorem probedCycle_effect (hdesired : steady.desired gateway = .ok desired)
    (hother : steady.unprobed.desired gateway = .ok other) (hholds : steady.Holds cluster)
    (fault? : Option OperatorError) :
    ∃ outcome after, steady.probedCycle gateway fault? cluster = (.ok outcome, after) ∧
      ConvergeEffect cluster (wanted desired other fault?) outcome after := by
  have hseen (calls : List GatewayCall) :
      desiredResult steady.adjustments steady.fleet gateway cluster.secrets
        ((probePlan fault?).seen calls cluster.version) = .ok (wanted desired other fault?) := by
    rw [hholds.secrets, hholds.version, seen_probePlan, wanted]
    cases fault? with
    | none => exact hdesired
    | some e => exact hother
  exact exists_effect_of_sparesOthers (sparesOthers_probePlan fault?) hseen

/-- The two desired objects are built alike, but for the version. -/
theorem exists_built (hdesired : steady.desired gateway = .ok desired)
    (hother : steady.unprobed.desired gateway = .ok other) :
    ∃ hash owner,
      desired = (StatefulSet.desired steady.base gateway hash steady.version
        steady.adjustments).ownedBy owner ∧
      other = (StatefulSet.desired steady.base gateway hash .unknown
        steady.adjustments).ownedBy owner := by
  obtain ⟨base, hash, owner, hbase, howner, hhash, rfl⟩ := exists_of_desiredResult hdesired
  obtain ⟨base', hash', owner', hbase', howner', hhash', rfl⟩ := exists_of_desiredResult hother
  obtain rfl := Except.ok.inj (steady.base_eq.symm.trans hbase)
  obtain rfl := Except.ok.inj (steady.base_eq.symm.trans hbase')
  obtain rfl := Option.some.inj (howner.symm.trans howner')
  obtain rfl := Except.ok.inj (hhash.symm.trans hhash')
  exact ⟨hash, owner, rfl, rfl⟩

/-- What can be built for a known version can be built for an unknown one. -/
theorem exists_other (hdesired : steady.desired gateway = .ok desired) :
    ∃ other, steady.unprobed.desired gateway = .ok other := by
  obtain ⟨base, hash, owner, hbase, howner, hhash, -⟩ := exists_of_desiredResult hdesired
  exact ⟨_, desiredResult_eq hbase howner hhash .unknown⟩

/-- A cycle that learns the version succeeds only where there is something to build. -/
theorem exists_desired_of_ok (hholds : steady.Holds cluster) {outcome : Outcome}
    (hok : (steady.probedCycle gateway none cluster).1 = .ok outcome) :
    ∃ desired, steady.desired gateway = .ok desired := by
  have hrun := run_convergeGateway (probePlan none) cluster steady.adjustments steady.fleet
    gateway
  rw [probedCycle] at hok
  generalize cluster.runUnder (probePlan none)
    (convergeGateway steady.adjustments steady.fleet gateway) = result at hrun hok
  cases hrun with
  | failed hstate hcause => cases hok
  | @settled built _ _ _ _ hbuilt heffect =>
      rw [hholds.secrets, hholds.version, seen_probePlan] at hbuilt
      exact ⟨built, hbuilt⟩

/-- If no live object tells the two desired objects apart, failures are harmless. -/
theorem harmless_of_interchangeable (hdesired : steady.desired gateway = .ok desired)
    (hother : steady.unprobed.desired gateway = .ok other)
    (h : Interchangeable desired other) : steady.ProbeFailuresHarmless gateway := by
  have hwanted (fault? : Option OperatorError) :
      Interchangeable desired (wanted desired other fault?) := by
    unfold wanted
    split
    · exact h
    · exact .refl desired
  -- One cycle, from any cluster in which an object that is up to date is in place.
  have hstep {cluster : SimulatedCluster} (hholds : steady.Holds cluster) {live : StatefulSet}
      (hlive : cluster.objects.get? desired.key = some live)
      (hup : live.upToDate desired = true) (fault? : Option OperatorError) :
      (steady.probedCycle gateway fault? cluster).1 = .ok .unchanged ∧
        Undisturbed cluster (steady.probedCycle gateway fault? cluster).2 := by
    obtain ⟨outcome, after, hrun, heffect⟩ :=
      probedCycle_effect hdesired hother hholds fault?
    have hkeep := heffect.of_upToDate ((hwanted fault?).key ▸ hlive)
      (((hwanted fault?).upToDate_iff live).2 hup)
    rw [hrun]
    obtain ⟨rfl, hquiet⟩ := hkeep
    exact ⟨rfl, hquiet⟩
  intro start hholds outcome hrun hne faults fault?
  obtain ⟨outcome', first, hfirst, heffect⟩ :=
    probedCycle_effect hdesired hother hholds none
  have houtcome : outcome' = outcome := by
    rw [hfirst] at hrun
    exact Except.ok.inj hrun
  obtain ⟨live, hlive, hup⟩ := heffect.exists_upToDate (houtcome ▸ hne)
  have hholds' : steady.Holds first := heffect.holds hholds
  rw [hfirst]
  clear hfirst hrun heffect
  induction faults generalizing first with
  | nil => exact hstep hholds' hlive hup fault?
  | cons earlier rest ih =>
      obtain ⟨-, hquiet⟩ := hstep hholds' hlive hup earlier
      exact ih _ (hquiet.objects ▸ hlive) (hholds'.sameState hquiet.toSameState)

/-- A cluster in which nothing is stored yet. -/
def fresh (steady : Steady) : SimulatedCluster where
  objects := ∅
  revision := 0
  secrets := steady.secrets
  version := steady.version
  failures := []
  calls := []

theorem holds_fresh (steady : Steady) : steady.Holds steady.fresh where
  secrets := rfl
  version := rfl
  keyed := by
    intro key workload h
    cases h

/-- The object without its hash. -/
def unhashed (workload : StatefulSet) : StatefulSet :=
  { workload with metadata := { workload.metadata with
      annotations := workload.metadata.annotations.erase AnnotationKey.templateHash } }

theorem templateHash?_unhashed (workload : StatefulSet) :
    (unhashed workload).templateHash? = none := by
  refine (SortedMap.get?_erase _ _ _).trans ?_
  rw [if_pos Std.ReflCmp.compare_self]

/-- Where failures are harmless, an object that a cycle leaves in place is also up to date for
one that does not learn the version. -/
theorem ProbeFailuresHarmless.upToDate (h : steady.ProbeFailuresHarmless gateway)
    (hdesired : steady.desired gateway = .ok desired)
    (hother : steady.unprobed.desired gateway = .ok other) {start : SimulatedCluster}
    (hholds : steady.Holds start) {outcome : Outcome} {after : SimulatedCluster}
    (hrun : steady.probedCycle gateway none start = (.ok outcome, after))
    (hne : outcome ≠ .deleted) :
    ∃ live, after.objects.get? other.key = some live ∧ live.upToDate other = true := by
  obtain ⟨outcome', after', hfirst, heffect⟩ :=
    probedCycle_effect hdesired hother hholds none
  rw [hrun] at hfirst
  obtain ⟨rfl, rfl⟩ : outcome = outcome' ∧ after = after' := by simpa using hfirst
  have hagain := (h start hholds outcome (by rw [hrun]) hne [] (some (.internal "" ""))).1
  obtain ⟨outcome', last, hlast, hunprobed⟩ :=
    probedCycle_effect hdesired hother (heffect.holds hholds) (some (.internal "" ""))
  rw [hrun] at hagain
  have houtcome : Except.ok outcome' = Except.ok (ε := GatewayError) Outcome.unchanged := by
    rw [← hagain]
    exact congrArg Prod.fst hlast.symm
  obtain rfl := Except.ok.inj houtcome
  cases hunprobed with
  | unchanged hlive hlabels hsame hquiet =>
      exact ⟨_, hlive, StatefulSet.upToDate_iff.2 ⟨hlabels, hsame⟩⟩

/-- If failures are harmless, no live object tells the two desired objects apart. -/
theorem interchangeable_of_harmless (hdesired : steady.desired gateway = .ok desired)
    (hother : steady.unprobed.desired gateway = .ok other)
    (h : steady.ProbeFailuresHarmless gateway) : Interchangeable desired other := by
  obtain ⟨hash, owner, hbuilt, hbuilt'⟩ := exists_built hdesired hother
  -- The object that a first cycle creates tells key, labels and hash apart.
  obtain ⟨hkey, hlabels, hhash⟩ : other.key = desired.key ∧
      other.metadata.labels = desired.metadata.labels ∧
      other.templateHash? = desired.templateHash? := by
    obtain ⟨outcome, after, hrun, heffect⟩ :=
      probedCycle_effect hdesired hother (holds_fresh steady) none
    rw [wanted_none] at heffect
    cases heffect with
    | created habsent hwrite =>
        obtain ⟨live, hlive, hup⟩ :=
          h.upToDate hdesired hother (holds_fresh steady) hrun (by simp)
        rw [hwrite.objects, get?_write] at hlive
        split at hlive
        · next hkey =>
            obtain rfl := Option.some.inj hlive
            obtain ⟨hlabels, hsame⟩ := StatefulSet.upToDate_iff.1 hup
            refine ⟨hkey, hlabels.symm, ?_⟩
            obtain ⟨built, hhash⟩ : ∃ built, desired.templateHash? = some built := by
              rw [hbuilt, StatefulSet.templateHash?_ownedBy_desired]
              exact ⟨_, rfl⟩
            obtain ⟨rebuilt, hhash'⟩ : ∃ rebuilt, other.templateHash? = some rebuilt := by
              rw [hbuilt', StatefulSet.templateHash?_ownedBy_desired]
              exact ⟨_, rfl⟩
            rw [StatefulSet.differsFrom_of_hashes
              ((desired.templateHash?_atRevision _).trans hhash) hhash',
              bne_eq_false_iff_eq] at hsame
            rw [hhash, hhash', hsame]
        · cases hlive
    | deleted hlive | updated hlive | unchanged hlive => cases hlive
  -- An object without a hash tells the specifications apart.
  have hspec : other.spec = desired.spec := by
    have hholds := (holds_fresh steady).write (unhashed desired)
    have hlive : (steady.fresh.write (unhashed desired)).objects.get? desired.key =
        some ((unhashed desired).atRevision 1) := (get?_write _ _ _).trans (if_pos rfl)
    have hnone : ((unhashed desired).atRevision 1).templateHash? = none :=
      templateHash?_unhashed desired
    have hup : ((unhashed desired).atRevision 1).upToDate desired = true := by
      refine StatefulSet.upToDate_iff.2 ⟨rfl, ?_⟩
      rw [StatefulSet.differsFrom_of_unhashed hnone]
      exact bne_self_eq_false _
    obtain ⟨outcome, after, hrun, heffect⟩ := probedCycle_effect hdesired hother hholds none
    obtain ⟨rfl, hquiet⟩ := heffect.of_upToDate hlive hup
    obtain ⟨live, hstays, hagain⟩ := h.upToDate hdesired hother hholds hrun (by simp)
    rw [hquiet.objects, hkey, hlive] at hstays
    obtain rfl := Option.some.inj hstays
    have hsame := (StatefulSet.upToDate_iff.1 hagain).2
    rw [StatefulSet.differsFrom_of_unhashed hnone, bne_eq_false_iff_eq] at hsame
    exact hsame.symm
  exact ⟨hkey, hlabels, hhash, hspec⟩

/-! ## Without adjustments -/

theorem platformTerms_eq_iff (version : ServerVersion) :
    platformTerms .unknown = platformTerms version ↔ version.hasStableNodeLabels = false := by
  have hunknown : ServerVersion.unknown.hasStableNodeLabels = false := by decide
  unfold platformTerms
  rw [hunknown]
  cases version.hasStableNodeLabels <;> simp

/-- Without adjustments the version shows in the affinity of the pods, and nowhere else. -/
theorem interchangeable_iff_of_unadjusted (hdesired : steady.desired gateway = .ok desired)
    (hother : steady.unprobed.desired gateway = .ok other) (hnone : steady.adjustments = []) :
    Interchangeable desired other ↔ steady.version.hasStableNodeLabels = false := by
  obtain ⟨hash, owner, hbuilt, hbuilt'⟩ := exists_built hdesired hother
  rw [hnone] at hbuilt hbuilt'
  rw [← platformTerms_eq_iff]
  constructor
  · intro h
    have hspec := h.spec
    rw [hbuilt, hbuilt'] at hspec
    have haffinity : some (gatewayAffinity .unknown) = some (gatewayAffinity steady.version) :=
      congrArg (·.template.spec.affinity) hspec
    simpa [gatewayAffinity] using haffinity
  · intro hterms
    have haffinity : gatewayAffinity .unknown = gatewayAffinity steady.version := by
      rw [gatewayAffinity, gatewayAffinity, hterms]
    have hplain : StatefulSet.plain steady.base gateway hash .unknown =
        StatefulSet.plain steady.base gateway hash steady.version := by
      rw [StatefulSet.plain, StatefulSet.plain, haffinity]
    have hsame : other = desired := by
      rw [hbuilt, hbuilt', StatefulSet.desired, StatefulSet.desired, List.foldl_nil,
        List.foldl_nil, hplain]
    rw [hsame]
    exact .refl desired

theorem labels_unadjusted (gateway : GatewayDescriptor) (base : WorkloadMeta) (hash : String)
    (version : ServerVersion) (owner : OwnerReference) :
    ((StatefulSet.desired base gateway hash version []).ownedBy owner).metadata.labels =
      workloadLabels base.name gateway.moduleName := rfl

/-- Without adjustments the first cycle creates the object, and the next one replaces it if it
does not learn the version, unless the hashes collide. -/
theorem restart_of_hash_ne {hash : String} {owner : OwnerReference}
    (hdesired : steady.desired gateway =
      .ok ((StatefulSet.desired steady.base gateway hash steady.version []).ownedBy owner))
    (hother : steady.unprobed.desired gateway =
      .ok ((StatefulSet.desired steady.base gateway hash .unknown []).ownedBy owner))
    (hne : (StatefulSet.adjusted steady.base gateway hash steady.version []).contentHash ≠
      (StatefulSet.adjusted steady.base gateway hash .unknown []).contentHash)
    (e : OperatorError) :
    (steady.probedCycle gateway none steady.fresh).1 = .ok .created ∧
      (steady.probedCycle gateway (some e) (steady.probedCycle gateway none steady.fresh).2).1 =
        .ok .updated := by
  have hholds := holds_fresh steady
  obtain ⟨outcome, stored, hrun, heffect⟩ := probedCycle_effect hdesired hother hholds none
  obtain ⟨outcome', after, hrun', heffect'⟩ :=
    probedCycle_effect hdesired hother (heffect.holds hholds) (some e)
  rw [wanted_none] at heffect
  rw [wanted_some] at heffect'
  rw [hrun]
  cases heffect with
  | created habsent hwrite =>
      have hkey : gateway.key steady.base =
          ((StatefulSet.desired steady.base gateway hash steady.version []).ownedBy owner).key :=
        (key_desired (by simp) steady.base gateway hash steady.version).symm
      have hlive := get?_write steady.fresh
        ((StatefulSet.desired steady.base gateway hash steady.version []).ownedBy owner)
        (gateway.key steady.base)
      rw [← hwrite.objects, if_pos hkey] at hlive
      have hlabels := labels_unadjusted gateway steady.base hash steady.version owner
      have hlabels' := labels_unadjusted gateway steady.base hash .unknown owner
      have houtcome := heffect'.eq_updated hlive (hlabels.trans hlabels'.symm)
        ((StatefulSet.templateHash?_atRevision _ _).trans
          (StatefulSet.templateHash?_ownedBy_desired _ _ _ _ _ _))
        (StatefulSet.templateHash?_ownedBy_desired _ _ _ _ _ _) hne
      rw [hrun', houtcome]
      exact ⟨rfl, rfl⟩
  | deleted hlive | updated hlive | unchanged hlive => cases hlive

/-- Failures to learn the version are harmless exactly when the desired object of a cycle that
fails to learn it is the same in all that is compared; without adjustments, exactly when the
cluster is not known to have the node labels of version 1.14. -/
theorem probe_failures_harmless_iff (steady : Steady) (gateway : GatewayDescriptor) :
    (steady.ProbeFailuresHarmless gateway ↔
      ∀ desired other, steady.desired gateway = .ok desired →
        steady.unprobed.desired gateway = .ok other → Interchangeable desired other) ∧
      (steady.adjustments = [] → (∃ desired, steady.desired gateway = .ok desired) →
        (steady.ProbeFailuresHarmless gateway ↔
          steady.version.hasStableNodeLabels = false)) := by
  have hiff : steady.ProbeFailuresHarmless gateway ↔
      ∀ desired other, steady.desired gateway = .ok desired →
        steady.unprobed.desired gateway = .ok other → Interchangeable desired other := by
    refine ⟨fun h desired other hdesired hother =>
      interchangeable_of_harmless hdesired hother h, fun h start hholds outcome hok => ?_⟩
    obtain ⟨desired, hdesired⟩ := exists_desired_of_ok hholds hok
    obtain ⟨other, hother⟩ := exists_other hdesired
    exact harmless_of_interchangeable hdesired hother (h desired other hdesired hother) start
      hholds outcome hok
  refine ⟨hiff, fun hnone ⟨desired, hdesired⟩ => ?_⟩
  obtain ⟨other, hother⟩ := exists_other hdesired
  rw [hiff, ← interchangeable_iff_of_unadjusted hdesired hother hnone]
  refine ⟨fun h => h desired other hdesired hother, fun h desired' other' hdesired' hother' => ?_⟩
  obtain rfl := Except.ok.inj (hdesired.symm.trans hdesired')
  obtain rfl := Except.ok.inj (hother.symm.trans hother')
  exact h

end

theorem exists_desired_sample (version : ServerVersion) :
    ∃ owner,
      (sampleSteady [] version).desired sampleGateway =
        .ok ((StatefulSet.desired (sampleSteady [] version).base sampleGateway
          (Hash.ofText "a=1") version []).ownedBy owner) ∧
      (sampleSteady [] version).unprobed.desired sampleGateway =
        .ok ((StatefulSet.desired (sampleSteady [] version).base sampleGateway
          (Hash.ofText "a=1") .unknown []).ownedBy owner) := by
  obtain ⟨owner, hbuilt⟩ := desired_sample [] version
  exact ⟨owner, hbuilt version, hbuilt .unknown⟩

/-- On a cluster of version 1.13 the sample gateway is built alike whether the version is known
or not. -/
theorem probe_failures_harmless_before_stable_labels :
    (sampleSteady [] ⟨"1", "13"⟩).ProbeFailuresHarmless sampleGateway := by
  obtain ⟨owner, hdesired, -⟩ := exists_desired_sample ⟨"1", "13"⟩
  exact ((probe_failures_harmless_iff _ sampleGateway).2 rfl ⟨_, hdesired⟩).2 (by decide)

/-- The two forms of the sample gateway have different hashes. -/
theorem contentHash_sample_ne :
    (StatefulSet.adjusted (sampleSteady [] ⟨"1", "29"⟩).base sampleGateway (Hash.ofText "a=1")
        ⟨"1", "29"⟩ []).contentHash ≠
      (StatefulSet.adjusted (sampleSteady [] ⟨"1", "29"⟩).base sampleGateway (Hash.ofText "a=1")
        .unknown []).contentHash := by
  refine mt Hash.ofJson_eq_iff.1 ?_
  decide +kernel

/-- On a cluster of version 1.29 the sample gateway is created, and replaced by the next cycle
if that one does not learn the version. -/
theorem restart_after_failed_probe :
    (Steady.probedCycle (sampleSteady [] ⟨"1", "29"⟩) sampleGateway none
        (sampleSteady [] ⟨"1", "29"⟩).fresh).1 = .ok .created ∧
      (Steady.probedCycle (sampleSteady [] ⟨"1", "29"⟩) sampleGateway
        (some (.backendUnavailable "get server version" "refused"))
        (Steady.probedCycle (sampleSteady [] ⟨"1", "29"⟩) sampleGateway none
          (sampleSteady [] ⟨"1", "29"⟩).fresh).2).1 = .ok .updated := by
  obtain ⟨owner, hdesired, hother⟩ := exists_desired_sample ⟨"1", "29"⟩
  exact restart_of_hash_ne hdesired hother contentHash_sample_ne _

end Steady

end FleetOperator
