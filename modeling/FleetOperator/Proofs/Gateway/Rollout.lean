import FleetOperator.Gateway.Controller
import FleetOperator.Proofs.Gateway.Unchanged
import FleetOperator.Proofs.Text.Utf8

/-!
# Changed custom properties and the pods

The pods of a gateway carry the hash of the custom properties that they
mount, so that pods are replaced when the properties change. The bytes that
a secret holds are read as text before they are hashed, and bytes that are no
UTF-8 are read as replacement characters. From there on nothing is lost: what
is built differs exactly if the two hashes of the texts do (`built_eq_iff`),
the hash of what is built differs unless canonical texts collide
(`contentHash_built_ne_iff`), and the next cycle replaces the object exactly
if it does (`afterChange`).

So a change rolls the pods if both values are texts
(`changed_text_rolls_the_pods`), and one between bytes that are read as the
same text goes unnoticed (`change_of_unreadable_bytes_is_missed`).
-/

namespace FleetOperator

open SimulatedCluster

/-! ## The hash on the pods -/

namespace StatefulSet

/-- The hash of the custom properties that the pods of an object are made for. -/
def propertiesHash? (workload : StatefulSet) : Option String :=
  workload.spec.template.metadata.annotations.get? AnnotationKey.customPropertiesHash

theorem propertiesHash?_plain (base : WorkloadMeta) (gateway : GatewayDescriptor) (hash : String)
    (version : ServerVersion) : (plain base gateway hash version).propertiesHash? = some hash :=
  SortedMap.get?_insert_self _ _ _

theorem plain_injective {base : WorkloadMeta} {gateway : GatewayDescriptor} {hash hash' : String}
    {version : ServerVersion}
    (h : plain base gateway hash version = plain base gateway hash' version) : hash = hash' := by
  have hhash := congrArg propertiesHash? h
  rw [propertiesHash?_plain, propertiesHash?_plain] at hhash
  exact Option.some.inj hhash

end StatefulSet

/-! ## Gateways that refer to a secret -/

/-- A gateway that should exist and takes its custom properties from a secret, with its fleet. -/
structure ReferringGateway where
  fleet : Fleet
  gateway : GatewayDescriptor
  base : WorkloadMeta
  properties : ValueSource
  secret : String
  enabled : gateway.enabled = true
  base_eq : fleet.workloadMeta = .ok base
  properties_eq : gateway.customProperties? = some properties
  reference_eq : properties.reference? = some secret

namespace ReferringGateway

/-- A cycle of the gateway, without adjustments. -/
def run (it : ReferringGateway) (plan : FaultPlan) (cluster : SimulatedCluster) :
    Except GatewayError Outcome × SimulatedCluster :=
  cluster.runUnder plan (reconcileGateway [] it.fleet it.gateway)

/-- The key of the object of the gateway. -/
def key (it : ReferringGateway) : ObjectKey := it.gateway.key it.base

/-- The secret that the gateway refers to holds these custom properties. -/
def Finds (it : ReferringGateway) (cluster : SimulatedCluster) (bytes : List UInt8) : Prop :=
  secretValue it.base.ns it.secret customPropertiesKey
    (cluster.secrets.get? ⟨it.base.ns, it.secret⟩) = .ok bytes

/-- What the gateway is built as from these custom properties, before it has a hash and an
owner. -/
def built (it : ReferringGateway) (version : ServerVersion) (bytes : List UInt8) : StatefulSet :=
  .plain it.base it.gateway (Hash.ofText (Text.ofBytesLossy bytes)) version

/-- What a cycle of the gateway wants to be stored. -/
def wanted (it : ReferringGateway) (version : ServerVersion) (bytes : List UInt8)
    (owner : OwnerReference) : StatefulSet :=
  (it.built version bytes).withTemplateHash.ownedBy owner

section

variable (it : ReferringGateway) (version : ServerVersion) (bytes : List UInt8)
  (owner : OwnerReference)

theorem key_wanted : (it.wanted version bytes owner).key = it.key := rfl

theorem labels_wanted : (it.wanted version bytes owner).metadata.labels =
    workloadLabels it.base.name it.gateway.moduleName := rfl

theorem templateHash?_wanted : (it.wanted version bytes owner).templateHash? =
    some (it.built version bytes).contentHash :=
  StatefulSet.templateHash?_ownedBy_desired _ _ _ _ [] _

theorem propertiesHash?_wanted : (it.wanted version bytes owner).propertiesHash? =
    some (Hash.ofText (Text.ofBytesLossy bytes)) :=
  StatefulSet.propertiesHash?_plain _ _ _ _

theorem bare_wanted : (it.wanted version bytes owner).bare = it.built version bytes := by
  have hnone : ∀ adjust ∈ ([] : List Adjustment), Transparent adjust := by simp
  exact StatefulSet.bare_desired hnone _ _ _ _

theorem stamped_wanted : (it.wanted version bytes owner).Stamped := by
  rw [StatefulSet.Stamped, bare_wanted]
  rfl

end

section

variable {it : ReferringGateway} {cluster middle later after : SimulatedCluster}
  {plan next : FaultPlan} {version : ServerVersion} {bytes old new : List UInt8}
  {owner : OwnerReference} {outcome : Outcome}

theorem built_eq_iff : it.built version old = it.built version new ↔
    Hash.fnv1a (Text.bytes (Text.ofBytesLossy old)) =
      Hash.fnv1a (Text.bytes (Text.ofBytesLossy new)) := by
  rw [← Hash.ofText_eq_iff]
  constructor
  · exact StatefulSet.plain_injective
  · intro h
    rw [built, built, h]

theorem contentHash_built_ne_iff :
    (it.built version old).contentHash ≠ (it.built version new).contentHash ↔
      Hash.fnv1a (Text.bytes (Text.ofBytesLossy old)) ≠
          Hash.fnv1a (Text.bytes (Text.ofBytesLossy new)) ∧
        ¬ Collide (it.built version old).canonicalText (it.built version new).canonicalText := by
  rw [Ne, StatefulSet.contentHash_eq_iff, built_eq_iff, not_or]

theorem desiredResult_of_finds (hfinds : it.Finds cluster bytes)
    (howner : it.fleet.ownerReference? = some owner) (version : ServerVersion) :
    desiredResult [] it.fleet it.gateway cluster.secrets version =
      .ok (it.wanted version bytes owner) := by
  refine desiredResult_eq it.base_eq howner ?_ version
  rw [it.properties_eq]
  simp only [propertiesHash, it.reference_eq]
  rw [hfinds]
  rfl

/-! ## One cycle -/

theorem run_eq (plan : FaultPlan) (cluster : SimulatedCluster) :
    it.run plan cluster = cluster.runUnder plan (convergeGateway [] it.fleet it.gateway) := by
  rw [run, reconcileGateway, if_pos it.enabled]

theorem exists_effect_of_ok (hfinds : it.Finds cluster bytes)
    (htold : ∀ calls, plan.seen calls cluster.version = version)
    (hrun : it.run plan cluster = (.ok outcome, after)) :
    ∃ owner, it.fleet.ownerReference? = some owner ∧
      ConvergeEffect cluster (it.wanted version bytes owner) outcome after := by
  have hcycle := run_convergeGateway plan cluster [] it.fleet it.gateway
  rw [← run_eq, hrun] at hcycle
  cases hcycle with
  | settled hbuilt hdesired heffect =>
      obtain ⟨_, _, owner, -, howner, -, -⟩ := exists_of_desiredResult hdesired
      rw [htold, desiredResult_of_finds hfinds howner] at hdesired
      obtain rfl := Except.ok.inj hdesired
      exact ⟨owner, howner, heffect⟩

theorem exists_effect (hfinds : it.Finds cluster bytes)
    (htold : ∀ calls, plan.seen calls cluster.version = version) (hspares : plan.SparesOthers)
    (howner : it.fleet.ownerReference? = some owner) :
    ∃ outcome after, it.run plan cluster = (.ok outcome, after) ∧
      ConvergeEffect cluster (it.wanted version bytes owner) outcome after := by
  rw [run_eq]
  refine exists_effect_of_sparesOthers hspares fun calls => ?_
  rw [htold]
  exact desiredResult_of_finds hfinds howner version

/-! ## A change between two cycles -/

/-- A cycle leaves the object of the gateway in place, in a cluster with no objects but those of
the operator. Before the next cycle the secret comes to hold other bytes; the objects stay, and
no call of the next cycle fails but the question for the version, which both of them are told
alike. -/
structure Change (it : ReferringGateway) (version : ServerVersion) (old new : List UInt8)
    (plan next : FaultPlan) (cluster middle later : SimulatedCluster) : Prop where
  reachable : Reachable Transparent cluster
  finds_old : it.Finds cluster old
  told : ∀ calls, plan.seen calls cluster.version = version
  stays : ∃ outcome, outcome ≠ .deleted ∧ it.run plan cluster = (.ok outcome, middle)
  objects_eq : later.objects = middle.objects
  finds_new : it.Finds later new
  told_again : ∀ calls, next.seen calls later.version = version
  spares : next.SparesOthers

/-- The hash that the pods of the gateway carry. -/
def podHash? (it : ReferringGateway) (cluster : SimulatedCluster) : Option String :=
  (cluster.objects.get? it.key).bind StatefulSet.propertiesHash?

/-- What the cycle after a change does. -/
inductive NextCycle (it : ReferringGateway) (version : ServerVersion) (old new : List UInt8)
    (later : SimulatedCluster) : Outcome → SimulatedCluster → Prop
  | rolls {after : SimulatedCluster}
      (hhash : (it.built version old).contentHash ≠ (it.built version new).contentHash)
      (hpods : it.podHash? after = some (Hash.ofText (Text.ofBytesLossy new))) :
      NextCycle it version old new later .updated after
  | misses {after : SimulatedCluster}
      (hhash : (it.built version old).contentHash = (it.built version new).contentHash)
      (hquiet : Undisturbed later after) :
      NextCycle it version old new later .unchanged after

/-- After the first cycle there is an object with the labels and the hash of the wanted one. -/
theorem Change.exists_live (h : it.Change version old new plan next cluster middle later) :
    ∃ owner live, it.fleet.ownerReference? = some owner ∧
      middle.objects.get? it.key = some live ∧ live.Stamped ∧
      live.metadata.labels = workloadLabels it.base.name it.gateway.moduleName ∧
      live.templateHash? = some (it.built version old).contentHash := by
  obtain ⟨outcome, hne, hrun⟩ := h.stays
  obtain ⟨owner, howner, heffect⟩ := exists_effect_of_ok h.finds_old h.told hrun
  obtain ⟨live, hlive, hup⟩ := heffect.exists_upToDate hne
  obtain ⟨hlabels, hsame⟩ := StatefulSet.upToDate_iff.1 hup
  -- The stored object need not be of this cycle, but a cycle has put its hash on it.
  have hreachable : Reachable Transparent middle := by
    have hafter : (it.run plan cluster).2 = middle := by rw [hrun]
    rw [← hafter, run_eq]
    exact .converge plan (by simp) it.fleet it.gateway h.reachable
  have hstamped := hreachable.stores_stamped _ live hlive
  rw [key_wanted] at hlive
  rw [labels_wanted] at hlabels
  refine ⟨owner, live, howner, hlive, hstamped, hlabels, ?_⟩
  rw [templateHash?_eq_of_not_differsFrom hstamped (stamped_wanted _ _ _ _) hsame,
    templateHash?_wanted]

theorem Change.nextCycle (h : it.Change version old new plan next cluster middle later) :
    ∃ outcome after, it.run next later = (.ok outcome, after) ∧
      NextCycle it version old new later outcome after := by
  obtain ⟨owner, live, howner, hlive, -, hlabels, hbuilt⟩ := h.exists_live
  obtain ⟨outcome, after, hrun, heffect⟩ :=
    exists_effect h.finds_new h.told_again h.spares howner
  refine ⟨outcome, after, hrun, ?_⟩
  rw [← h.objects_eq, ← key_wanted it version new owner] at hlive
  rw [← labels_wanted it version new owner] at hlabels
  rcases heffect.updated_or_unchanged hlive hlabels hbuilt (templateHash?_wanted _ _ _ _) with
    ⟨hhash, rfl, hwrite⟩ | ⟨hhash, rfl, hquiet⟩
  · refine .rolls hhash ?_
    have hstored := get?_write later (it.wanted version new owner) it.key
    rw [← hwrite.objects, if_pos (key_wanted it version new owner).symm] at hstored
    rw [podHash?, hstored]
    exact propertiesHash?_wanted it version new owner
  · exact .misses hhash hquiet

/-- The hash on the pods before the change is that of the old properties, unless the object was
kept for a hash that two canonical texts have. -/
theorem Change.podHash?_middle (h : it.Change version old new plan next cluster middle later) :
    it.podHash? middle = some (Hash.ofText (Text.ofBytesLossy old)) ∨
      ∃ live, middle.objects.get? it.key = some live ∧
        Collide live.bare.canonicalText (it.built version old).canonicalText := by
  obtain ⟨owner, live, -, hlive, hstamped, -, hbuilt⟩ := h.exists_live
  rw [← templateHash?_wanted it version old owner] at hbuilt
  rcases sameBuild_or_collide hstamped (stamped_wanted _ _ _ _) hbuilt with hsame | hcollide
  · rw [podHash?, hlive, Option.bind_some, StatefulSet.propertiesHash?, hsame.spec]
    exact .inl (propertiesHash?_wanted it version old owner)
  · rw [bare_wanted] at hcollide
    exact .inr ⟨live, hlive, hcollide⟩

/-- When the bytes in the secret change, the next cycle replaces the object by one whose pods
carry another hash exactly if the two values read as text have different hashes, and the
canonical texts of what is built from them do not collide. Otherwise it leaves the object with
the pods that mount the old value alone. -/
theorem change_rolls_the_pods_iff
    (h : it.Change version old new plan next cluster middle later) :
    ∃ outcome after, it.run next later = (.ok outcome, after) ∧
      (it.podHash? middle = some (Hash.ofText (Text.ofBytesLossy old)) ∨
        ∃ live, middle.objects.get? it.key = some live ∧
          Collide live.bare.canonicalText (it.built version old).canonicalText) ∧
      (outcome = .updated ∧ it.podHash? after = some (Hash.ofText (Text.ofBytesLossy new)) ∧
          Hash.ofText (Text.ofBytesLossy new) ≠ Hash.ofText (Text.ofBytesLossy old) ↔
        Hash.fnv1a (Text.bytes (Text.ofBytesLossy old)) ≠
            Hash.fnv1a (Text.bytes (Text.ofBytesLossy new)) ∧
          ¬ Collide (it.built version old).canonicalText (it.built version new).canonicalText) ∧
      (outcome ≠ .updated → outcome = .unchanged ∧ Undisturbed later after) := by
  obtain ⟨outcome, after, hrun, hnext⟩ := h.nextCycle
  refine ⟨outcome, after, hrun, h.podHash?_middle, ?_, ?_⟩
  · rw [← contentHash_built_ne_iff]
    cases hnext with
    | rolls hhash hpods =>
        have htexts := (contentHash_built_ne_iff.1 hhash).1
        exact ⟨fun _ => hhash, fun _ => ⟨rfl, hpods, Ne.symm (mt Hash.ofText_eq_iff.1 htexts)⟩⟩
    | misses hhash hquiet =>
        exact ⟨fun hupdated => absurd hupdated.1 (by decide), fun hne => absurd hhash hne⟩
  · intro hne
    cases hnext with
    | rolls hhash hpods => exact absurd rfl hne
    | misses hhash hquiet => exact ⟨rfl, hquiet⟩

/-- A change from one text to another of a different hash rolls the pods, unless the canonical
texts of what is built collide. -/
theorem changed_text_rolls_the_pods {s t : String}
    (h : it.Change version (Text.bytes s) (Text.bytes t) plan next cluster middle later)
    (hne : Hash.fnv1a (Text.bytes s) ≠ Hash.fnv1a (Text.bytes t)) :
    (∃ after, it.run next later = (.ok .updated, after) ∧
        it.podHash? after = some (Hash.ofText t) ∧ Hash.ofText t ≠ Hash.ofText s) ∨
      Collide (it.built version (Text.bytes s)).canonicalText
        (it.built version (Text.bytes t)).canonicalText := by
  obtain ⟨outcome, after, hrun, hnext⟩ := h.nextCycle
  cases hnext with
  | rolls hhash hpods =>
      rw [Text.ofBytesLossy_bytes] at hpods
      exact .inl ⟨after, hrun, hpods, Ne.symm (mt Hash.ofText_eq_iff.1 hne)⟩
  | misses hhash hquiet =>
      rcases StatefulSet.contentHash_eq_iff.1 hhash with hsame | hcollide
      · have hfnv := built_eq_iff.1 hsame
        rw [Text.ofBytesLossy_bytes, Text.ofBytesLossy_bytes] at hfnv
        exact absurd hfnv hne
      · exact .inr hcollide

end

end ReferringGateway

/-! ## A secret that changes -/

/-- The merged gateway of the sample fleet, which refers to the secret `props`. -/
def sampleReferring : ReferringGateway where
  fleet := sampleFleet
  gateway := sampleGateway
  base := (sampleSteady [] sampleCluster.version).base
  properties := ⟨"", "props"⟩
  secret := "props"
  enabled := rfl
  base_eq := (sampleSteady [] sampleCluster.version).base_eq
  properties_eq := rfl
  reference_eq := rfl

/-- The cluster with these custom properties in the secret `props`. -/
def SimulatedCluster.withProperties (cluster : SimulatedCluster) (bytes : List UInt8) :
    SimulatedCluster :=
  { cluster with
    secrets := .ofList [(⟨"meridian", "props"⟩, .ofList [(customPropertiesKey, bytes)])] }

theorem finds_withProperties (cluster : SimulatedCluster) (bytes : List UInt8) :
    sampleReferring.Finds (cluster.withProperties bytes) bytes := by
  have hsecret : (cluster.withProperties bytes).secrets.get? ⟨"meridian", "props"⟩ =
      some (.ofList [(customPropertiesKey, bytes)]) := SortedMap.get?_insert_self _ _ _
  have hvalue : (SortedMap.ofList [(customPropertiesKey, bytes)]).get? customPropertiesKey =
      some bytes := SortedMap.get?_insert_self _ _ _
  rw [ReferringGateway.Finds]
  refine (congrArg _ hsecret).trans ?_
  rw [secretValue, hvalue]

/-- The first cycle of the sample gateway creates its object, whatever the secret holds. -/
theorem sampleReferring_change (old new : List UInt8) :
    ∃ middle, sampleReferring.run .clear (sampleCluster.withProperties old) =
        (.ok .created, middle) ∧
      sampleReferring.Change ⟨"1", "29"⟩ old new .clear .clear
        (sampleCluster.withProperties old) middle (middle.withProperties new) := by
  have htold (calls : List GatewayCall) : FaultPlan.clear.seen calls ⟨"1", "29"⟩ = ⟨"1", "29"⟩ :=
    FaultPlan.seen_eq_of_answersVersion FaultPlan.answersVersion_clear calls _
  have hfinds := finds_withProperties sampleCluster old
  obtain ⟨owner, howner⟩ : ∃ owner, sampleFleet.ownerReference? = some owner := ⟨_, rfl⟩
  obtain ⟨outcome, middle, hrun, heffect⟩ :=
    ReferringGateway.exists_effect hfinds htold FaultPlan.sparesOthers_clear howner
  cases heffect with
  | deleted hlive | updated hlive | unchanged hlive => cases hlive
  | created habsent hwrite =>
      refine ⟨middle, hrun, .start rfl, hfinds, htold, ⟨_, by simp, hrun⟩, rfl,
        finds_withProperties middle new, ?_, FaultPlan.sparesOthers_clear⟩
      have hversion : (middle.withProperties new).version = ⟨"1", "29"⟩ := hwrite.version
      rw [hversion]
      exact htold

theorem contentHash_sampleReferring_ne :
    (sampleReferring.built ⟨"1", "29"⟩ (Text.bytes "a=1")).contentHash ≠
      (sampleReferring.built ⟨"1", "29"⟩ (Text.bytes "a=2")).contentHash := by
  rw [ReferringGateway.built, ReferringGateway.built, Text.ofBytesLossy_bytes,
    Text.ofBytesLossy_bytes]
  refine mt Hash.ofJson_eq_iff.1 ?_
  decide +kernel

/-- When the properties `a=1` become `a=2`, the next cycle replaces the object. -/
theorem sample_change_rolls_the_pods :
    ∃ middle after,
      sampleReferring.run .clear (sampleCluster.withProperties (Text.bytes "a=1")) =
        (.ok .created, middle) ∧
      sampleReferring.run .clear (middle.withProperties (Text.bytes "a=2")) =
        (.ok .updated, after) ∧
      sampleReferring.podHash? after = some (Hash.ofText "a=2") := by
  obtain ⟨middle, hrun, hchange⟩ :=
    sampleReferring_change (Text.bytes "a=1") (Text.bytes "a=2")
  obtain ⟨outcome, after, hrun', -, hiff, -⟩ :=
    ReferringGateway.change_rolls_the_pods_iff hchange
  obtain ⟨rfl, hpods, -⟩ :=
    hiff.2 (ReferringGateway.contentHash_built_ne_iff.1 contentHash_sampleReferring_ne)
  rw [Text.ofBytesLossy_bytes] at hpods
  exact ⟨middle, after, hrun, hrun', hpods⟩

/-- The bytes `FF` become `FE`. Both are read as one replacement character, so the next cycle
leaves the object and its pods alone. -/
theorem change_of_unreadable_bytes_is_missed :
    let first := sampleReferring.run .clear (sampleCluster.withProperties [0xFF])
    let second := sampleReferring.run .clear (first.2.withProperties [0xFE])
    Hash.fnv1a [0xFF] ≠ Hash.fnv1a [0xFE] ∧
      (sampleCluster.withProperties [0xFF]).objects = ∅ ∧
      first.1 = .ok .created ∧ second.1 = .ok .unchanged ∧
      second.2.objects = first.2.objects ∧
      ¬ Collide (sampleReferring.built ⟨"1", "29"⟩ [0xFF]).canonicalText
        (sampleReferring.built ⟨"1", "29"⟩ [0xFE]).canonicalText := by
  obtain ⟨middle, hrun, hchange⟩ := sampleReferring_change [0xFF] [0xFE]
  obtain ⟨outcome, after, hrun', hnext⟩ := hchange.nextCycle
  have htext : Text.ofBytesLossy [0xFF] = Text.ofBytesLossy [0xFE] := by decide +kernel
  have hbuilt : sampleReferring.built ⟨"1", "29"⟩ [0xFF] =
      sampleReferring.built ⟨"1", "29"⟩ [0xFE] :=
    ReferringGateway.built_eq_iff.2 (by rw [htext])
  dsimp only
  rw [hrun]
  cases hnext with
  | rolls hhash hpods => exact absurd (congrArg StatefulSet.contentHash hbuilt) hhash
  | misses hhash hquiet =>
      rw [hrun']
      refine ⟨by decide +kernel, rfl, rfl, rfl, hquiet.objects, fun hcollide => ?_⟩
      exact hcollide.1 (by rw [hbuilt])

end FleetOperator
