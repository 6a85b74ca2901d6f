import FleetOperator.Proofs.Gateway.Identity
import FleetOperator.Proofs.Workload.OneDigit

/-!
# A change of one byte is never missed

A cycle replaces an object with the right labels when its hash is not the one
that the desired object is built with. Two texts can have one hash, so in
general a change may go unseen. A change of one byte cannot: texts that differ
in one byte have different hashes, and different hashes are written differently.
The digits of the number of pods and of a port are such bytes
(`one_byte_is_never_missed`).
-/

namespace FleetOperator

open SimulatedCluster

/-- What a stateful set is built from. -/
structure Blueprint where
  base : WorkloadMeta
  gateway : GatewayDescriptor
  propertiesHash : String
  version : ServerVersion
  adjustments : List Adjustment

namespace Blueprint

def built (blueprint : Blueprint) : StatefulSet :=
  .desired blueprint.base blueprint.gateway blueprint.propertiesHash blueprint.version
    blueprint.adjustments

/-- What is built, before it has a hash; the hash is taken of this. -/
def hashed (blueprint : Blueprint) : StatefulSet :=
  .adjusted blueprint.base blueprint.gateway blueprint.propertiesHash blueprint.version
    blueprint.adjustments

theorem templateHash?_built (blueprint : Blueprint) :
    blueprint.built.templateHash? = some blueprint.hashed.contentHash :=
  SortedMap.get?_insert_self _ _ _

def bytes (blueprint : Blueprint) : List UInt8 := Text.bytes blueprint.hashed.canonicalText

end Blueprint

/-- Before a cycle of a fleet, by which `now` is to be built, there is an object under the key
and with the labels of what it builds, and with the hash that was built from `earlier`. No call
fails but the question for the version. -/
structure FindsEarlier (plan : FaultPlan) (cluster : SimulatedCluster) (fleet : Fleet)
    (owner : OwnerReference) (earlier now : Blueprint) (live : StatefulSet) : Prop where
  base_eq : fleet.workloadMeta = .ok now.base
  owner_eq : fleet.ownerReference? = some owner
  hash_eq : propertiesHash cluster.secrets now.base.ns now.gateway.customProperties? =
    .ok now.propertiesHash
  told : ∀ calls, plan.seen calls cluster.version = now.version
  spares : plan.SparesOthers
  stored : cluster.objects.get? now.built.key = some live
  labels : live.metadata.labels = now.built.metadata.labels
  hash : live.templateHash? = earlier.built.templateHash?

/-- If the hashes of both are different, the object is replaced. -/
theorem FindsEarlier.updated {plan : FaultPlan} {cluster : SimulatedCluster} {fleet : Fleet}
    {owner : OwnerReference} {earlier now : Blueprint} {live : StatefulSet}
    (h : FindsEarlier plan cluster fleet owner earlier now live)
    (hne : earlier.hashed.contentHash ≠ now.hashed.contentHash) :
    ∃ after revision,
      cluster.runUnder plan (convergeGateway now.adjustments fleet now.gateway) =
        (.ok .updated, after) ∧
      after.objects.get? now.built.key = some ((now.built.ownedBy owner).atRevision revision) := by
  have hdesired (calls : List GatewayCall) :
      desiredResult now.adjustments fleet now.gateway cluster.secrets
        (plan.seen calls cluster.version) = .ok (now.built.ownedBy owner) := by
    rw [h.told]
    exact desiredResult_eq h.base_eq h.owner_eq h.hash_eq now.version
  obtain ⟨outcome, after, hrun, heffect⟩ := exists_effect_of_sparesOthers h.spares hdesired
  rcases heffect.updated_or_unchanged h.stored h.labels (h.hash.trans earlier.templateHash?_built)
    now.templateHash?_built with ⟨-, rfl, hwrite⟩ | ⟨hsame, -, -⟩
  · refine ⟨after, cluster.revision + 1, hrun, ?_⟩
    rw [hwrite.objects, get?_write]
    exact if_pos rfl
  · exact absurd hsame hne

/-- Bytes that differ in exactly one place have different hashes. So when a cycle finds an object
whose hash was built from a text of the same length as that of the desired object, and the two
texts differ in exactly one byte, it replaces the object. One digit of the number of pods or of a
port is such a byte. -/
theorem one_byte_is_never_missed :
    (∀ before b c after, b ≠ c →
      Hash.fnv1a (before ++ [b] ++ after) ≠ Hash.fnv1a (before ++ [c] ++ after)) ∧
    (∀ plan cluster fleet owner earlier now live,
      FindsEarlier plan cluster fleet owner earlier now live →
      DifferOnce earlier.bytes now.bytes →
      ∃ after revision,
        cluster.runUnder plan (convergeGateway now.adjustments fleet now.gateway) =
          (.ok .updated, after) ∧
        after.objects.get? now.built.key =
          some ((now.built.ownedBy owner).atRevision revision)) ∧
    (∀ earlier now : Blueprint, earlier.hashed.OneDigitEdit now.hashed →
      DifferOnce earlier.bytes now.bytes) := by
  refine ⟨?_, ?_, ?_⟩
  · intro before b c after hne
    rw [List.append_assoc, List.append_assoc]
    exact Hash.fnv1a_ne (.of_split hne before after)
  · intro plan cluster fleet owner earlier now live hfinds honce
    exact hfinds.updated (Hash.ofText_ne (oneApart_of_differOnce honce))
  · intro earlier now hedit
    exact differOnce_of_oneApart hedit.oneApart

def sampleBlueprint (n : Int32) : Blueprint where
  base := (sampleSteady [] sampleCluster.version).base
  gateway := sampleGateway
  propertiesHash := Hash.ofText "a=1"
  version := sampleCluster.version
  adjustments := [(WorkloadChange.replicas (some n)).apply]

theorem oneDigitEdit_sampleBlueprint {m n : Int32} (h : OneDigitApart m.toInt n.toInt) :
    (sampleBlueprint m).hashed.OneDigitEdit (sampleBlueprint n).hashed := by
  have hreplicas : (sampleBlueprint m).hashed.spec.replicas = some m := rfl
  exact .replicas hreplicas h

theorem key_sampleBlueprint (n : Int32) :
    (sampleBlueprint n).built.key = sampleGateway.key (sampleBlueprint n).base := by
  refine key_desired (fun adjust hmem => ?_) _ _ _ _
  obtain rfl := List.mem_singleton.1 hmem
  exact fun _ => ⟨rfl, rfl⟩

theorem labels_sampleBlueprint (n : Int32) :
    (sampleBlueprint n).built.metadata.labels = workloadLabels "fleet" sampleGateway.moduleName :=
  rfl

theorem findsEarlier_sampleBlueprint {owner : OwnerReference}
    (howner : sampleFleet.ownerReference? = some owner) (m n : Int32) :
    FindsEarlier .clear (sampleCluster.write ((sampleBlueprint m).built.ownedBy owner)) sampleFleet
      owner (sampleBlueprint m) (sampleBlueprint n)
      (((sampleBlueprint m).built.ownedBy owner).atRevision 1) where
  base_eq := rfl
  owner_eq := howner
  hash_eq := propertiesHash_sample
  told calls := FaultPlan.seen_eq_of_answersVersion FaultPlan.answersVersion_clear calls _
  spares := FaultPlan.sparesOthers_clear
  stored := by
    refine (get?_write _ _ _).trans (if_pos ?_)
    exact (key_sampleBlueprint n).trans (key_sampleBlueprint m).symm
  labels := (labels_sampleBlueprint m).trans (labels_sampleBlueprint n).symm
  hash := StatefulSet.templateHash?_atRevision _ _

/-- When the sample gateway goes from 3 to 4 pods, its object is replaced. -/
theorem fourth_pod_is_never_missed :
    ∃ owner after revision,
      FindsEarlier .clear (sampleCluster.write ((sampleBlueprint 3).built.ownedBy owner))
        sampleFleet owner (sampleBlueprint 3) (sampleBlueprint 4)
        (((sampleBlueprint 3).built.ownedBy owner).atRevision 1) ∧
      DifferOnce (sampleBlueprint 3).bytes (sampleBlueprint 4).bytes ∧
      (sampleCluster.write ((sampleBlueprint 3).built.ownedBy owner)).runUnder .clear
        (convergeGateway (sampleBlueprint 4).adjustments sampleFleet sampleGateway) =
          (.ok .updated, after) ∧
      after.objects.get? (sampleBlueprint 4).built.key =
        some (((sampleBlueprint 4).built.ownedBy owner).atRevision revision) := by
  obtain ⟨owner, howner⟩ : ∃ owner, sampleFleet.ownerReference? = some owner := ⟨_, rfl⟩
  obtain ⟨-, hcycle, hdigit⟩ := one_byte_is_never_missed
  have hdigits : OneDigitApart (3 : Int32).toInt (4 : Int32).toInt :=
    .head ⟨by decide, by decide, by decide⟩
  have hfinds := findsEarlier_sampleBlueprint howner 3 4
  have honce := hdigit _ _ (oneDigitEdit_sampleBlueprint hdigits)
  obtain ⟨after, revision, hrun, hstored⟩ := hcycle _ _ _ _ _ _ _ hfinds honce
  exact ⟨owner, after, revision, hfinds, honce, hrun, hstored⟩

end FleetOperator
