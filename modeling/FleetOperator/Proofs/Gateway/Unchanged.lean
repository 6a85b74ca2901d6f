import FleetOperator.Gateway.Adjustment
import FleetOperator.Proofs.Gateway.Identity
import FleetOperator.Proofs.Gateway.Reachable
import FleetOperator.Proofs.Hash
import FleetOperator.Proofs.Workload.Codec

/-!
# What an unchanged object is

A cycle leaves an object alone if it carries the labels and the hash that the
desired object carries. The hash of a desired object was taken before the
hash itself, an owner and a resource version were put into it. So it is the
hash of the `bare` object, in the cluster as well, where all objects are
desired objects of earlier cycles (`Reachable.stores_stamped`), if the
adjustments keep their hands off those three parts.

A hash is that of a canonical text, and a canonical text is that of one
object. If the texts of the live and the desired object are one, so are the
objects, but for owner and resource version. If not, two texts have been
found with one hash (`unchanged_sound`).
-/

namespace FleetOperator

open SimulatedCluster

/-- An adjustment that leaves the hash, the owners and the resource version of an object alone. -/
structure Transparent (adjust : Adjustment) : Prop where
  templateHash? : ∀ workload, (adjust workload).templateHash? = workload.templateHash?
  ownerReferences : ∀ workload,
    (adjust workload).metadata.ownerReferences = workload.metadata.ownerReferences
  resourceVersion : ∀ workload,
    (adjust workload).metadata.resourceVersion = workload.metadata.resourceVersion

namespace StatefulSet

/-- The object without its hash, its owners and its resource version. -/
def bare (workload : StatefulSet) : StatefulSet :=
  { workload with
    metadata := { workload.metadata with
      annotations := workload.metadata.annotations.erase AnnotationKey.templateHash
      ownerReferences := []
      resourceVersion := none } }

theorem bare_ownedBy (workload : StatefulSet) (owner : OwnerReference) :
    (workload.ownedBy owner).bare = workload.bare := rfl

/-- What has none of the three parts is the bare form of itself with its hash. -/
theorem bare_withTemplateHash {workload : StatefulSet} (hhash : workload.templateHash? = none)
    (howners : workload.metadata.ownerReferences = [])
    (hrevision : workload.metadata.resourceVersion = none) :
    workload.withTemplateHash.bare = workload := by
  have hannotations : (workload.metadata.annotations.insert AnnotationKey.templateHash
      workload.contentHash).erase AnnotationKey.templateHash = workload.metadata.annotations :=
    SortedMap.erase_insert hhash _
  rw [withTemplateHash, bare]
  dsimp only [Metadata.annotated]
  rw [hannotations, ← howners, ← hrevision]

theorem bare_desired {adjustments : List Adjustment}
    (htransparent : ∀ adjust ∈ adjustments, Transparent adjust) (base : WorkloadMeta)
    (gateway : GatewayDescriptor) (hash : String) (version : ServerVersion) :
    (desired base gateway hash version adjustments).bare =
      adjusted base gateway hash version adjustments := by
  refine bare_withTemplateHash ?_ ?_ ?_
  · exact foldl_adjustments_eq templateHash?
      (fun adjust hmem => (htransparent adjust hmem).templateHash?) _
  · exact foldl_adjustments_eq (fun workload => workload.metadata.ownerReferences)
      (fun adjust hmem => (htransparent adjust hmem).ownerReferences) _
  · exact foldl_adjustments_eq (fun workload => workload.metadata.resourceVersion)
      (fun adjust hmem => (htransparent adjust hmem).resourceVersion) _

/-- An object whose annotations are those of its bare form and the hash of that. -/
def Stamped (workload : StatefulSet) : Prop :=
  workload.metadata.annotations =
    workload.bare.metadata.annotations.insert AnnotationKey.templateHash
      workload.bare.contentHash

theorem Stamped.templateHash?_eq {workload : StatefulSet} (h : workload.Stamped) :
    workload.templateHash? = some workload.bare.contentHash := by
  rw [templateHash?, h]
  exact SortedMap.get?_insert_self _ _ _

end StatefulSet

/-- What a cycle wants carries the hash of its bare form. -/
theorem stamped_of_desiredResult {adjustments : List Adjustment} {fleet : Fleet}
    {gateway : GatewayDescriptor} {secrets : SortedMap ObjectKey SecretData}
    {version : ServerVersion} {desired : StatefulSet}
    (htransparent : ∀ adjust ∈ adjustments, Transparent adjust)
    (h : desiredResult adjustments fleet gateway secrets version = .ok desired) :
    desired.Stamped := by
  obtain ⟨base, hash, owner, -, -, -, rfl⟩ := exists_of_desiredResult h
  rw [StatefulSet.Stamped, StatefulSet.bare_ownedBy, StatefulSet.bare_desired htransparent]
  rfl

theorem Reachable.stores_stamped {cluster : SimulatedCluster}
    (h : Reachable Transparent cluster) : cluster.Stores fun _ live => live.Stamped := by
  intro key live hlive
  obtain ⟨adjustments, fleet, gateway, secrets, version, desired, revision, htransparent,
    hdesired, rfl⟩ := (h.stores_written key live hlive).exists_desired
  have hstamped : desired.Stamped := stamped_of_desiredResult htransparent hdesired
  exact hstamped

/-! ## Objects with one hash -/

/-- Two objects that differ at most in their owners and resource versions. -/
structure SameBuild (live desired : StatefulSet) : Prop where
  apiVersion : live.apiVersion = desired.apiVersion
  kind : live.kind = desired.kind
  name : live.name = desired.name
  ns : live.ns = desired.ns
  labels : live.metadata.labels = desired.metadata.labels
  annotations : live.metadata.annotations = desired.metadata.annotations
  spec : live.spec = desired.spec

/-- Two texts of different bytes that have one hash. -/
def Collide (s t : String) : Prop :=
  Text.bytes s ≠ Text.bytes t ∧ Hash.fnv1a (Text.bytes s) = Hash.fnv1a (Text.bytes t)

/-- The hash of an object is that of another one only if they are the same or their canonical
texts collide. -/
theorem StatefulSet.contentHash_eq_iff {workload other : StatefulSet} :
    workload.contentHash = other.contentHash ↔
      workload = other ∨ Collide workload.canonicalText other.canonicalText := by
  constructor
  · intro h
    have hfnv := Hash.ofText_eq_iff.1 h
    by_cases htext : Text.bytes workload.canonicalText = Text.bytes other.canonicalText
    · exact .inl (StatefulSet.canonicalText_injective (Text.bytes_injective htext))
    · exact .inr ⟨htext, hfnv⟩
  · rintro (rfl | ⟨-, hfnv⟩)
    · rfl
    · exact Hash.ofText_eq_iff.2 hfnv

section

variable {live desired : StatefulSet}

theorem SameBuild.of_bare_eq (hlive : live.Stamped) (hdesired : desired.Stamped)
    (hbare : live.bare = desired.bare) : SameBuild live desired := by
  have hpart {α : Type} (part : StatefulSet → α) : part live.bare = part desired.bare := by
    rw [hbare]
  refine ⟨hpart (·.apiVersion), hpart (·.kind), hpart (·.name), hpart (·.ns),
    hpart (·.metadata.labels), ?_, hpart (·.spec)⟩
  rw [hlive, hdesired, hbare]

/-- Objects with one hash are the same, or their canonical texts collide. -/
theorem sameBuild_or_collide (hlive : live.Stamped) (hdesired : desired.Stamped)
    (hhash : live.templateHash? = desired.templateHash?) :
    SameBuild live desired ∨ Collide live.bare.canonicalText desired.bare.canonicalText := by
  rw [hlive.templateHash?_eq, hdesired.templateHash?_eq] at hhash
  exact (StatefulSet.contentHash_eq_iff.1 (Option.some.inj hhash)).imp_left
    (.of_bare_eq hlive hdesired)

theorem templateHash?_eq_of_not_differsFrom (hlive : live.Stamped) (hdesired : desired.Stamped)
    (hsame : live.differsFrom desired = false) : live.templateHash? = desired.templateHash? := by
  have hbuilt := hlive.templateHash?_eq
  have hwanted := hdesired.templateHash?_eq
  rw [StatefulSet.differsFrom_of_hashes hbuilt hwanted] at hsame
  rw [hbuilt, hwanted, bne_eq_false_iff_eq.1 hsame]

end

/-- Let only the operator write, from no objects on, with adjustments that leave hash, owners and
resource version alone, whatever fails and whatever else changes. When a cycle leaves an object
unchanged, that object is the desired one just built in all but its owners and resource version,
or the canonical texts that the two hashes were taken of are different texts with one hash. -/
theorem unchanged_sound {cluster : SimulatedCluster} {plan : FaultPlan}
    {adjustments : List Adjustment} {fleet : Fleet} {gateway : GatewayDescriptor}
    (hreachable : Reachable Transparent cluster)
    (htransparent : ∀ adjust ∈ adjustments, Transparent adjust)
    (hunchanged : (cluster.runUnder plan (convergeGateway adjustments fleet gateway)).1 =
      .ok .unchanged) :
    ∃ desired live,
      (cluster.runUnder plan (desiredWorkload adjustments fleet gateway)).1 = .ok desired ∧
      cluster.objects.get? desired.key = some live ∧
      live.templateHash? = some live.bare.contentHash ∧
      desired.templateHash? = some desired.bare.contentHash ∧
      (SameBuild live desired ∨
        Collide live.bare.canonicalText desired.bare.canonicalText) := by
  have hrun := run_convergeGateway plan cluster adjustments fleet gateway
  generalize cluster.runUnder plan (convergeGateway adjustments fleet gateway) = result
    at hrun hunchanged
  cases hrun with
  | failed hstate hcause => cases hunchanged
  | @settled desired _ _ _ hbuilt hdesired heffect =>
      obtain rfl := Except.ok.inj hunchanged
      cases heffect with
      | @unchanged _ live hlive hlabels hsame hquiet =>
          have hstored : live.Stamped := hreachable.stores_stamped _ live hlive
          have hwanted : desired.Stamped := stamped_of_desiredResult htransparent hdesired
          refine ⟨desired, live, hbuilt, hlive, hstored.templateHash?_eq, hwanted.templateHash?_eq,
            sameBuild_or_collide hstored hwanted ?_⟩
          exact templateHash?_eq_of_not_differsFrom hstored hwanted hsame

/-- The cluster of the sample fleet after a cycle of its merged gateway with two replicas. -/
def createdSample : SimulatedCluster :=
  (sampleCluster.runUnder .clear (convergeGateway [(WorkloadChange.replicas (some 2)).apply]
    sampleFleet sampleGateway)).2

/-- The next cycle finds what the first one made. -/
theorem unchanged_sound_sample :
    ∃ desired live,
      (createdSample.runUnder .clear (desiredWorkload [(WorkloadChange.replicas (some 2)).apply]
        sampleFleet sampleGateway)).1 = .ok desired ∧
      createdSample.objects.get? desired.key = some live ∧
      live.templateHash? = some live.bare.contentHash ∧
      desired.templateHash? = some desired.bare.contentHash ∧
      (SameBuild live desired ∨
        Collide live.bare.canonicalText desired.bare.canonicalText) := by
  have htransparent : ∀ adjust ∈ [(WorkloadChange.replicas (some 2)).apply],
      Transparent adjust := by
    intro adjust hmem
    obtain rfl := List.mem_singleton.1 hmem
    exact ⟨fun _ => rfl, fun _ => rfl, fun _ => rfl⟩
  have hkeep : ∀ adjust ∈ [(WorkloadChange.replicas (some 2)).apply], KeepsIdentity adjust := by
    intro adjust hmem
    obtain rfl := List.mem_singleton.1 hmem
    exact fun _ => ⟨rfl, rfl⟩
  have hreachable : Reachable Transparent createdSample :=
    .converge .clear htransparent sampleFleet sampleGateway (.start rfl)
  have hserves := serves_sample hkeep sampleCluster.version
  have hholds : (sampleSteady [(WorkloadChange.replicas (some 2)).apply]
      sampleCluster.version).Holds sampleCluster := ⟨rfl, rfl, keyed_sampleCluster⟩
  have hsettled := (clearStep hserves hholds).fills rfl
  have hholds' := (slotStep hserves hholds FaultPlan.answersVersion_clear).holds
  have hunchanged := ((clearStep hserves hholds').stays hsettled).1
  exact unchanged_sound hreachable htransparent hunchanged

end FleetOperator
