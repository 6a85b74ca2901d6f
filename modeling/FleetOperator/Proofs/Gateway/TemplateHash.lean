import FleetOperator.Proofs.Gateway.Unchanged

/-!
# What the template hash covers

The hash of a desired object is taken of the adjusted object as it stands and
then written over an annotation. Where no adjustment has written that
annotation before, the hash is that of the desired object without it. Where one
has, its text goes into the hash and is then lost from the object, so nobody can
take the hash again (`own_annotation_is_hashed`).

An object loses nothing with an annotation that it does not have
(`withoutTemplateHash_eq_self_iff`). That and the fact that only one object has
a given canonical text settle exactly when the hash can be taken again
(`templateHash_covers_adjustments`).
-/

namespace FleetOperator

namespace StatefulSet

/-- The object without the annotation that its hash stands in. -/
def withoutTemplateHash (workload : StatefulSet) : StatefulSet :=
  { workload with
    metadata := { workload.metadata with
      annotations := workload.metadata.annotations.erase AnnotationKey.templateHash } }

/-- The hash of an object covers all of it but the annotation with the hash. -/
def HashedApart (workload : StatefulSet) : Prop :=
  workload.templateHash? = some workload.withoutTemplateHash.contentHash

theorem templateHash?_withTemplateHash (workload : StatefulSet) :
    workload.withTemplateHash.templateHash? = some workload.contentHash :=
  SortedMap.get?_insert_self _ _ _

theorem withoutTemplateHash_withTemplateHash (workload : StatefulSet) :
    workload.withTemplateHash.withoutTemplateHash = workload.withoutTemplateHash := by
  have hannotations : (workload.metadata.annotations.insert AnnotationKey.templateHash
      workload.contentHash).erase AnnotationKey.templateHash =
        workload.metadata.annotations.erase AnnotationKey.templateHash :=
    SortedMap.erase_insert_self _ _ _
  rw [withTemplateHash, withoutTemplateHash]
  dsimp only [Metadata.annotated]
  rw [hannotations]
  rfl

theorem withoutTemplateHash_eq_self_iff {workload : StatefulSet} :
    workload.withoutTemplateHash = workload ↔ workload.templateHash? = none := by
  rw [templateHash?, ← SortedMap.erase_eq_self_iff]
  constructor
  · intro h
    exact congrArg (fun workload => workload.metadata.annotations) h
  · intro h
    rw [withoutTemplateHash, h]

theorem hashedApart_withTemplateHash {workload : StatefulSet} :
    workload.withTemplateHash.HashedApart ↔
      workload.contentHash = workload.withoutTemplateHash.contentHash := by
  rw [HashedApart, templateHash?_withTemplateHash, withoutTemplateHash_withTemplateHash,
    Option.some_inj]

/-- Only what had no hash before is told by the hash that it gets, unless two canonical texts
collide. -/
theorem hashedApart_withTemplateHash_iff {workload : StatefulSet} :
    workload.withTemplateHash.HashedApart ↔
      workload.templateHash? = none ∨
        Collide workload.canonicalText workload.withoutTemplateHash.canonicalText := by
  rw [hashedApart_withTemplateHash, contentHash_eq_iff, eq_comm, withoutTemplateHash_eq_self_iff]

/-! ## Adjusted objects -/

/-- Adjustments that put no hash on an object put none on the object that is hashed. -/
theorem templateHash?_adjusted {adjustments : List Adjustment}
    (hkeep : ∀ adjust ∈ adjustments, ∀ workload : StatefulSet,
      workload.templateHash? = none → (adjust workload).templateHash? = none)
    (base : WorkloadMeta) (gateway : GatewayDescriptor) (hash : String)
    (version : ServerVersion) :
    (adjusted base gateway hash version adjustments).templateHash? = none := by
  have hplain : (plain base gateway hash version).templateHash? = none := rfl
  refine List.foldlRecOn (motive := fun workload : StatefulSet => workload.templateHash? = none)
    adjustments _ hplain ?_
  intro workload hnone adjust hmem
  exact hkeep adjust hmem workload hnone

/-- A desired object is the adjusted one but for the annotation with the hash, and that has the
hash of the adjusted one. It is the hash of the desired object without the annotation exactly
when no adjustment has left an annotation of that name, or two canonical texts collide. -/
theorem templateHash_covers_adjustments (base : WorkloadMeta) (gateway : GatewayDescriptor)
    (hash : String) (version : ServerVersion) (adjustments : List Adjustment) :
    (desired base gateway hash version adjustments).withoutTemplateHash =
        (adjusted base gateway hash version adjustments).withoutTemplateHash ∧
      (desired base gateway hash version adjustments).templateHash? =
        some (adjusted base gateway hash version adjustments).contentHash ∧
      ((desired base gateway hash version adjustments).HashedApart ↔
        (adjusted base gateway hash version adjustments).templateHash? = none ∨
          Collide (adjusted base gateway hash version adjustments).canonicalText
            (adjusted base gateway hash version adjustments).withoutTemplateHash.canonicalText) :=
  ⟨withoutTemplateHash_withTemplateHash _, templateHash?_withTemplateHash _,
    hashedApart_withTemplateHash_iff⟩

/-- Where no adjustment writes the annotation, the hash covers what the adjustments did and never
itself. -/
theorem hashedApart_desired {adjustments : List Adjustment}
    (hkeep : ∀ adjust ∈ adjustments, ∀ workload : StatefulSet,
      workload.templateHash? = none → (adjust workload).templateHash? = none)
    (base : WorkloadMeta) (gateway : GatewayDescriptor) (hash : String)
    (version : ServerVersion) :
    (desired base gateway hash version adjustments).HashedApart :=
  hashedApart_withTemplateHash_iff.2 (.inl (templateHash?_adjusted hkeep base gateway hash version))

/-- What an adjustment writes into the annotation itself is hashed and then lost. -/
theorem own_annotation_is_hashed :
    ¬ (desired ⟨"fleet", "meridian", "", "fleet-pull-secret"⟩ sampleGateway "" .unknown
        [(WorkloadChange.annotate AnnotationKey.templateHash "x").apply]).HashedApart := by
  refine mt hashedApart_withTemplateHash.1 (mt Hash.ofJson_eq_iff.1 ?_)
  decide +kernel

end StatefulSet

end FleetOperator
