import FleetOperator.Cluster.Document
import FleetOperator.Proofs.Workload.Codec
import FleetOperator.Proofs.Workload.Layout

/-!
# Nothing of a workload is lost in its written form

A workload is read back from what it is written as. It is read back just as
well where a cluster has put the members of its structures into another order
and other members among them (`decode?_of_loosens`), since no reader of a
structure asks for more than its own fields; from its compact text
(`roundTrips`); and from the document that it travels as, whose header is read
from the same metadata.

A field that is left out when it is empty comes back empty, and so the text of
a workload is that of no other.
-/

namespace FleetOperator

open Json

namespace StatefulSet

/-- A workload is read back wherever it is written with its own fields among others. -/
theorem decode?_of_loosens {workload : StatefulSet} {other : Json}
    (h : layout.Loosens workload.encode other) : decode? other = some workload := by
  rw [layout_serves.blind.decode_eq (layout_serves.fits workload) h, codec.decode_encode]

theorem roundTrips : RoundTrips encode decode? := codec.roundTrips layout_serves.fits (by decide)

end StatefulSet

/-! ## Documents -/

theorem readOptional_none {α : Type} (decode : Json → Option α) :
    readOptional decode none = some none := rfl

theorem readOptional_mapUnlessEmpty (m : SortedMap String String) :
    readOptional asStringMap? (mapUnlessEmpty m) = some (unlessEmpty SortedMap.isEmpty m) := by
  rw [mapUnlessEmpty, unlessEmpty]
  split
  · rfl
  · exact Codec.stringMap.readOptional_encode m

theorem readOptional_listUnlessEmpty {α : Type} {encode : α → Json} {decode : Json → Option α}
    (h : Codec encode decode) (items : List α) :
    readOptional (asListOf? decode) (listUnlessEmpty encode items) =
      some (unlessEmpty List.isEmpty items) := by
  rw [listUnlessEmpty, unlessEmpty]
  split
  · rfl
  · exact h.list.readOptional_encode items

theorem map_unlessEmpty_ofStringMap (m : SortedMap String String) :
    (unlessEmpty SortedMap.isEmpty m).map ofStringMap = mapUnlessEmpty m := by
  rw [mapUnlessEmpty, unlessEmpty]
  split <;> rfl

theorem map_unlessEmpty_list {α : Type} (encode : α → Json) (items : List α) :
    ((unlessEmpty List.isEmpty items).map fun items => .arr (items.map encode)) =
      listUnlessEmpty encode items := by
  rw [listUnlessEmpty, unlessEmpty]
  split <;> rfl

namespace StatefulSet

variable (workload : StatefulSet)

/-- The header of the document that a workload travels as is what the API reads from the metadata
of the workload. -/
theorem decode?_encode_metadata :
    ObjectHeader.decode? workload.metadata.encode = some workload.toDocument.header := by
  rw [ObjectHeader.decode?, Metadata.encode, repeatedFields?_ofFields (by simp)]
  simp [readOptional_none, readOptional_mapUnlessEmpty, Codec.str.readOptional_encode,
    readOptional_listUnlessEmpty OwnerReference.codec, toDocument, ObjectHeader.unset, name, ns]

theorem decode?_encode_header :
    Metadata.decode? workload.toDocument.header.encode = some workload.metadata := by
  have howners := OwnerReference.codec.listUnlessEmpty
  rw [Metadata.decode?, ObjectHeader.encode, fields?_ofFields (by simp)]
  simp [toDocument, ObjectHeader.unset, name, ns, map_unlessEmpty_ofStringMap,
    map_unlessEmpty_list, howners.read_write]

theorem encode_toDocument :
    workload.toDocument.encode = ofFields [
      ("apiVersion", some (.str workload.apiVersion)),
      ("kind", some (.str workload.kind)),
      ("spec", some workload.spec.encode),
      ("metadata", some workload.toDocument.header.encode)] := rfl

/-- A workload that has travelled is the workload that was sent. -/
theorem toWorkload_toDocument : workload.toDocument.toWorkload = .ok workload := by
  have hspec := StatefulSetSpec.codec.defaulted .empty
  have hheader : readRequired Metadata.decode? (some workload.toDocument.header.encode) =
      some workload.metadata := decode?_encode_header workload
  have hdecode : decode? workload.toDocument.encode = some workload := by
    rw [decode?, encode_toDocument, fields?_ofFields (by simp)]
    simp [hspec.read_write, hheader]
  rw [Document.toWorkload, hdecode]

/-- What a workload is written as is read as the document that it travels as. -/
theorem decode?_document : Document.decode? workload.encode = some workload.toDocument := by
  have hspec := Layout.held_of_fits (StatefulSetSpec.layout_serves.fits workload.spec)
  have hmembers : workload.encode = .obj [
      ("apiVersion", .str workload.apiVersion),
      ("kind", .str workload.kind),
      ("metadata", workload.metadata.encode),
      ("spec", workload.spec.encode)] := rfl
  have hreadable : workload.encode.othersReadable ["metadata"] = true := by
    rw [hmembers, othersReadable]
    simp [membersReadable, isReadable, hspec.plain.isReadable]
  have hheader : readDefaulted .unset ObjectHeader.decode? (some workload.metadata.encode) =
      some workload.toDocument.header := decode?_encode_metadata workload
  have htype : Document.takeType none none [
      ("apiVersion", .str workload.apiVersion),
      ("kind", .str workload.kind),
      ("spec", workload.spec.encode)] =
      (some (workload.apiVersion, workload.kind), [("spec", workload.spec.encode)]) := rfl
  rw [Document.decode?, guard_of_pos hreadable, encode, fieldsByName?_ofFields (by simp)]
  simp [hheader, ofFields, asMembers?, htype, lastWinsMembers, hspec.lastWins,
    dropShadowed, toDocument]

/-- Nothing of a workload is lost in its written form: it is read back from it, from the same
written in another way, from its compact text, and from the document that it travels as. -/
theorem encoding_faithful (workload : StatefulSet) :
    decode? workload.encode = some workload ∧
      (∀ other, layout.Loosens workload.encode other → decode? other = some workload) ∧
      (parse? workload.canonicalText).bind decode? = some workload ∧
      Document.decode? workload.encode = some workload.toDocument ∧
      workload.toDocument.toWorkload = .ok workload ∧
      ∀ other : StatefulSet, workload.canonicalText = other.canonicalText ↔ workload = other := by
  refine ⟨roundTrips.decode_encode workload, fun other h => decode?_of_loosens h,
    roundTrips.decode_text workload, decode?_document workload, toWorkload_toDocument workload,
    fun other => ⟨canonicalText_injective, congrArg canonicalText⟩⟩

/-- A gateway of one container. -/
def sampleWorkload : StatefulSet where
  apiVersion := "apps/v1"
  kind := "StatefulSet"
  metadata := ⟨"gateway", "meridian", ∅, ∅, [], none⟩
  spec := ⟨none, none, ⟨∅⟩, ⟨.empty, { PodSpec.empty with
    containers := [⟨"gateway", "gateway:1", none, none, none, none, [], none, none, []⟩] }⟩⟩

/-! The sample as a cluster might give it back: with fields that the operator does not know, and
with members in another order. -/

def storedContainer : Json := .obj [
  ("terminationMessagePath", .str "/dev/termination-log"),
  ("image", .str "gateway:1"),
  ("name", .str "gateway")]

def storedPod : Json :=
  .obj [("dnsPolicy", .str "ClusterFirst"), ("containers", .arr [storedContainer])]

def storedTemplate : Json :=
  .obj [("spec", storedPod), ("metadata", .obj [("creationTimestamp", .null)])]

def storedSpec : Json :=
  .obj [("serviceName", .str ""), ("template", storedTemplate), ("selector", .obj [])]

def storedMetadata : Json :=
  .obj [("uid", .str "1"), ("namespace", .str "meridian"), ("name", .str "gateway")]

def storedWorkload : Json := .obj [
  ("status", .obj [("replicas", .int 1)]),
  ("spec", storedSpec),
  ("metadata", storedMetadata),
  ("kind", .str "StatefulSet"),
  ("apiVersion", .str "apps/v1")]

theorem loosens_reverse {fields : List (String × Layout)} {members : List (String × Json)}
    (known unknown : List (String × Json))
    (hknown : List.Forall₂ (fun member loosened => loosened.1 = member.1 ∧
      Layout.FieldLoosens fields member.1 member.2 loosened.2) members known)
    (hunknown : ∀ member ∈ unknown, member.1 ∉ fields.map (·.1)) :
    (Layout.record fields).Loosens (.obj members) (.obj (known ++ unknown).reverse) := by
  rw [Layout.Loosens]
  exact ⟨_, known, unknown, _, rfl, rfl, hknown, hunknown, List.reverse_perm _⟩

theorem loosens_storedWorkload : layout.Loosens sampleWorkload.encode storedWorkload := by
  have hcontainer : Container.layout.Loosens
      (.obj [("name", .str "gateway"), ("image", .str "gateway:1")]) storedContainer :=
    loosens_reverse [("name", .str "gateway"), ("image", .str "gateway:1")]
      [("terminationMessagePath", .str "/dev/termination-log")]
      (.cons ⟨rfl, rfl⟩ (.cons ⟨rfl, rfl⟩ .nil)) (by simp)
  have hpod : PodSpec.layout.Loosens sampleWorkload.spec.template.spec.encode storedPod :=
    loosens_reverse [("containers", .arr [storedContainer])] [("dnsPolicy", .str "ClusterFirst")]
      (.cons ⟨rfl, ⟨_, _, rfl, rfl, .cons hcontainer .nil⟩⟩ .nil) (by simp)
  have htemplate : PodTemplate.layout.Loosens sampleWorkload.spec.template.encode
      storedTemplate :=
    loosens_reverse [("metadata", .obj [("creationTimestamp", .null)]), ("spec", storedPod)] []
      (.cons ⟨rfl, loosens_reverse [] [("creationTimestamp", .null)] .nil (by simp)⟩
        (.cons ⟨rfl, hpod⟩ .nil)) (by simp)
  have hspec : StatefulSetSpec.layout.Loosens sampleWorkload.spec.encode storedSpec :=
    loosens_reverse [("selector", .obj []), ("template", storedTemplate)]
      [("serviceName", .str "")]
      (.cons ⟨rfl, loosens_reverse [] [] .nil (by simp)⟩ (.cons ⟨rfl, htemplate⟩ .nil)) (by simp)
  have hmetadata : Metadata.layout.Loosens sampleWorkload.metadata.encode storedMetadata :=
    loosens_reverse [("name", .str "gateway"), ("namespace", .str "meridian")]
      [("uid", .str "1")] (.cons ⟨rfl, rfl⟩ (.cons ⟨rfl, rfl⟩ .nil)) (by simp)
  exact loosens_reverse
    [("apiVersion", .str "apps/v1"), ("kind", .str "StatefulSet"), ("metadata", storedMetadata),
      ("spec", storedSpec)]
    [("status", .obj [("replicas", .int 1)])]
    (.cons ⟨rfl, rfl⟩ (.cons ⟨rfl, rfl⟩ (.cons ⟨rfl, hmetadata⟩ (.cons ⟨rfl, hspec⟩ .nil))))
    (by simp)

theorem encoding_faithful_stored :
    layout.Loosens sampleWorkload.encode storedWorkload ∧
      decode? storedWorkload = some sampleWorkload :=
  ⟨loosens_storedWorkload,
    (encoding_faithful sampleWorkload).2.1 storedWorkload loosens_storedWorkload⟩

end StatefulSet

end FleetOperator
