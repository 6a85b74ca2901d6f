import FleetOperator.Gateway.Desired

/-!
# Adjustments of built workloads

The changes that an installation may ask for on top of what a fleet says, in the order in which
it asks for them, and those that another hand makes to an object behind the operator's back.
-/

namespace FleetOperator

/-- An adjustment by name. -/
inductive WorkloadChange where
  | replicas (n : Option Int32)
  /-- Multiplies the number of pods, if it is set; it stops at the bounds of its type. -/
  | scale (n : Int)
  | label (key value : String)
  | annotate (key value : String)
  | podLabel (key value : String)
  | podAnnotate (key value : String)
  | rename (value : String)
  | image (value : String)
  | clearAffinity
  | clearPullSecrets
  | reverseContainers
  | nothing
deriving DecidableEq, Inhabited

/-- The number of 32 bits that is nearest to a whole number. -/
def clampInt32 (n : Int) : Int32 := .ofInt (max (-2147483648) (min 2147483647 n))

namespace StatefulSet

/-- Changes the pods of a workload. -/
def mapPod (f : PodSpec → PodSpec) (workload : StatefulSet) : StatefulSet :=
  { workload with
    spec := { workload.spec with
      template := { workload.spec.template with spec := f workload.spec.template.spec } } }

/-- Changes the metadata of the pods of a workload. -/
def mapPodMeta (f : PodTemplateMeta → PodTemplateMeta) (workload : StatefulSet) : StatefulSet :=
  { workload with
    spec := { workload.spec with
      template := { workload.spec.template with metadata := f workload.spec.template.metadata } } }

/-- Changes the number of pods of a workload. -/
def withReplicas (n : Option Int32) (workload : StatefulSet) : StatefulSet :=
  { workload with spec := { workload.spec with replicas := n } }

/-- Changes the metadata of a workload. -/
def mapMetadata (f : Metadata → Metadata) (workload : StatefulSet) : StatefulSet :=
  { workload with metadata := f workload.metadata }

end StatefulSet

/-- What another hand changes on an object in the cluster. -/
structure WorkloadEdit where
  /-- The new labels; none removes the label. -/
  labels : List (String × Option String)
  /-- The new annotations; none removes the annotation. -/
  annotations : List (String × Option String)
  /-- The number of pods, if it changes. -/
  replicas : Option Int32
  /-- The service account of the pods, if it changes. -/
  serviceAccountName : Option String
deriving DecidableEq, Inhabited

namespace WorkloadEdit

/-- The map with new values for some keys. -/
def edited (map : SortedMap String String) (changes : List (String × Option String)) :
    SortedMap String String :=
  changes.foldl (fun map (key, value) => match value with
    | some value => map.insert key value
    | none => map.erase key) map

/-- What an edit does to an object. -/
def apply (edit : WorkloadEdit) : Adjustment := fun workload =>
  let workload := workload.mapMetadata fun m =>
    { m with
      labels := edited m.labels edit.labels
      annotations := edited m.annotations edit.annotations }
  let workload := match edit.replicas with
    | some count => workload.withReplicas (some count)
    | none => workload
  match edit.serviceAccountName with
  | some account => workload.mapPod ({ · with serviceAccountName := some account })
  | none => workload

end WorkloadEdit

namespace WorkloadChange

/-- What an adjustment does to an object. -/
def apply : WorkloadChange → Adjustment
  | .replicas n => .withReplicas n
  | .scale factor => fun workload =>
    workload.withReplicas (workload.spec.replicas.map fun n => clampInt32 (n.toInt * factor))
  | .label key value => .mapMetadata (·.labelled key value)
  | .annotate key value => .mapMetadata (·.annotated key value)
  | .podLabel key value => .mapPodMeta fun pod => { pod with labels := pod.labels.insert key value }
  | .podAnnotate key value =>
    .mapPodMeta fun pod => { pod with annotations := pod.annotations.insert key value }
  | .rename value => .mapMetadata ({ · with name := value })
  | .image value => .mapPod fun pod =>
    { pod with containers := pod.containers.map ({ · with image := value }) }
  | .clearAffinity => .mapPod ({ · with affinity := none })
  | .clearPullSecrets => .mapPod ({ · with imagePullSecrets := [] })
  | .reverseContainers => .mapPod fun pod => { pod with containers := pod.containers.reverse }
  | .nothing => id

end WorkloadChange

end FleetOperator
