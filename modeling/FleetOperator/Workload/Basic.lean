import FleetOperator.Object.Header
import FleetOperator.Object.Scheduling
import FleetOperator.Fleet.Basic

/-!
# Gateway workloads

The part of a stateful set that the operator sets and compares: its metadata, its selector and
its pod template. Everything else that the cluster writes into a live object is left out.
-/

namespace FleetOperator

/-- The label with the application that an object belongs to. -/
def labelName : String := "app.kubernetes.io/name"

/-- The label with the tool that manages an object. -/
def labelManagedBy : String := "app.kubernetes.io/managed-by"

/-- The label with the fleet that an object belongs to. -/
def labelInstance : String := "meridian.dev/instance"

/-- The label with the module that a gateway was built for. -/
def labelModule : String := "meridian.dev/module"

/-- The tool that manages the objects of this operator, which also owns their applied fields. -/
def fieldManager : String := "meridian-operator"

/-- Where the value of a variable comes from. -/
structure EnvVarSource where
  secretKeyRef : Option SecretKeyRef
deriving DecidableEq, Repr, Inhabited

/-- A variable of a container, with a value or with a source for it. -/
structure EnvVar where
  name : String
  value : Option String
  valueFrom : Option EnvVarSource
deriving DecidableEq, Repr, Inhabited

namespace EnvVar

def literal (name value : String) : EnvVar := ⟨name, some value, none⟩

def fromSecret (name secret key : String) : EnvVar := ⟨name, none, some ⟨some ⟨secret, key⟩⟩⟩

/-- The variable that a fleet declares; a key in a secret goes before a value. -/
def ofSpec (spec : EnvVarSpec) : EnvVar :=
  match spec.secretKeyRef with
  | some key => fromSecret spec.name key.name key.key
  | none => ⟨spec.name, spec.value, none⟩

end EnvVar

/-- A request by which a container is probed. -/
structure HttpGetAction where
  path : String
  port : UInt16
  scheme : Option String
deriving DecidableEq, Inhabited

/-- How a container is probed. -/
structure Probe where
  httpGet : Option HttpGetAction
  initialDelaySeconds : Option Int32
  periodSeconds : Option Int32
  failureThreshold : Option Int32
deriving DecidableEq, Inhabited

/-- Where a volume, or one file of it, stands in a container. -/
structure VolumeMount where
  name : String
  mountPath : String
  subPath : Option String
  readOnly : Option Bool
deriving DecidableEq, Repr, Inhabited

namespace VolumeMount

/-- A mount of a whole volume. -/
def whole (name mountPath : String) (readOnly : Bool) : VolumeMount :=
  ⟨name, mountPath, none, some readOnly⟩

/-- A mount of one file of a volume, for reading only. -/
def file (name mountPath subPath : String) : VolumeMount :=
  ⟨name, mountPath, some subPath, some true⟩

end VolumeMount

structure Container where
  name : String
  image : String
  imagePullPolicy : Option String
  command : Option (List String)
  args : Option (List String)
  workingDir : Option String
  env : List EnvVar
  resources : Option ResourceRequirements
  readinessProbe : Option Probe
  volumeMounts : List VolumeMount
deriving DecidableEq, Inhabited

/-- A key of a secret and the file that it becomes. -/
structure KeyToPath where
  key : String
  path : String
deriving DecidableEq, Repr, Inhabited

/-- A secret whose keys become files; all of them if none is named. -/
structure SecretVolumeSource where
  secretName : String
  items : List KeyToPath
deriving DecidableEq, Repr, Inhabited

/-- A directory that lives and dies with its pod. -/
structure EmptyDirVolumeSource where
  medium : Option String
deriving DecidableEq, Repr, Inhabited

structure Volume where
  name : String
  secret : Option SecretVolumeSource
  emptyDir : Option EmptyDirVolumeSource
deriving DecidableEq, Repr, Inhabited

namespace Volume

def fromSecret (name secret : String) : Volume := ⟨name, some ⟨secret, []⟩, none⟩

/-- A volume with one key of a secret as its one file. -/
def fromSecretKey (name secret key path : String) : Volume :=
  ⟨name, some ⟨secret, [⟨key, path⟩]⟩, none⟩

def fromEmptyDir (name : String) : Volume := ⟨name, none, some ⟨none⟩⟩

end Volume

/-- A condition on one label of a node. -/
structure NodeSelectorRequirement where
  key : String
  operator : String
  values : List String
deriving DecidableEq, Repr, Inhabited

/-- Conditions that hold together. -/
structure NodeSelectorTerm where
  matchExpressions : List NodeSelectorRequirement
deriving DecidableEq, Repr, Inhabited

/-- Terms of which one has to hold. -/
structure NodeSelector where
  nodeSelectorTerms : List NodeSelectorTerm
deriving DecidableEq, Repr, Inhabited

/-- Which nodes a pod has to run on. -/
structure NodeAffinity where
  required : Option NodeSelector
deriving DecidableEq, Repr, Inhabited

structure Affinity where
  nodeAffinity : Option NodeAffinity
deriving DecidableEq, Repr, Inhabited

/-- An object named by another one of its namespace. -/
structure LocalObjectReference where
  name : String
deriving DecidableEq, Repr, Inhabited

structure PodSpec where
  initContainers : List Container
  containers : List Container
  nodeSelector : SortedMap String String
  serviceAccountName : Option String
  affinity : Option Affinity
  tolerations : List Toleration
  volumes : List Volume
  imagePullSecrets : List LocalObjectReference
deriving DecidableEq, Inhabited

/-- The metadata of the pods, which get their names from the cluster. -/
structure PodTemplateMeta where
  labels : SortedMap String String
  annotations : SortedMap String String
deriving DecidableEq, Inhabited

structure PodTemplate where
  metadata : PodTemplateMeta
  spec : PodSpec
deriving DecidableEq, Inhabited

structure LabelSelector where
  matchLabels : SortedMap String String
deriving DecidableEq, Inhabited

structure StatefulSetSpec where
  replicas : Option Int32
  podManagementPolicy : Option String
  selector : LabelSelector
  template : PodTemplate
deriving DecidableEq, Inhabited

/-- The metadata of an object that the operator writes. -/
structure Metadata where
  name : String
  ns : String
  labels : SortedMap String String
  annotations : SortedMap String String
  ownerReferences : List OwnerReference
  resourceVersion : Option String
deriving DecidableEq, Inhabited

namespace Metadata

/-- Metadata that says no more than who manages the object. -/
def new (name ns : String) : Metadata :=
  ⟨name, ns, .ofList [(labelManagedBy, fieldManager)], ∅, [], none⟩

def labelled (metadata : Metadata) (key value : String) : Metadata :=
  { metadata with labels := metadata.labels.insert key value }

def annotated (metadata : Metadata) (key value : String) : Metadata :=
  { metadata with annotations := metadata.annotations.insert key value }

end Metadata

structure StatefulSet where
  apiVersion : String
  kind : String
  metadata : Metadata
  spec : StatefulSetSpec
deriving DecidableEq, Inhabited

namespace StatefulSet

def name (workload : StatefulSet) : String := workload.metadata.name

def ns (workload : StatefulSet) : String := workload.metadata.ns

end StatefulSet

/-- A pod that has nothing in it. -/
def PodSpec.empty : PodSpec := ⟨[], [], ∅, none, none, [], [], []⟩

def PodTemplateMeta.empty : PodTemplateMeta := ⟨∅, ∅⟩

def PodTemplate.empty : PodTemplate := ⟨.empty, .empty⟩

/-- A specification that leaves everything to the cluster. -/
def StatefulSetSpec.empty : StatefulSetSpec := ⟨none, none, ⟨∅⟩, .empty⟩

end FleetOperator
