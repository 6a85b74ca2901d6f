import FleetOperator.Workload.Basic
import FleetOperator.Fleet.Codec
import FleetOperator.Hash

/-!
# Workloads as JSON

The written form of a workload, its fields in order of declaration. The compact text of it is
what a template hash is taken over, so equal workloads have equal hashes.
-/

namespace FleetOperator

namespace EnvVarSource

def encode (source : EnvVarSource) : Json :=
  .ofFields [("secretKeyRef", source.secretKeyRef.map SecretKeyRef.encode)]

def decode? (value : Json) : Option EnvVarSource := do
  let fields ← value.fields? ["secretKeyRef"]
  return { secretKeyRef := ← fields.optional "secretKeyRef" SecretKeyRef.decode? }

end EnvVarSource

namespace EnvVar

def encode (env : EnvVar) : Json :=
  .ofFields [
    ("name", some (.str env.name)),
    ("value", env.value.map .str),
    ("valueFrom", env.valueFrom.map EnvVarSource.encode)]

def decode? (value : Json) : Option EnvVar := do
  let fields ← value.fields? ["name", "value", "valueFrom"]
  return {
    name := ← fields.required "name" Json.asString?
    value := ← fields.optional "value" Json.asString?
    valueFrom := ← fields.optional "valueFrom" EnvVarSource.decode? }

end EnvVar

namespace HttpGetAction

def encode (action : HttpGetAction) : Json :=
  .ofFields [
    ("path", some (.str action.path)),
    ("port", some (.int action.port.toNat)),
    ("scheme", action.scheme.map .str)]

def decode? (value : Json) : Option HttpGetAction := do
  let fields ← value.fields? ["path", "port", "scheme"]
  return {
    path := ← fields.required "path" Json.asString?
    port := ← fields.required "port" Json.asUInt16?
    scheme := ← fields.optional "scheme" Json.asString? }

end HttpGetAction

namespace Probe

def encode (probe : Probe) : Json :=
  .ofFields [
    ("httpGet", probe.httpGet.map HttpGetAction.encode),
    ("initialDelaySeconds", probe.initialDelaySeconds.map fun n => .int n.toInt),
    ("periodSeconds", probe.periodSeconds.map fun n => .int n.toInt),
    ("failureThreshold", probe.failureThreshold.map fun n => .int n.toInt)]

def decode? (value : Json) : Option Probe := do
  let fields ← value.fields?
    ["httpGet", "initialDelaySeconds", "periodSeconds", "failureThreshold"]
  return {
    httpGet := ← fields.optional "httpGet" HttpGetAction.decode?
    initialDelaySeconds := ← fields.optional "initialDelaySeconds" Json.asInt32?
    periodSeconds := ← fields.optional "periodSeconds" Json.asInt32?
    failureThreshold := ← fields.optional "failureThreshold" Json.asInt32? }

end Probe

namespace VolumeMount

def encode (mount : VolumeMount) : Json :=
  .ofFields [
    ("name", some (.str mount.name)),
    ("mountPath", some (.str mount.mountPath)),
    ("subPath", mount.subPath.map .str),
    ("readOnly", mount.readOnly.map .bool)]

def decode? (value : Json) : Option VolumeMount := do
  let fields ← value.fields? ["name", "mountPath", "subPath", "readOnly"]
  return {
    name := ← fields.required "name" Json.asString?
    mountPath := ← fields.required "mountPath" Json.asString?
    subPath := ← fields.optional "subPath" Json.asString?
    readOnly := ← fields.optional "readOnly" Json.asBool? }

end VolumeMount

namespace Container

/-- A list of words. -/
def encodeWords (words : List String) : Json := .arr (words.map .str)

def encode (container : Container) : Json :=
  .ofFields [
    ("name", some (.str container.name)),
    ("image", some (.str container.image)),
    ("imagePullPolicy", container.imagePullPolicy.map .str),
    ("command", container.command.map encodeWords),
    ("args", container.args.map encodeWords),
    ("workingDir", container.workingDir.map .str),
    ("env", Json.listUnlessEmpty EnvVar.encode container.env),
    ("resources", container.resources.map ResourceRequirements.encode),
    ("readinessProbe", container.readinessProbe.map Probe.encode),
    ("volumeMounts", Json.listUnlessEmpty VolumeMount.encode container.volumeMounts)]

def decode? (value : Json) : Option Container := do
  let fields ← value.fields?
    ["name", "image", "imagePullPolicy", "command", "args", "workingDir", "env", "resources",
      "readinessProbe", "volumeMounts"]
  return {
    name := ← fields.required "name" Json.asString?
    image := ← fields.defaulted "image" "" Json.asString?
    imagePullPolicy := ← fields.optional "imagePullPolicy" Json.asString?
    command := ← fields.optional "command" (Json.asListOf? Json.asString?)
    args := ← fields.optional "args" (Json.asListOf? Json.asString?)
    workingDir := ← fields.optional "workingDir" Json.asString?
    env := ← fields.defaulted "env" [] (Json.asListOf? EnvVar.decode?)
    resources := ← fields.optional "resources" ResourceRequirements.decode?
    readinessProbe := ← fields.optional "readinessProbe" Probe.decode?
    volumeMounts := ← fields.defaulted "volumeMounts" [] (Json.asListOf? VolumeMount.decode?) }

end Container

namespace KeyToPath

def encode (item : KeyToPath) : Json :=
  .ofFields [("key", some (.str item.key)), ("path", some (.str item.path))]

def decode? (value : Json) : Option KeyToPath := do
  let fields ← value.fields? ["key", "path"]
  return {
    key := ← fields.required "key" Json.asString?
    path := ← fields.required "path" Json.asString? }

end KeyToPath

namespace SecretVolumeSource

def encode (source : SecretVolumeSource) : Json :=
  .ofFields [
    ("secretName", some (.str source.secretName)),
    ("items", Json.listUnlessEmpty KeyToPath.encode source.items)]

def decode? (value : Json) : Option SecretVolumeSource := do
  let fields ← value.fields? ["secretName", "items"]
  return {
    secretName := ← fields.required "secretName" Json.asString?
    items := ← fields.defaulted "items" [] (Json.asListOf? KeyToPath.decode?) }

end SecretVolumeSource

namespace EmptyDirVolumeSource

def encode (source : EmptyDirVolumeSource) : Json :=
  .ofFields [("medium", source.medium.map .str)]

def decode? (value : Json) : Option EmptyDirVolumeSource := do
  let fields ← value.fields? ["medium"]
  return { medium := ← fields.optional "medium" Json.asString? }

end EmptyDirVolumeSource

namespace Volume

def encode (volume : Volume) : Json :=
  .ofFields [
    ("name", some (.str volume.name)),
    ("secret", volume.secret.map SecretVolumeSource.encode),
    ("emptyDir", volume.emptyDir.map EmptyDirVolumeSource.encode)]

def decode? (value : Json) : Option Volume := do
  let fields ← value.fields? ["name", "secret", "emptyDir"]
  return {
    name := ← fields.required "name" Json.asString?
    secret := ← fields.optional "secret" SecretVolumeSource.decode?
    emptyDir := ← fields.optional "emptyDir" EmptyDirVolumeSource.decode? }

end Volume

namespace NodeSelectorRequirement

def encode (requirement : NodeSelectorRequirement) : Json :=
  .ofFields [
    ("key", some (.str requirement.key)),
    ("operator", some (.str requirement.operator)),
    ("values", Json.listUnlessEmpty .str requirement.values)]

def decode? (value : Json) : Option NodeSelectorRequirement := do
  let fields ← value.fields? ["key", "operator", "values"]
  return {
    key := ← fields.required "key" Json.asString?
    operator := ← fields.required "operator" Json.asString?
    values := ← fields.defaulted "values" [] (Json.asListOf? Json.asString?) }

end NodeSelectorRequirement

namespace NodeSelectorTerm

def encode (term : NodeSelectorTerm) : Json :=
  .ofFields [("matchExpressions",
    Json.listUnlessEmpty NodeSelectorRequirement.encode term.matchExpressions)]

def decode? (value : Json) : Option NodeSelectorTerm := do
  let fields ← value.fields? ["matchExpressions"]
  return {
    matchExpressions := ← fields.defaulted "matchExpressions" []
      (Json.asListOf? NodeSelectorRequirement.decode?) }

end NodeSelectorTerm

namespace NodeSelector

def encode (selector : NodeSelector) : Json :=
  .ofFields [("nodeSelectorTerms",
    some (.arr (selector.nodeSelectorTerms.map NodeSelectorTerm.encode)))]

def decode? (value : Json) : Option NodeSelector := do
  let fields ← value.fields? ["nodeSelectorTerms"]
  return {
    nodeSelectorTerms := ← fields.required "nodeSelectorTerms"
      (Json.asListOf? NodeSelectorTerm.decode?) }

end NodeSelector

namespace NodeAffinity

/-- The field of the condition that a pod is placed by and may outlive. -/
def requiredName : String := "requiredDuringSchedulingIgnoredDuringExecution"

def encode (affinity : NodeAffinity) : Json :=
  .ofFields [(requiredName, affinity.required.map NodeSelector.encode)]

def decode? (value : Json) : Option NodeAffinity := do
  let fields ← value.fields? [requiredName]
  return { required := ← fields.optional requiredName NodeSelector.decode? }

end NodeAffinity

namespace Affinity

def encode (affinity : Affinity) : Json :=
  .ofFields [("nodeAffinity", affinity.nodeAffinity.map NodeAffinity.encode)]

def decode? (value : Json) : Option Affinity := do
  let fields ← value.fields? ["nodeAffinity"]
  return { nodeAffinity := ← fields.optional "nodeAffinity" NodeAffinity.decode? }

end Affinity

namespace LocalObjectReference

def encode (reference : LocalObjectReference) : Json :=
  .ofFields [("name", some (.str reference.name))]

def decode? (value : Json) : Option LocalObjectReference := do
  let fields ← value.fields? ["name"]
  return { name := ← fields.required "name" Json.asString? }

end LocalObjectReference

namespace PodSpec

def encode (pod : PodSpec) : Json :=
  .ofFields [
    ("initContainers", Json.listUnlessEmpty Container.encode pod.initContainers),
    ("containers", some (.arr (pod.containers.map Container.encode))),
    ("nodeSelector", Json.mapUnlessEmpty pod.nodeSelector),
    ("serviceAccountName", pod.serviceAccountName.map .str),
    ("affinity", pod.affinity.map Affinity.encode),
    ("tolerations", Json.listUnlessEmpty Toleration.encode pod.tolerations),
    ("volumes", Json.listUnlessEmpty Volume.encode pod.volumes),
    ("imagePullSecrets", Json.listUnlessEmpty LocalObjectReference.encode pod.imagePullSecrets)]

def decode? (value : Json) : Option PodSpec := do
  let fields ← value.fields?
    ["initContainers", "containers", "nodeSelector", "serviceAccountName", "affinity",
      "tolerations", "volumes", "imagePullSecrets"]
  return {
    initContainers := ← fields.defaulted "initContainers" [] (Json.asListOf? Container.decode?)
    containers := ← fields.defaulted "containers" [] (Json.asListOf? Container.decode?)
    nodeSelector := ← fields.defaulted "nodeSelector" ∅ Json.asStringMap?
    serviceAccountName := ← fields.optional "serviceAccountName" Json.asString?
    affinity := ← fields.optional "affinity" Affinity.decode?
    tolerations := ← fields.defaulted "tolerations" [] (Json.asListOf? Toleration.decode?)
    volumes := ← fields.defaulted "volumes" [] (Json.asListOf? Volume.decode?)
    imagePullSecrets := ← fields.defaulted "imagePullSecrets" []
      (Json.asListOf? LocalObjectReference.decode?) }

end PodSpec

namespace PodTemplateMeta

def encode (metadata : PodTemplateMeta) : Json :=
  .ofFields [
    ("labels", Json.mapUnlessEmpty metadata.labels),
    ("annotations", Json.mapUnlessEmpty metadata.annotations)]

def decode? (value : Json) : Option PodTemplateMeta := do
  let fields ← value.fields? ["labels", "annotations"]
  return {
    labels := ← fields.defaulted "labels" ∅ Json.asStringMap?
    annotations := ← fields.defaulted "annotations" ∅ Json.asStringMap? }

end PodTemplateMeta

namespace PodTemplate

def encode (template : PodTemplate) : Json :=
  .ofFields [("metadata", some template.metadata.encode), ("spec", some template.spec.encode)]

def decode? (value : Json) : Option PodTemplate := do
  let fields ← value.fields? ["metadata", "spec"]
  return {
    metadata := ← fields.defaulted "metadata" .empty PodTemplateMeta.decode?
    spec := ← fields.defaulted "spec" .empty PodSpec.decode? }

end PodTemplate

namespace LabelSelector

def encode (selector : LabelSelector) : Json :=
  .ofFields [("matchLabels", Json.mapUnlessEmpty selector.matchLabels)]

def decode? (value : Json) : Option LabelSelector := do
  let fields ← value.fields? ["matchLabels"]
  return { matchLabels := ← fields.defaulted "matchLabels" ∅ Json.asStringMap? }

end LabelSelector

namespace StatefulSetSpec

def encode (spec : StatefulSetSpec) : Json :=
  .ofFields [
    ("replicas", spec.replicas.map fun n => .int n.toInt),
    ("podManagementPolicy", spec.podManagementPolicy.map .str),
    ("selector", some spec.selector.encode),
    ("template", some spec.template.encode)]

def decode? (value : Json) : Option StatefulSetSpec := do
  let fields ← value.fields? ["replicas", "podManagementPolicy", "selector", "template"]
  return {
    replicas := ← fields.optional "replicas" Json.asInt32?
    podManagementPolicy := ← fields.optional "podManagementPolicy" Json.asString?
    selector := ← fields.defaulted "selector" ⟨∅⟩ LabelSelector.decode?
    template := ← fields.defaulted "template" .empty PodTemplate.decode? }

/-- The hash of the written form. -/
def contentHash (spec : StatefulSetSpec) : String := Hash.ofJson spec.encode

end StatefulSetSpec

namespace Metadata

def encode (metadata : Metadata) : Json :=
  .ofFields [
    ("name", some (.str metadata.name)),
    ("namespace", some (.str metadata.ns)),
    ("labels", Json.mapUnlessEmpty metadata.labels),
    ("annotations", Json.mapUnlessEmpty metadata.annotations),
    ("ownerReferences", Json.listUnlessEmpty OwnerReference.encode metadata.ownerReferences),
    ("resourceVersion", metadata.resourceVersion.map .str)]

def decode? (value : Json) : Option Metadata := do
  let fields ← value.fields?
    ["name", "namespace", "labels", "annotations", "ownerReferences", "resourceVersion"]
  return {
    name := ← fields.required "name" Json.asString?
    ns := ← fields.required "namespace" Json.asString?
    labels := ← fields.defaulted "labels" ∅ Json.asStringMap?
    annotations := ← fields.defaulted "annotations" ∅ Json.asStringMap?
    ownerReferences := ← fields.defaulted "ownerReferences" []
      (Json.asListOf? OwnerReference.decode?)
    resourceVersion := ← fields.optional "resourceVersion" Json.asString? }

/-- The hash of the written form. -/
def contentHash (metadata : Metadata) : String := Hash.ofJson metadata.encode

end Metadata

namespace StatefulSet

def encode (workload : StatefulSet) : Json :=
  .ofFields [
    ("apiVersion", some (.str workload.apiVersion)),
    ("kind", some (.str workload.kind)),
    ("metadata", some workload.metadata.encode),
    ("spec", some workload.spec.encode)]

def decode? (value : Json) : Option StatefulSet := do
  let fields ← value.fields? ["apiVersion", "kind", "metadata", "spec"]
  return {
    apiVersion := ← fields.required "apiVersion" Json.asString?
    kind := ← fields.required "kind" Json.asString?
    metadata := ← fields.required "metadata" Metadata.decode?
    spec := ← fields.defaulted "spec" .empty StatefulSetSpec.decode? }

/-- The compact text of the written form. -/
def canonicalText (workload : StatefulSet) : String := workload.encode.text

/-- The hash of the compact text. -/
def contentHash (workload : StatefulSet) : String := Hash.ofJson workload.encode

end StatefulSet

end FleetOperator
