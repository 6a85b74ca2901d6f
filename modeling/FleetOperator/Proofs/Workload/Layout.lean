import FleetOperator.Proofs.Json.Layout
import FleetOperator.Workload.Codec

/-!
# Workloads written in another way

The layout of each structure that a workload is made of, the inner ones first:
the fields that it writes, and that its reader looks up by name. A reader that
asks for nothing else does not see in which order the members stand, nor what
stands among them, and this goes on into every structure inside.
-/

namespace FleetOperator

open Json

/-! ## Containers -/

def ResourceQuantity.layout : Layout := .record [("cpu", .scalar), ("memory", .scalar)]

theorem ResourceQuantity.layout_serves : layout.Serves encode decode? := by
  refine .ofFields rfl (by simp) (fun quantity => ?_) fun found others h => ?_
  · simp [Layout.FitFields]
  · simp [h.optional .scalar]

def ResourceRequirements.layout : Layout :=
  .record [("requests", ResourceQuantity.layout), ("limits", ResourceQuantity.layout)]

theorem ResourceRequirements.layout_serves : layout.Serves encode decode? := by
  have hquantity := ResourceQuantity.layout_serves
  refine .ofFields rfl (by simp) (fun resources => ?_) fun found others h => ?_
  · simp [Layout.FitFields, hquantity.fits]
  · simp [h.optional hquantity.blind]

def Toleration.layout : Layout :=
  .record [("key", .scalar), ("operator", .scalar), ("value", .scalar), ("effect", .scalar)]

theorem Toleration.layout_serves : layout.Serves encode decode? := by
  refine .ofFields rfl (by simp) (fun toleration => ?_) fun found others h => ?_
  · simp [Layout.FitFields]
  · simp [h.optional .scalar]

def SecretKeyRef.layout : Layout := .record [("name", .scalar), ("key", .scalar)]

theorem SecretKeyRef.layout_serves : layout.Serves encode decode? := by
  refine .ofFields rfl (by simp) (fun key => ?_) fun found others h => ?_
  · simp [Layout.FitFields]
  · simp [h.required .scalar]

def EnvVarSource.layout : Layout := .record [("secretKeyRef", SecretKeyRef.layout)]

theorem EnvVarSource.layout_serves : layout.Serves encode decode? := by
  have hkey := SecretKeyRef.layout_serves
  refine .ofFields rfl (by simp) (fun source => ?_) fun found others h => ?_
  · simp [Layout.FitFields, hkey.fits]
  · simp [h.optional hkey.blind]

def EnvVar.layout : Layout :=
  .record [("name", .scalar), ("value", .scalar), ("valueFrom", EnvVarSource.layout)]

theorem EnvVar.layout_serves : layout.Serves encode decode? := by
  have hsource := EnvVarSource.layout_serves
  refine .ofFields rfl (by simp) (fun env => ?_) fun found others h => ?_
  · simp [Layout.FitFields, hsource.fits]
  · simp [h.required .scalar, h.optional .scalar, h.optional hsource.blind]

def HttpGetAction.layout : Layout :=
  .record [("path", .scalar), ("port", .scalar), ("scheme", .scalar)]

theorem HttpGetAction.layout_serves : layout.Serves encode decode? := by
  refine .ofFields rfl (by simp) (fun action => ?_) fun found others h => ?_
  · simp [Layout.FitFields]
  · simp [h.required .scalar, h.optional .scalar]

def Probe.layout : Layout :=
  .record [("httpGet", HttpGetAction.layout), ("initialDelaySeconds", .scalar),
    ("periodSeconds", .scalar), ("failureThreshold", .scalar)]

theorem Probe.layout_serves : layout.Serves encode decode? := by
  have haction := HttpGetAction.layout_serves
  refine .ofFields rfl (by simp) (fun probe => ?_) fun found others h => ?_
  · simp [Layout.FitFields, haction.fits]
  · simp [h.optional .scalar, h.optional haction.blind]

def VolumeMount.layout : Layout :=
  .record [("name", .scalar), ("mountPath", .scalar), ("subPath", .scalar), ("readOnly", .scalar)]

theorem VolumeMount.layout_serves : layout.Serves encode decode? := by
  refine .ofFields rfl (by simp) (fun mount => ?_) fun found others h => ?_
  · simp [Layout.FitFields]
  · simp [h.required .scalar, h.optional .scalar]

def Container.layout : Layout :=
  .record [("name", .scalar), ("image", .scalar), ("imagePullPolicy", .scalar),
    ("command", .list .scalar), ("args", .list .scalar), ("workingDir", .scalar),
    ("env", .list EnvVar.layout), ("resources", ResourceRequirements.layout),
    ("readinessProbe", Probe.layout), ("volumeMounts", .list VolumeMount.layout)]

theorem Container.layout_serves : layout.Serves encode decode? := by
  have hwords : ∀ words, (Layout.list .scalar).Fits (encodeWords words) :=
    Layout.fits_items Layout.fits_str
  have henv := EnvVar.layout_serves
  have hresources := ResourceRequirements.layout_serves
  have hprobe := Probe.layout_serves
  have hmounts := VolumeMount.layout_serves
  refine .ofFields rfl (by simp) (fun container => ?_) fun found others h => ?_
  · simp [Layout.FitFields, hwords, henv.fits, hresources.fits, hprobe.fits, hmounts.fits]
  · simp [h.required .scalar, h.defaulted .scalar, h.optional .scalar,
      h.optional (.list .scalar), h.defaulted henv.blind.list, h.optional hresources.blind,
      h.optional hprobe.blind, h.defaulted hmounts.blind.list]

/-! ## Volumes -/

def KeyToPath.layout : Layout := .record [("key", .scalar), ("path", .scalar)]

theorem KeyToPath.layout_serves : layout.Serves encode decode? := by
  refine .ofFields rfl (by simp) (fun item => ?_) fun found others h => ?_
  · simp [Layout.FitFields]
  · simp [h.required .scalar]

def SecretVolumeSource.layout : Layout :=
  .record [("secretName", .scalar), ("items", .list KeyToPath.layout)]

theorem SecretVolumeSource.layout_serves : layout.Serves encode decode? := by
  have hitem := KeyToPath.layout_serves
  refine .ofFields rfl (by simp) (fun source => ?_) fun found others h => ?_
  · simp [Layout.FitFields, hitem.fits]
  · simp [h.required .scalar, h.defaulted hitem.blind.list]

def EmptyDirVolumeSource.layout : Layout := .record [("medium", .scalar)]

theorem EmptyDirVolumeSource.layout_serves : layout.Serves encode decode? := by
  refine .ofFields rfl (by simp) (fun source => ?_) fun found others h => ?_
  · simp [Layout.FitFields]
  · simp [h.optional .scalar]

def Volume.layout : Layout :=
  .record [("name", .scalar), ("secret", SecretVolumeSource.layout),
    ("emptyDir", EmptyDirVolumeSource.layout)]

theorem Volume.layout_serves : layout.Serves encode decode? := by
  have hsecret := SecretVolumeSource.layout_serves
  have hdir := EmptyDirVolumeSource.layout_serves
  refine .ofFields rfl (by simp) (fun volume => ?_) fun found others h => ?_
  · simp [Layout.FitFields, hsecret.fits, hdir.fits]
  · simp [h.required .scalar, h.optional hsecret.blind, h.optional hdir.blind]

/-! ## Nodes -/

def NodeSelectorRequirement.layout : Layout :=
  .record [("key", .scalar), ("operator", .scalar), ("values", .list .scalar)]

theorem NodeSelectorRequirement.layout_serves : layout.Serves encode decode? := by
  refine .ofFields rfl (by simp) (fun requirement => ?_) fun found others h => ?_
  · simp [Layout.FitFields]
  · simp [h.required .scalar, h.defaulted (.list .scalar)]

def NodeSelectorTerm.layout : Layout :=
  .record [("matchExpressions", .list NodeSelectorRequirement.layout)]

theorem NodeSelectorTerm.layout_serves : layout.Serves encode decode? := by
  have hrequirement := NodeSelectorRequirement.layout_serves
  refine .ofFields rfl (by simp) (fun term => ?_) fun found others h => ?_
  · simp [Layout.FitFields, hrequirement.fits]
  · simp [h.defaulted hrequirement.blind.list]

def NodeSelector.layout : Layout := .record [("nodeSelectorTerms", .list NodeSelectorTerm.layout)]

theorem NodeSelector.layout_serves : layout.Serves encode decode? := by
  have hterm := NodeSelectorTerm.layout_serves
  refine .ofFields rfl (by simp) (fun selector => ?_) fun found others h => ?_
  · simp [Layout.FitFields, hterm.fits]
  · simp [h.required hterm.blind.list]

def NodeAffinity.layout : Layout := .record [(requiredName, NodeSelector.layout)]

theorem NodeAffinity.layout_serves : layout.Serves encode decode? := by
  have hselector := NodeSelector.layout_serves
  refine .ofFields rfl (by simp) (fun affinity => ?_) fun found others h => ?_
  · simp [Layout.FitFields, hselector.fits]
  · simp [h.optional hselector.blind]

def Affinity.layout : Layout := .record [("nodeAffinity", NodeAffinity.layout)]

theorem Affinity.layout_serves : layout.Serves encode decode? := by
  have haffinity := NodeAffinity.layout_serves
  refine .ofFields rfl (by simp) (fun affinity => ?_) fun found others h => ?_
  · simp [Layout.FitFields, haffinity.fits]
  · simp [h.optional haffinity.blind]

/-! ## Pods -/

def LocalObjectReference.layout : Layout := .record [("name", .scalar)]

theorem LocalObjectReference.layout_serves : layout.Serves encode decode? := by
  refine .ofFields rfl (by simp) (fun reference => ?_) fun found others h => ?_
  · simp [Layout.FitFields]
  · simp [h.required .scalar]

def PodSpec.layout : Layout :=
  .record [("initContainers", .list Container.layout), ("containers", .list Container.layout),
    ("nodeSelector", .map), ("serviceAccountName", .scalar), ("affinity", Affinity.layout),
    ("tolerations", .list Toleration.layout), ("volumes", .list Volume.layout),
    ("imagePullSecrets", .list LocalObjectReference.layout)]

theorem PodSpec.layout_serves : layout.Serves encode decode? := by
  have hcontainer := Container.layout_serves
  have haffinity := Affinity.layout_serves
  have htoleration := Toleration.layout_serves
  have hvolume := Volume.layout_serves
  have hsecret := LocalObjectReference.layout_serves
  refine .ofFields rfl (by simp) (fun pod => ?_) fun found others h => ?_
  · simp [Layout.FitFields, hcontainer.fits, haffinity.fits, htoleration.fits, hvolume.fits,
      hsecret.fits]
  · simp [h.defaulted hcontainer.blind.list, h.defaulted .map, h.optional .scalar,
      h.optional haffinity.blind, h.defaulted htoleration.blind.list,
      h.defaulted hvolume.blind.list, h.defaulted hsecret.blind.list]

def PodTemplateMeta.layout : Layout := .record [("labels", .map), ("annotations", .map)]

theorem PodTemplateMeta.layout_serves : layout.Serves encode decode? := by
  refine .ofFields rfl (by simp) (fun metadata => ?_) fun found others h => ?_
  · simp [Layout.FitFields]
  · simp [h.defaulted .map]

def PodTemplate.layout : Layout :=
  .record [("metadata", PodTemplateMeta.layout), ("spec", PodSpec.layout)]

theorem PodTemplate.layout_serves : layout.Serves encode decode? := by
  have hmetadata := PodTemplateMeta.layout_serves
  have hspec := PodSpec.layout_serves
  refine .ofFields rfl (by simp) (fun template => ?_) fun found others h => ?_
  · simp [Layout.FitFields, hmetadata.fits, hspec.fits]
  · simp [h.defaulted hmetadata.blind, h.defaulted hspec.blind]

/-! ## The whole object -/

def LabelSelector.layout : Layout := .record [("matchLabels", .map)]

theorem LabelSelector.layout_serves : layout.Serves encode decode? := by
  refine .ofFields rfl (by simp) (fun selector => ?_) fun found others h => ?_
  · simp [Layout.FitFields]
  · simp [h.defaulted .map]

def StatefulSetSpec.layout : Layout :=
  .record [("replicas", .scalar), ("podManagementPolicy", .scalar),
    ("selector", LabelSelector.layout), ("template", PodTemplate.layout)]

theorem StatefulSetSpec.layout_serves : layout.Serves encode decode? := by
  have hselector := LabelSelector.layout_serves
  have htemplate := PodTemplate.layout_serves
  refine .ofFields rfl (by simp) (fun spec => ?_) fun found others h => ?_
  · simp [Layout.FitFields, hselector.fits, htemplate.fits]
  · simp [h.optional .scalar, h.defaulted hselector.blind, h.defaulted htemplate.blind]

def OwnerReference.layout : Layout :=
  .record [("apiVersion", .scalar), ("blockOwnerDeletion", .scalar), ("controller", .scalar),
    ("kind", .scalar), ("name", .scalar), ("uid", .scalar)]

theorem OwnerReference.layout_serves : layout.Serves encode decode? := by
  refine .ofRepeatedFields (by simp) (fun owner => ?_) fun found others h => ?_
  · simp [Layout.FitFields]
  · simp [h.optional .scalar]

def Metadata.layout : Layout :=
  .record [("name", .scalar), ("namespace", .scalar), ("labels", .map), ("annotations", .map),
    ("ownerReferences", .list OwnerReference.layout), ("resourceVersion", .scalar)]

theorem Metadata.layout_serves : layout.Serves encode decode? := by
  have howner := OwnerReference.layout_serves
  refine .ofFields rfl (by simp) (fun metadata => ?_) fun found others h => ?_
  · simp [Layout.FitFields, howner.fits]
  · simp [h.required .scalar, h.defaulted .map, h.defaulted howner.blind.list,
      h.optional .scalar]

def StatefulSet.layout : Layout :=
  .record [("apiVersion", .scalar), ("kind", .scalar), ("metadata", Metadata.layout),
    ("spec", StatefulSetSpec.layout)]

theorem StatefulSet.layout_serves : layout.Serves encode decode? := by
  have hmetadata := Metadata.layout_serves
  have hspec := StatefulSetSpec.layout_serves
  refine .ofFields rfl (by simp) (fun workload => ?_) fun found others h => ?_
  · simp [Layout.FitFields, hmetadata.fits, hspec.fits]
  · simp [h.required .scalar, h.required hmetadata.blind, h.defaulted hspec.blind]

end FleetOperator
