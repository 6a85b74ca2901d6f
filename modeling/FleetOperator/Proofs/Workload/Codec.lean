import FleetOperator.Proofs.Json.Record
import FleetOperator.Workload.Codec

/-!
# Workloads read back from their written form

Each structure that a workload is made of has a codec, the inner ones first:
a field is read back because its kind is (`readRequired_str` and the like for
texts, numbers and maps) or because the structure in it has a codec.

So a workload is told from every other by its canonical text, with all the
fields that are left out when they are empty.
-/

namespace FleetOperator

open Json

/-! ## Containers -/

theorem ResourceQuantity.codec : Codec encode decode? := by
  refine .ofFields (fun quantity => ?_) fun quantity => ?_
  · rw [decode?, fields?_ofFields (by simp)]
    simp
  · simp

theorem ResourceRequirements.codec : Codec encode decode? := by
  have hquantity := ResourceQuantity.codec.optional
  refine .ofFields (fun resources => ?_) fun resources => ?_
  · rw [decode?, fields?_ofFields (by simp)]
    simp [hquantity.read_write]
  · simp [hquantity.plain]

theorem Toleration.codec : Codec encode decode? := by
  refine .ofFields (fun toleration => ?_) fun toleration => ?_
  · rw [decode?, fields?_ofFields (by simp)]
    simp
  · simp

theorem SecretKeyRef.codec : Codec encode decode? := by
  refine .ofFields (fun key => ?_) fun key => ?_
  · rw [decode?, fields?_ofFields (by simp)]
    simp
  · simp

theorem EnvVarSource.codec : Codec encode decode? := by
  have hkey := SecretKeyRef.codec.optional
  refine .ofFields (fun source => ?_) fun source => ?_
  · rw [decode?, fields?_ofFields (by simp)]
    simp [hkey.read_write]
  · simp [hkey.plain]

theorem EnvVar.codec : Codec encode decode? := by
  have hsource := EnvVarSource.codec.optional
  refine .ofFields (fun env => ?_) fun env => ?_
  · rw [decode?, fields?_ofFields (by simp)]
    simp [hsource.read_write]
  · simp [hsource.plain]

theorem HttpGetAction.codec : Codec encode decode? := by
  refine .ofFields (fun action => ?_) fun action => ?_
  · rw [decode?, fields?_ofFields (by simp)]
    -- A step by computation would have the kernel count up to the bound of the port.
    simp -implicitDefEqProofs
  · simp

theorem Probe.codec : Codec encode decode? := by
  have haction := HttpGetAction.codec.optional
  refine .ofFields (fun probe => ?_) fun probe => ?_
  · rw [decode?, fields?_ofFields (by simp)]
    simp [haction.read_write]
  · simp [haction.plain]

theorem VolumeMount.codec : Codec encode decode? := by
  refine .ofFields (fun mount => ?_) fun mount => ?_
  · rw [decode?, fields?_ofFields (by simp)]
    simp
  · simp

theorem Container.codec : Codec encode decode? := by
  have himage := Codec.str.defaulted ""
  have hwords : FieldCodec (Option.map encodeWords) (readOptional (asListOf? asString?)) :=
    Codec.str.list.optional
  have henv := EnvVar.codec.listUnlessEmpty
  have hresources := ResourceRequirements.codec.optional
  have hprobe := Probe.codec.optional
  have hmounts := VolumeMount.codec.listUnlessEmpty
  refine .ofFields (fun container => ?_) fun container => ?_
  · rw [decode?, fields?_ofFields (by simp)]
    simp [himage.read_write, hwords.read_write, henv.read_write, hresources.read_write,
      hprobe.read_write, hmounts.read_write]
  · simp [hwords.plain, henv.plain, hresources.plain, hprobe.plain, hmounts.plain]

/-! ## Volumes -/

theorem KeyToPath.codec : Codec encode decode? := by
  refine .ofFields (fun item => ?_) fun item => ?_
  · rw [decode?, fields?_ofFields (by simp)]
    simp
  · simp

theorem SecretVolumeSource.codec : Codec encode decode? := by
  have hitems := KeyToPath.codec.listUnlessEmpty
  refine .ofFields (fun source => ?_) fun source => ?_
  · rw [decode?, fields?_ofFields (by simp)]
    simp [hitems.read_write]
  · simp [hitems.plain]

theorem EmptyDirVolumeSource.codec : Codec encode decode? := by
  refine .ofFields (fun source => ?_) fun source => ?_
  · rw [decode?, fields?_ofFields (by simp)]
    simp
  · simp

theorem Volume.codec : Codec encode decode? := by
  have hsecret := SecretVolumeSource.codec.optional
  have hdir := EmptyDirVolumeSource.codec.optional
  refine .ofFields (fun volume => ?_) fun volume => ?_
  · rw [decode?, fields?_ofFields (by simp)]
    simp [hsecret.read_write, hdir.read_write]
  · simp [hsecret.plain, hdir.plain]

/-! ## Nodes -/

theorem NodeSelectorRequirement.codec : Codec encode decode? := by
  refine .ofFields (fun requirement => ?_) fun requirement => ?_
  · rw [decode?, fields?_ofFields (by simp)]
    simp
  · simp

theorem NodeSelectorTerm.codec : Codec encode decode? := by
  have hexpressions := NodeSelectorRequirement.codec.listUnlessEmpty
  refine .ofFields (fun term => ?_) fun term => ?_
  · rw [decode?, fields?_ofFields (by simp)]
    simp [hexpressions.read_write]
  · simp [hexpressions.plain]

theorem NodeSelector.codec : Codec encode decode? := by
  have hterms := NodeSelectorTerm.codec.list.required
  refine .ofFields (fun selector => ?_) fun selector => ?_
  · rw [decode?, fields?_ofFields (by simp)]
    simp [hterms.read_write]
  · simp [hterms.plain]

theorem NodeAffinity.codec : Codec encode decode? := by
  have hselector := NodeSelector.codec.optional
  refine .ofFields (fun affinity => ?_) fun affinity => ?_
  · rw [decode?, fields?_ofFields (by simp)]
    simp [hselector.read_write]
  · simp [hselector.plain]

theorem Affinity.codec : Codec encode decode? := by
  have haffinity := NodeAffinity.codec.optional
  refine .ofFields (fun affinity => ?_) fun affinity => ?_
  · rw [decode?, fields?_ofFields (by simp)]
    simp [haffinity.read_write]
  · simp [haffinity.plain]

/-! ## Pods -/

theorem LocalObjectReference.codec : Codec encode decode? := by
  refine .ofFields (fun reference => ?_) fun reference => ?_
  · rw [decode?, fields?_ofFields (by simp)]
    simp
  · simp

theorem PodSpec.codec : Codec encode decode? := by
  have hinit := Container.codec.listUnlessEmpty
  have hcontainers := Container.codec.list.defaulted []
  have haffinity := Affinity.codec.optional
  have htolerations := Toleration.codec.listUnlessEmpty
  have hvolumes := Volume.codec.listUnlessEmpty
  have hsecrets := LocalObjectReference.codec.listUnlessEmpty
  refine .ofFields (fun pod => ?_) fun pod => ?_
  · rw [decode?, fields?_ofFields (by simp)]
    simp [hinit.read_write, hcontainers.read_write, haffinity.read_write,
      htolerations.read_write, hvolumes.read_write, hsecrets.read_write]
  · simp [hinit.plain, hcontainers.plain, haffinity.plain, htolerations.plain, hvolumes.plain,
      hsecrets.plain]

theorem PodTemplateMeta.codec : Codec encode decode? := by
  refine .ofFields (fun metadata => ?_) fun metadata => ?_
  · rw [decode?, fields?_ofFields (by simp)]
    simp
  · simp

theorem PodTemplate.codec : Codec encode decode? := by
  have hmetadata := PodTemplateMeta.codec.defaulted .empty
  have hspec := PodSpec.codec.defaulted .empty
  refine .ofFields (fun template => ?_) fun template => ?_
  · rw [decode?, fields?_ofFields (by simp)]
    simp [hmetadata.read_write, hspec.read_write]
  · simp [hmetadata.plain, hspec.plain]

/-! ## The whole object -/

theorem LabelSelector.codec : Codec encode decode? := by
  refine .ofFields (fun selector => ?_) fun selector => ?_
  · rw [decode?, fields?_ofFields (by simp)]
    simp
  · simp

theorem StatefulSetSpec.codec : Codec encode decode? := by
  have hselector := LabelSelector.codec.defaulted ⟨∅⟩
  have htemplate := PodTemplate.codec.defaulted .empty
  refine .ofFields (fun spec => ?_) fun spec => ?_
  · rw [decode?, fields?_ofFields (by simp)]
    simp [hselector.read_write, htemplate.read_write]
  · simp [hselector.plain, htemplate.plain]

/-- An absent text is read as the empty one, so every text is read back. -/
theorem OwnerReference.codec : Codec encode decode? := by
  refine .ofFields (fun owner => ?_) fun owner => ?_
  · rw [decode?, repeatedFields?_ofFields (by simp)]
    simp [Codec.str.readOptional_encode]
  · simp

theorem Metadata.codec : Codec encode decode? := by
  have howners := OwnerReference.codec.listUnlessEmpty
  refine .ofFields (fun metadata => ?_) fun metadata => ?_
  · rw [decode?, fields?_ofFields (by simp)]
    simp [howners.read_write]
  · simp [howners.plain]

theorem StatefulSet.codec : Codec encode decode? := by
  have hmetadata := Metadata.codec.required
  have hspec := StatefulSetSpec.codec.defaulted .empty
  refine .ofFields (fun workload => ?_) fun workload => ?_
  · rw [decode?, fields?_ofFields (by simp)]
    simp [hmetadata.read_write, hspec.read_write]
  · simp [hmetadata.plain, hspec.plain]

/-- Workloads with one canonical text are the same. -/
theorem StatefulSet.canonicalText_injective {workload other : StatefulSet}
    (h : workload.canonicalText = other.canonicalText) : workload = other :=
  codec.text_injective h

end FleetOperator
