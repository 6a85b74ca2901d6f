import FleetOperator.Fleet.Codec
import FleetOperator.Proofs.Json.Reading
import FleetOperator.Proofs.Workload.Codec
import FleetOperator.Proofs.Workload.Layout

/-!
# Fleets read back from their written form

The properties of a gateway stand among the own fields of its section. None of
those has a name of theirs, so what is read under their names is what they
were written as (`ofFields?_section`), and what the section holds besides its
own fields can all be read.

A text that is left out when it is empty is read as the empty one, while a
structure that is there but empty is written as such and stays apart from one
that is not there.
-/

namespace FleetOperator

open Json

theorem CapabilityKind.codec : Codec encode decode? := by
  refine ⟨fun kind => ?_, fun kind => by simp [encode], fun kind => .str _⟩
  cases kind <;> rfl

theorem ValueSource.codec : Codec encode decode? := by
  refine .ofFields (fun source => ?_) fun source => ?_
  · rw [decode?, fields?_ofFields (by simp)]
    simp
  · simp

theorem EnvVarSpec.codec : Codec encode decode? := by
  have hkey := SecretKeyRef.codec.optional
  refine .ofFields (fun spec => ?_) fun spec => ?_
  · rw [decode?, fields?_ofFields (by simp)]
    simp [hkey.read_write]
  · simp [hkey.plain]

/-! ## Sections with properties -/

theorem othersReadable_ofFields {fields : List (String × Option Json)}
    (h : ∀ field ∈ fields, PlainField field.2) (names : List String) :
    (ofFields fields).othersReadable names = true := by
  have hplain := plain_ofFields h
  rw [ofFields] at hplain ⊢
  cases hplain with
  | obj hmembers =>
      rw [othersReadable]
      refine membersReadable_of_forall fun member hmember => ?_
      exact (hmembers member (List.mem_filter.1 hmember).1).isReadable

theorem writtenIn_append {own fields : List (String × Option Json)} {name : String}
    (h : name ∉ own.map (·.1)) : writtenIn (own ++ fields) name = writtenIn fields name := by
  induction own with
  | nil => rfl
  | cons field own ih =>
      rw [List.map_cons, List.mem_cons, not_or] at h
      rw [List.cons_append, writtenIn_cons, if_neg h.1, ih h.2]

namespace CapabilityProperties

/-- Properties are read back from a section whose own fields have other names. -/
theorem ofFields?_section {own : List (String × Option Json)}
    (h : ∀ name ∈ fieldNames, name ∉ own.map (·.1)) (properties : CapabilityProperties) :
    ofFields? (.single (writtenIn (own ++ properties.toFields))) = some properties := by
  have hcustom := ValueSource.codec.optional
  have hresources := ResourceRequirements.codec.optional
  have htolerations := Toleration.codec.listUnlessEmpty
  have henv := EnvVarSpec.codec.listUnlessEmpty
  have hwritten : ∀ name ∈ fieldNames,
      writtenIn (own ++ properties.toFields) name = writtenIn properties.toFields name :=
    fun name hname => writtenIn_append (h name hname)
  simp only [fieldNames, List.forall_mem_cons, List.not_mem_nil, false_implies, implies_true,
    and_true] at hwritten
  simp only [ofFields?, Fields.optional_single, Fields.defaulted_single, hwritten]
  simp [toFields, hcustom.read_write, hresources.read_write, htolerations.read_write,
    henv.read_write]

theorem plain_section {own : List (String × Option Json)} (h : ∀ field ∈ own, PlainField field.2)
    (properties : CapabilityProperties) :
    ∀ field ∈ own ++ properties.toFields, PlainField field.2 := by
  have hcustom := ValueSource.codec.optional
  have hresources := ResourceRequirements.codec.optional
  have htolerations := Toleration.codec.listUnlessEmpty
  have henv := EnvVarSpec.codec.listUnlessEmpty
  refine List.forall_mem_append.2 ⟨h, ?_⟩
  simp [toFields, hcustom.plain, hresources.plain, htolerations.plain, henv.plain]

end CapabilityProperties

open CapabilityProperties

theorem ActiveGateSpec.codec : Codec encode decode? := by
  have hkinds := CapabilityKind.codec.listUnlessEmpty
  have hplain (gateway : ActiveGateSpec) : ∀ field ∈ [
      ("capabilities", listUnlessEmpty CapabilityKind.encode gateway.capabilities),
      ("tlsSecretName", Json.unlessEmpty gateway.tlsSecretName),
      ("image", Json.unlessEmpty gateway.image)], PlainField field.2 := by
    simp [hkinds.plain]
  refine .ofFields (fun gateway => ?_) fun gateway => plain_section (hplain gateway) _
  rw [decode?, guard_of_pos (othersReadable_ofFields (plain_section (hplain gateway) _) _),
    fieldsByName?_ofFields (by simp [toFields])]
  simp only [Option.pure_def, Option.bind_eq_bind, Option.bind_some]
  rw [ofFields?_section (by simp [fieldNames])]
  simp [hkinds.read_write]

theorem LegacyCapabilitySpec.codec : Codec encode decode? := by
  have henabled := Codec.bool.defaulted false
  have hplain (gateway : LegacyCapabilitySpec) : ∀ field ∈ [
      ("enabled", some (.bool gateway.enabled)),
      ("serviceAccountName", Json.unlessEmpty gateway.serviceAccountName)], PlainField field.2 := by
    simp [henabled.plain]
  refine .ofFields (fun gateway => ?_) fun gateway => plain_section (hplain gateway) _
  rw [decode?, guard_of_pos (othersReadable_ofFields (plain_section (hplain gateway) _) _),
    fieldsByName?_ofFields (by simp [toFields])]
  simp only [Option.pure_def, Option.bind_eq_bind, Option.bind_some]
  rw [ofFields?_section (by simp [fieldNames])]
  simp [henabled.read_write]

/-! ## The whole specification -/

theorem FleetSpec.codec : Codec encode decode? := by
  have hskip := Codec.bool.defaulted false
  have hproxy := ValueSource.codec.optional
  have hgateway := ActiveGateSpec.codec.defaulted .none
  have hlegacy := LegacyCapabilitySpec.codec.optional
  refine .ofFields (fun spec => ?_) fun spec => ?_
  · rw [decode?, fields?_ofFields (by simp)]
    simp [hskip.read_write, hproxy.read_write, hgateway.read_write, hlegacy.read_write]
  · simp [hskip.plain, hproxy.plain, hgateway.plain, hlegacy.plain]

theorem FleetStatus.codec_section (name : String) :
    Codec (encodeSection name) (decodeSection? name) := by
  refine .ofFields (fun value => ?_) fun value => ?_
  · rw [decodeSection?, fields?_ofFields (by simp)]
    simp
  · simp

theorem FleetStatus.codec : Codec encode decode? := by
  have hgateway := (codec_section "version").defaulted ""
  have hconnection := (codec_section "tenantUuid").defaulted ""
  refine .ofFields (fun status => ?_) fun status => ?_
  · rw [decode?, fields?_ofFields (by simp)]
    simp [hgateway.read_write, hconnection.read_write]
  · simp [hgateway.plain, hconnection.plain]

/-! ## Round trips -/

def ValueSource.layout : Layout := .record [("value", .scalar), ("valueFrom", .scalar)]

theorem ValueSource.fits_encode (source : ValueSource) : layout.Fits source.encode :=
  Layout.fits_ofFields (by simp) (by simp [Layout.FitFields])

def EnvVarSpec.layout : Layout :=
  .record [("name", .scalar), ("value", .scalar), ("secretKeyRef", SecretKeyRef.layout)]

theorem EnvVarSpec.fits_encode (spec : EnvVarSpec) : layout.Fits spec.encode := by
  have hkey := SecretKeyRef.layout_serves
  exact Layout.fits_ofFields (by simp) (by simp [Layout.FitFields, hkey.fits])

/-- The layouts of the fields that properties put into a section. -/
def CapabilityProperties.fieldLayouts : List (String × Layout) := [
  ("replicas", .scalar), ("group", .scalar), ("customProperties", ValueSource.layout),
  ("resources", ResourceRequirements.layout), ("nodeSelector", .map),
  ("tolerations", .list Toleration.layout), ("env", .list EnvVarSpec.layout)]

theorem CapabilityProperties.fitFields_toFields (properties : CapabilityProperties) :
    Layout.FitFields fieldLayouts properties.toFields := by
  have hcustom := ValueSource.fits_encode
  have hresources := ResourceRequirements.layout_serves
  have htoleration := Toleration.layout_serves
  have henv := EnvVarSpec.fits_encode
  simp [Layout.FitFields, fieldLayouts, toFields, hcustom, hresources.fits, htoleration.fits, henv]

theorem CapabilityKind.fits_encode (kind : CapabilityKind) : Layout.scalar.Fits kind.encode :=
  Layout.fits_str _

def ActiveGateSpec.layout : Layout :=
  .record ([("capabilities", .list .scalar), ("tlsSecretName", .scalar), ("image", .scalar)] ++
    fieldLayouts)

theorem ActiveGateSpec.fits_encode (gateway : ActiveGateSpec) : layout.Fits gateway.encode := by
  have hproperties := gateway.properties.fitFields_toFields
  refine Layout.fits_ofFields (by simp [fieldLayouts]) (List.rel_append ?_ hproperties)
  simp [CapabilityKind.fits_encode]

def LegacyCapabilitySpec.layout : Layout :=
  .record ([("enabled", .scalar), ("serviceAccountName", .scalar)] ++ fieldLayouts)

theorem LegacyCapabilitySpec.fits_encode (gateway : LegacyCapabilitySpec) :
    layout.Fits gateway.encode := by
  have hproperties := gateway.properties.fitFields_toFields
  refine Layout.fits_ofFields (by simp [fieldLayouts]) (List.rel_append ?_ hproperties)
  simp

def FleetSpec.layout : Layout :=
  .record [("apiUrl", .scalar), ("tokens", .scalar), ("customPullSecret", .scalar),
    ("proxy", ValueSource.layout), ("networkZone", .scalar), ("skipCertCheck", .scalar),
    ("activeGate", ActiveGateSpec.layout), ("kubernetesMonitoring", LegacyCapabilitySpec.layout),
    ("routing", LegacyCapabilitySpec.layout)]

theorem FleetSpec.fits_encode (spec : FleetSpec) : layout.Fits spec.encode := by
  have hproxy := ValueSource.fits_encode
  have hgateway := ActiveGateSpec.fits_encode
  have hlegacy := LegacyCapabilitySpec.fits_encode
  exact Layout.fits_ofFields (by simp) (by simp [Layout.FitFields, hproxy, hgateway, hlegacy])

def FleetStatus.layout : Layout :=
  .record [("kubeSystemUuid", .scalar), ("activeGate", .record [("version", .scalar)]),
    ("connectionInfo", .record [("tenantUuid", .scalar)])]

theorem FleetStatus.fits_encode (status : FleetStatus) : layout.Fits status.encode := by
  have hsection (name value : String) :
      (Layout.record [(name, .scalar)]).Fits (encodeSection name value) :=
    Layout.fits_ofFields (by simp) (by simp [Layout.FitFields])
  exact Layout.fits_ofFields (by simp) (by simp [Layout.FitFields, hsection])

/-- Nothing of what a fleet asks for, and nothing of what has been observed of it, is lost in its
written form. -/
theorem Fleet.encoding_lossless :
    RoundTrips FleetSpec.encode FleetSpec.decode? ∧
      RoundTrips FleetStatus.encode FleetStatus.decode? :=
  ⟨FleetSpec.codec.roundTrips FleetSpec.fits_encode (by decide),
    FleetStatus.codec.roundTrips FleetStatus.fits_encode (by decide)⟩

/-- A proxy with nothing in it is not the same as none. -/
example : (FleetSpec.decode? (.obj [("apiUrl", .str ""), ("proxy", .obj [])])).map (·.proxy) =
    some (some ⟨"", ""⟩) := rfl

end FleetOperator
