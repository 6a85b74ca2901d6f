import FleetOperator.Gateway.Adjustment
import FleetOperator.Proofs.Capability.Legacy

/-!
# Edits that do not restart pods

A gateway reads little of its fleet: the sections that ask for it and what
`AgreesFor` lists beside them. Two fleets that agree on that have the same
descriptor (`ofVariant_eq`), and their cycles are one program
(`reconcileGateway_eq`), so whatever holds of a second cycle of the same fleet
holds of one of the other fleet. What holds of it is that it finds nothing to
do, if the first one is through (`unchanged_after`).

The context that gateways are put together in is not the same: it also has
the certificate of the merged gateway. A gateway of one capability is put
together without it.
-/

namespace FleetOperator

open SimulatedCluster

/-! ## Fleets that agree -/

namespace Fleet

/-- Two fleets that agree on what the gateway of a variant is made of. -/
structure AgreesFor (variant : GatewayVariant) (fleet other : Fleet) : Prop where
  ownName : other.header.name = fleet.header.name
  name : other.name = fleet.name
  ns : other.ns? = fleet.ns?
  uid : other.header.uid = fleet.header.uid
  activeGate : variant = .multi → other.spec.activeGate = fleet.spec.activeGate
  legacySection : other.legacySection? variant = fleet.legacySection? variant
  image : other.spec.activeGate.image = fleet.spec.activeGate.image
  /-- The address counts where the image comes from there, and no further than its host. -/
  host : fleet.spec.activeGate.image = "" →
    hostOf other.spec.apiUrl = hostOf fleet.spec.apiUrl
  proxy : other.proxy? = fleet.proxy?
  networkZone : other.spec.networkZone = fleet.spec.networkZone
  pullSecret : other.pullSecret = fleet.pullSecret
  kubeSystemUuid : other.kubeSystemUuid = fleet.kubeSystemUuid
  gatewayVersion : other.gatewayVersion = fleet.gatewayVersion

variable {variant : GatewayVariant} {fleet other : Fleet}

theorem AgreesFor.gatewayImage_eq (h : AgreesFor variant fleet other) :
    other.gatewayImage = fleet.gatewayImage := by
  rw [gatewayImage, gatewayImage, h.image]
  split
  · next hempty => rw [h.host (String.isEmpty_iff.1 hempty)]
  · rfl

theorem AgreesFor.workloadMeta_eq (h : AgreesFor variant fleet other) :
    other.workloadMeta = fleet.workloadMeta := by
  simp only [workloadMeta, WorkloadMeta.ofFleet?, h.ns, h.name, h.gatewayVersion, h.pullSecret]

theorem AgreesFor.ownerOf_eq (h : AgreesFor variant fleet other) :
    other.ownerOf = fleet.ownerOf := by
  funext object
  simp only [ownerOf, ownerReference?, h.ownName, h.uid]

/-- Their gateways have everything in common but the certificate. -/
theorem AgreesFor.ofFleet_eq (h : AgreesFor variant fleet other) (operatorVersion : String) :
    FleetContext.ofFleet other operatorVersion =
      (FleetContext.ofFleet fleet operatorVersion).map
        ({ · with tlsSecretName := other.spec.activeGate.tlsSecretName }) := by
  rw [FleetContext.ofFleet, FleetContext.ofFleet, h.ns, h.name, h.gatewayImage_eq,
    h.kubeSystemUuid, h.proxy, h.networkZone]
  cases fleet.ns? <;> rfl

end Fleet

/-! ## The same gateways -/

namespace GatewayDescriptor

variable {fleet other : Fleet} {variant : GatewayVariant}

theorem compose_eq (h : fleet.AgreesFor .multi other) (registry : TemplateRegistry)
    (operatorVersion : String) :
    compose other registry operatorVersion = compose fleet registry operatorVersion := by
  have hcontext : FleetContext.ofFleet other operatorVersion =
      FleetContext.ofFleet fleet operatorVersion := by
    rw [h.ofFleet_eq, h.activeGate rfl, FleetContext.ofFleet]
    cases fleet.ns? <;> rfl
  have hwants : other.wantsMergedGateway = fleet.wantsMergedGateway := by
    rw [Fleet.wantsMergedGateway, Fleet.wantsMergedGateway, h.activeGate rfl]
  rw [compose, compose, hwants, hcontext, h.activeGate rfl]

/-- A gateway of one capability has no certificate. -/
theorem legacy_eq (h : fleet.AgreesFor variant other) (registry : TemplateRegistry)
    (operatorVersion : String) (kind : CapabilityKind) (asked : Option LegacyCapabilitySpec) :
    legacy other registry operatorVersion kind variant asked =
      legacy fleet registry operatorVersion kind variant asked := by
  rw [legacy, legacy, h.ofFleet_eq]
  cases registry.get? kind with
  | none => rfl
  | some template =>
      cases asked.filter (·.enabled) with
      | none => rfl
      | some spec => cases FleetContext.ofFleet fleet operatorVersion <;> rfl

theorem ofVariant_eq (h : fleet.AgreesFor variant other) (registry : TemplateRegistry)
    (operatorVersion : String) :
    ofVariant other registry operatorVersion variant =
      ofVariant fleet registry operatorVersion variant := by
  cases hkind : variant.kind? with
  | none =>
      cases variant with
      | multi => exact compose_eq h registry operatorVersion
      | legacyKubernetesMonitoring | legacyRouting => cases hkind
  | some kind =>
      rw [ofVariant_eq_legacy hkind, ofVariant_eq_legacy hkind, h.legacySection]
      exact legacy_eq h registry operatorVersion kind _

end GatewayDescriptor

/-! ## The same cycles -/

section

variable {adjustments : List Adjustment} {fleet other : Fleet} {variant : GatewayVariant}
  {gateway : GatewayDescriptor}

theorem desiredResult_eq_of_agreesFor (h : fleet.AgreesFor variant other)
    (secrets : SortedMap ObjectKey SecretData) (version : ServerVersion) :
    desiredResult adjustments other gateway secrets version =
      desiredResult adjustments fleet gateway secrets version := by
  simp only [desiredResult, propertiesOwner, h.workloadMeta_eq, h.ownerOf_eq]

theorem reconcileGateway_eq (h : fleet.AgreesFor variant other) :
    reconcileGateway adjustments other gateway = reconcileGateway adjustments fleet gateway := by
  simp only [reconcileGateway, convergeGateway, retireGateway, applyCustomProperties,
    h.workloadMeta_eq, h.ownerOf_eq]

/-- A cycle is through with a gateway that should exist unless it has deleted the object, for a
later cycle to create it anew. -/
def Outcome.IsThrough (outcome : Outcome) (gateway : GatewayDescriptor) : Prop :=
  outcome = .deleted → gateway.enabled = false

variable {cluster after : SimulatedCluster} {plan next : FaultPlan} {outcome : Outcome}

/-- A gateway whose object is not there any more, or is not the gateway's, stays retired. -/
theorem unchanged_after_retire {base : WorkloadMeta} (hdisabled : gateway.enabled = false)
    (hbase : fleet.workloadMeta = .ok base)
    (hother : ∀ live, cluster.objects.get? (gateway.key base) = some live →
      live.isGatewayOf base.name gateway.moduleName = false) (hnext : next.SparesOthers) :
    (cluster.runUnder next (reconcileGateway adjustments fleet gateway)).1 = .ok .unchanged ∧
      Undisturbed cluster
        (cluster.runUnder next (reconcileGateway adjustments fleet gateway)).2 := by
  rw [reconcileGateway, hdisabled, if_neg (by decide)]
  have hrun := run_retireGateway next cluster fleet gateway
  generalize cluster.runUnder next (retireGateway fleet gateway) = result at hrun ⊢
  cases hrun with
  | failed hstate hcause =>
      have herror := hcause hnext
      rw [hbase] at herror
      cases herror
  | deleted hbase' hlive hgateway hremove =>
      obtain rfl := Except.ok.inj (hbase.symm.trans hbase')
      rw [hother _ hlive] at hgateway
      cases hgateway
  | unchanged hbase' hother' hquiet => exact ⟨rfl, hquiet⟩

/-- After a cycle that is through, the same cycle told the same version finds nothing to do. -/
theorem unchanged_after {version : ServerVersion} (hkeyed : cluster.Keyed)
    (hrun : cluster.runUnder plan (reconcileGateway adjustments fleet gateway) =
      (.ok outcome, after)) (hthrough : outcome.IsThrough gateway)
    (htold : ∀ calls, plan.seen calls cluster.version = version) (hnext : next.SparesOthers)
    (hnextTold : ∀ calls, next.seen calls cluster.version = version) :
    (after.runUnder next (reconcileGateway adjustments fleet gateway)).1 = .ok .unchanged ∧
      Undisturbed after (after.runUnder next (reconcileGateway adjustments fleet gateway)).2 := by
  have hcycle := run_reconcileGateway plan cluster adjustments fleet gateway
  rw [hrun] at hcycle
  cases hcycle with
  | @converged desired calls _ _ henabled hbuilt hdesired heffect =>
      obtain ⟨base, _, _, hbase, -⟩ := exists_of_desiredResult hdesired
      have hholds : Steady.Holds
          ⟨adjustments, fleet, cluster.secrets, cluster.version, base, hbase⟩ after :=
        heffect.holds ⟨rfl, rfl, hkeyed⟩
      have hagain (later : List GatewayCall) : desiredResult adjustments fleet gateway
          after.secrets (next.seen later after.version) = .ok desired := by
        rw [hholds.secrets, hholds.version, hnextTold, ← htold calls]
        exact hdesired
      -- what the first cycle has left under the key is what the second one wants there
      obtain ⟨live, hlive, hup⟩ := heffect.exists_upToDate fun hdeleted => by
        rw [hthrough hdeleted] at henabled
        cases henabled
      obtain ⟨second, last, hsecond, heffect'⟩ := exists_effect_of_sparesOthers hnext hagain
      obtain ⟨rfl, hquiet⟩ := heffect'.of_upToDate hlive hup
      rw [reconcileGateway, if_pos henabled, hsecond]
      exact ⟨rfl, hquiet⟩
  | @retired base live _ hdisabled hbase hlive hgateway hremove =>
      have hnone : after.objects.get? (gateway.key base) = none := by
        rw [hremove.objects, get?_remove, hkeyed _ _ hlive]
        exact if_pos rfl
      refine unchanged_after_retire hdisabled hbase (fun other hother => ?_) hnext
      rw [hnone] at hother
      cases hother
  | absent hdisabled hbase hother hquiet =>
      refine unchanged_after_retire hdisabled hbase (fun other hlive => ?_) hnext
      rw [hquiet.objects] at hlive
      exact hother other hlive

end

/-- Edits of a fleet that a gateway is not made of change neither its descriptor nor what it is
built as, hash and all, nor any call of its cycle. After a cycle of the one fleet that is through,
a cycle of the other one, told the same version, finds nothing to do. -/
theorem irrelevant_edits_never_roll_pods {variant : GatewayVariant} {fleet other : Fleet}
    (h : fleet.AgreesFor variant other) (registry : TemplateRegistry) (operatorVersion : String)
    (adjustments : List Adjustment) :
    GatewayDescriptor.ofVariant other registry operatorVersion variant =
        GatewayDescriptor.ofVariant fleet registry operatorVersion variant ∧
      ∀ gateway, GatewayDescriptor.ofVariant fleet registry operatorVersion variant =
          .ok gateway →
        (∀ secrets version, desiredResult adjustments other gateway secrets version =
          desiredResult adjustments fleet gateway secrets version) ∧
        reconcileGateway adjustments other gateway =
          reconcileGateway adjustments fleet gateway ∧
        ∀ (cluster after : SimulatedCluster) (plan next : FaultPlan) (outcome : Outcome)
          (version : ServerVersion), cluster.Keyed →
          cluster.runUnder plan (reconcileGateway adjustments fleet gateway) =
            (.ok outcome, after) → outcome.IsThrough gateway →
          (∀ calls, plan.seen calls cluster.version = version) → next.SparesOthers →
          (∀ calls, next.seen calls cluster.version = version) →
          (after.runUnder next (reconcileGateway adjustments other gateway)).1 =
              .ok .unchanged ∧
            Undisturbed after
              (after.runUnder next (reconcileGateway adjustments other gateway)).2 := by
  refine ⟨GatewayDescriptor.ofVariant_eq h registry operatorVersion, fun gateway _ =>
    ⟨fun secrets version => desiredResult_eq_of_agreesFor h secrets version,
      reconcileGateway_eq h, ?_⟩⟩
  intro cluster after plan next outcome version hkeyed hrun hthrough htold hnext hnextTold
  rw [reconcileGateway_eq h]
  exact unchanged_after hkeyed hrun hthrough htold hnext hnextTold

/-- The sample fleet after edits of everything that its merged gateway is not made of. -/
def editedFleet : Fleet where
  header := { sampleFleet.header with labels := some (.ofList [("team", "edge")]) }
  spec := { sampleFleet.spec with
    apiUrl := "http://live.example.com/e/tenant/api"
    tokens := "other-tokens"
    skipCertCheck := true
    kubernetesMonitoring := some ⟨true, "monitor", .none⟩
    routing := some ⟨false, "", .none⟩ }
  status := some ⟨"", "", "tenant"⟩

theorem irrelevant_edits_of_sampleFleet :
    ∃ after, sampleCluster.runUnder .clear
        (reconcileGateway [(WorkloadChange.replicas (some 2)).apply] sampleFleet sampleGateway) =
          (.ok .created, after) ∧
      GatewayDescriptor.ofVariant editedFleet .builtin "1.0.0" .multi = .ok sampleGateway ∧
      (after.runUnder .clear
        (reconcileGateway [(WorkloadChange.replicas (some 2)).apply] editedFleet
          sampleGateway)).1 = .ok .unchanged := by
  have hagrees : sampleFleet.AgreesFor .multi editedFleet :=
    ⟨rfl, rfl, rfl, rfl, fun _ => rfl, rfl, rfl, fun _ => by decide +kernel, rfl, rfl, rfl, rfl,
      rfl⟩
  have htold (calls : List GatewayCall) :
      FaultPlan.clear.seen calls sampleCluster.version = sampleCluster.version := rfl
  obtain ⟨hgateway, hcycles⟩ := irrelevant_edits_never_roll_pods hagrees .builtin "1.0.0"
    [(WorkloadChange.replicas (some 2)).apply]
  obtain ⟨-, -, hsecond⟩ := hcycles sampleGateway rfl
  refine ⟨_, rfl, hgateway, ?_⟩
  exact (hsecond sampleCluster _ .clear .clear .created sampleCluster.version
    keyed_sampleCluster rfl (fun hdeleted => by cases hdeleted) htold
    FaultPlan.sparesOthers_clear htold).1

end FleetOperator
