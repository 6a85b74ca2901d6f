import FleetOperator.Proofs.Gateway.Calls
import FleetOperator.Proofs.Gateway.Convergence
import FleetOperator.Proofs.Gateway.Reachable

/-!
# The objects of a fleet follow its gateways

A cycle that should remove an object removes it only if the object carries
the labels of its gateway, and a cycle that should keep one removes it if the
labels are not those. Both are harmless in a cluster that only the operator
writes to: whatever is stored was built for a module of the fleet, under the
key and with the labels of that module (`FleetRun.stores`), and keys of
different modules differ. So the labels under a gateway's key are always the
gateway's.

Hence the cycle of a gateway that does not fail leaves an object under its
key exactly if the gateway should exist (`placed_reconcileGateway`), and a
cycle of the controller that does not fail leaves the objects of the enabled
gateways, and nothing else (`objects_follow_gateways`), whatever was asked
for before and whatever failed on the way.
-/

namespace FleetOperator

open SimulatedCluster

/-! ## Modules and labels -/

/-- Templates by which the three gateways of a fleet have different modules. -/
structure TemplateRegistry.TellsApart (registry : TemplateRegistry)
    (monitoring routing : CapabilityTemplate) : Prop where
  get?_monitoring : registry.get? .kubernetesMonitoring = some monitoring
  get?_routing : registry.get? .routing = some routing
  ne : monitoring.moduleName ≠ routing.moduleName
  monitoring_ne : monitoring.moduleName ≠ GatewayDescriptor.multiModule
  routing_ne : routing.moduleName ≠ GatewayDescriptor.multiModule

/-- The modules of the gateways of a fleet. -/
def gatewayModules (monitoring routing : CapabilityTemplate) : List String :=
  [GatewayDescriptor.multiModule, monitoring.moduleName, routing.moduleName]

/-- An adjustment that leaves the labels of an object alone. -/
def KeepsLabels (adjust : Adjustment) : Prop :=
  ∀ workload, (adjust workload).metadata.labels = workload.metadata.labels

theorem labels_desired {adjustments : List Adjustment}
    (hkeep : ∀ adjust ∈ adjustments, KeepsLabels adjust) (base : WorkloadMeta)
    (gateway : GatewayDescriptor) (hash : String) (version : ServerVersion) :
    (StatefulSet.desired base gateway hash version adjustments).metadata.labels =
      workloadLabels base.name gateway.moduleName :=
  foldl_adjustments_eq (·.metadata.labels) hkeep (StatefulSet.plain base gateway hash version)

theorem isGatewayOf_of_labels {live : StatefulSet} {fleetName moduleName : String}
    (h : live.metadata.labels = workloadLabels fleetName moduleName) :
    live.isGatewayOf fleetName moduleName = true := by
  have hinstance : (workloadLabels fleetName moduleName).get? labelInstance =
      some fleetName := by
    refine (SortedMap.get?_insert _ _ _ _).trans ?_
    refine (if_neg (by decide : ¬ compare labelInstance labelModule = .eq)).trans ?_
    exact SortedMap.get?_insert_self _ _ _
  have hmodule : (workloadLabels fleetName moduleName).get? labelModule = some moduleName :=
    SortedMap.get?_insert_self _ _ _
  rw [StatefulSet.isGatewayOf, h, hinstance, hmodule]
  simp

theorem Fleet.exists_base {fleet : Fleet} {base : WorkloadMeta}
    (h : fleet.workloadMeta = .ok base) : base.name = fleet.name ∧ fleet.ns? = some base.ns := by
  unfold Fleet.workloadMeta WorkloadMeta.ofFleet? at h
  cases hns : fleet.ns? with
  | none => simp [hns] at h
  | some ns =>
      simp only [hns, Option.map_some] at h
      obtain rfl := Except.ok.inj h
      exact ⟨rfl, rfl⟩

section

variable {registry : TemplateRegistry} {monitoring routing : CapabilityTemplate}
  {operatorVersion : String} {fleet : Fleet} {gateways : List GatewayDescriptor}

theorem map_moduleName_of_all (htells : registry.TellsApart monitoring routing)
    (hall : GatewayDescriptor.all fleet registry operatorVersion = .ok gateways) :
    gateways.map (·.moduleName) = gatewayModules monitoring routing := by
  obtain ⟨multi, hmulti, hall⟩ := Except.exists_of_bind_eq_ok hall
  obtain ⟨kubemon, hkubemon, hall⟩ := Except.exists_of_bind_eq_ok hall
  obtain ⟨router, hrouter, hall⟩ := Except.exists_of_bind_eq_ok hall
  obtain rfl := Except.ok.inj hall
  rw [gatewayModules, ← moduleName_compose hmulti,
    ← moduleName_legacy htells.get?_monitoring hkubemon,
    ← moduleName_legacy htells.get?_routing hrouter]
  rfl

theorem nodup_gatewayModules (htells : registry.TellsApart monitoring routing) :
    (gatewayModules monitoring routing).Nodup := by
  simp [gatewayModules, htells.ne, htells.monitoring_ne.symm, htells.routing_ne.symm]

end

/-! ## Runs of the controller for one fleet -/

/-- An object of a module of the fleet, under the key and with the labels of the module. -/
structure ModuleObject (name : String) (ns? : Option String) (modules : List String)
    (key : ObjectKey) (live : StatefulSet) : Prop where
  key_eq : live.key = key
  exists_module : ∃ ns moduleName, ns? = some ns ∧ moduleName ∈ modules ∧
    key = ⟨ns, name ++ "-" ++ moduleName⟩ ∧
    live.metadata.labels = workloadLabels name moduleName

/-- The clusters that cycles of the controller lead to from one without objects, for a fleet of
one name and namespace. What the fleet asks for, the adjustments and what fails may differ from
cycle to cycle. -/
inductive FleetRun (registry : TemplateRegistry) (name : String) (ns? : Option String) :
    SimulatedCluster → Prop
  | start {cluster : SimulatedCluster} (hempty : cluster.objects = ∅) :
      FleetRun registry name ns? cluster
  | cycle {cluster : SimulatedCluster} (plan : FaultPlan) (operatorVersion : String)
      {adjustments : List Adjustment}
      (hkeep : ∀ adjust ∈ adjustments, KeepsIdentity adjust ∧ KeepsLabels adjust)
      {fleet : Fleet} (hname : fleet.name = name) (hns : fleet.ns? = ns?)
      (h : FleetRun registry name ns? cluster) :
      FleetRun registry name ns?
        (fleetCycle registry operatorVersion adjustments fleet plan cluster).2
  /-- Secrets, the version and anything else but the objects are not the operator's. -/
  | outside {cluster other : SimulatedCluster} (h : FleetRun registry name ns? cluster)
      (hobjects : other.objects = cluster.objects) : FleetRun registry name ns? other

section

variable {registry : TemplateRegistry} {monitoring routing : CapabilityTemplate}
  {operatorVersion : String} {fleet : Fleet} {gateway : GatewayDescriptor}
  {gateways : List GatewayDescriptor} {modules : List String} {adjustments : List Adjustment}
  {plan : FaultPlan} {cluster : SimulatedCluster} {base : WorkloadMeta}

/-- What a cycle builds is the object of its module. -/
theorem moduleObject_of_desiredResult
    (hkeep : ∀ adjust ∈ adjustments, KeepsIdentity adjust ∧ KeepsLabels adjust)
    (hmodule : gateway.moduleName ∈ modules) {secrets : SortedMap ObjectKey SecretData}
    {version : ServerVersion} {desired : StatefulSet}
    (hdesired : desiredResult adjustments fleet gateway secrets version = .ok desired)
    (revision : Nat) :
    ModuleObject fleet.name fleet.ns? modules desired.key (desired.atRevision revision) := by
  obtain ⟨base, hash, owner, hbase, -, -, rfl⟩ := exists_of_desiredResult hdesired
  obtain ⟨hname, hns⟩ := Fleet.exists_base hbase
  have hkey := key_desired (fun adjust hmem => (hkeep adjust hmem).1) base gateway hash version
  have hlabels := labels_desired (fun adjust hmem => (hkeep adjust hmem).2) base gateway hash
    version
  rw [hname] at hlabels
  refine ⟨rfl, base.ns, gateway.moduleName, hns, hmodule, ?_, hlabels⟩
  refine hkey.trans ?_
  rw [GatewayDescriptor.key, GatewayDescriptor.workloadName, hname]

theorem stores_reconcileGateway (plan : FaultPlan)
    (hkeep : ∀ adjust ∈ adjustments, KeepsIdentity adjust ∧ KeepsLabels adjust)
    (hmodule : gateway.moduleName ∈ modules)
    (h : cluster.Stores (ModuleObject fleet.name fleet.ns? modules)) :
    (cluster.runUnder plan (reconcileGateway adjustments fleet gateway)).2.Stores
      (ModuleObject fleet.name fleet.ns? modules) :=
  (run_reconcileGateway plan cluster adjustments fleet gateway).stores h
    fun _ _ _ hdesired => moduleObject_of_desiredResult hkeep hmodule hdesired

/-- In every run, whatever is stored is an object of a module of the fleet. -/
theorem FleetRun.stores {name : String} {ns? : Option String}
    (htells : registry.TellsApart monitoring routing) (h : FleetRun registry name ns? cluster) :
    cluster.Stores (ModuleObject name ns? (gatewayModules monitoring routing)) := by
  induction h with
  | start hempty =>
      intro key live hlive
      rw [hempty] at hlive
      cases hlive
  | cycle plan operatorVersion hkeep hname hns _ ih =>
      subst hname hns
      refine fleetCycle_keeps (fun gateways hall gateway hmem cluster hstores => ?_) ih
      refine stores_reconcileGateway plan hkeep ?_ hstores
      rw [← map_moduleName_of_all htells hall]
      exact List.mem_map_of_mem hmem
  | outside _ hobjects ih => exact ih.of_objects_eq hobjects

/-! ## A cycle that does not fail -/

/-- Under the key of a gateway, an object of a module carries the labels of the gateway. -/
theorem labels_of_stored (h : cluster.Stores (ModuleObject fleet.name fleet.ns? modules))
    (hbase : fleet.workloadMeta = .ok base) {live : StatefulSet}
    (hlive : cluster.objects.get? (gateway.key base) = some live) :
    live.metadata.labels = workloadLabels base.name gateway.moduleName := by
  obtain ⟨-, ns, moduleName, -, -, hkey, hlabels⟩ := h _ _ hlive
  obtain ⟨hname, -⟩ := Fleet.exists_base hbase
  have hmodule : gateway.moduleName = moduleName := by
    have hkeyName := congrArg ObjectKey.name hkey
    rw [← hname] at hkeyName
    exact (String.append_right_inj _).1 hkeyName
  rw [hlabels, hname, hmodule]

/-- There is an object under the key of a gateway exactly if the gateway should exist, and
nothing was done elsewhere. -/
structure Placed (base : WorkloadMeta) (gateway : GatewayDescriptor)
    (before after : SimulatedCluster) : Prop where
  placed : (after.objects.get? (gateway.key base)).isSome = gateway.enabled
  others : ∀ key, key ≠ gateway.key base → after.objects.get? key = before.objects.get? key

theorem placed_reconcileGateway
    (hkeep : ∀ adjust ∈ adjustments, KeepsIdentity adjust ∧ KeepsLabels adjust)
    (h : cluster.Stores (ModuleObject fleet.name fleet.ns? modules))
    (hbase : fleet.workloadMeta = .ok base) {outcome : Outcome} {after : SimulatedCluster}
    (hok : cluster.runUnder plan (reconcileGateway adjustments fleet gateway) =
      (.ok outcome, after)) : Placed base gateway cluster after := by
  have hrun := run_reconcileGateway plan cluster adjustments fleet gateway
  rw [hok] at hrun
  have hkeyed : cluster.Keyed := fun key live hlive => (h key live hlive).key_eq
  cases hrun with
  | @converged desired calls _ _ henabled hbuilt hdesired heffect =>
      obtain ⟨base', hash, owner, hbase', -, -, rfl⟩ := exists_of_desiredResult hdesired
      obtain rfl := Except.ok.inj (hbase.symm.trans hbase')
      have hkey : ((StatefulSet.desired base gateway hash (plan.seen calls cluster.version)
          adjustments).ownedBy owner).key = gateway.key base :=
        key_desired (fun adjust hmem => (hkeep adjust hmem).1) _ _ _ _
      have hlabels : ((StatefulSet.desired base gateway hash (plan.seen calls cluster.version)
          adjustments).ownedBy owner).metadata.labels =
            workloadLabels base.name gateway.moduleName :=
        labels_desired (fun adjust hmem => (hkeep adjust hmem).2) _ _ _ _
      have hsettled := heffect.settlement hkeyed
      -- The labels of a live object are the desired ones, so it is not deleted.
      have hne : outcome ≠ .deleted := by
        intro hdeleted
        obtain ⟨live, hlive, hother⟩ := hsettled.deleted_iff.1 hdeleted
        rw [hkey] at hlive
        rw [hlabels] at hother
        exact hother (labels_of_stored h hbase hlive)
      obtain ⟨live, hlive, -⟩ := heffect.exists_upToDate hne
      rw [hkey] at hlive
      have hothers := hsettled.others
      rw [hkey] at hothers
      exact ⟨by rw [hlive, henabled]; rfl, hothers⟩
  | retired hdisabled hbase' hlive hgateway hremove =>
      obtain rfl := Except.ok.inj (hbase.symm.trans hbase')
      have hkey : _ = gateway.key base := hkeyed _ _ hlive
      refine ⟨?_, fun key hne => ?_⟩
      · rw [hremove.objects, get?_remove, if_pos hkey.symm, hdisabled]
        rfl
      · rw [hremove.objects, get?_remove, hkey, if_neg hne]
  | absent hdisabled hbase' hother hquiet =>
      obtain rfl := Except.ok.inj (hbase.symm.trans hbase')
      refine ⟨?_, fun key _ => by rw [hquiet.objects]⟩
      rw [hquiet.objects, hdisabled]
      cases hlive : cluster.objects.get? (gateway.key base) with
      | none => rfl
      | some live =>
          have hgateway := isGatewayOf_of_labels (labels_of_stored h hbase hlive)
          rw [hother live hlive] at hgateway
          cases hgateway

theorem placed_mapM (hkeep : ∀ adjust ∈ adjustments, KeepsIdentity adjust ∧ KeepsLabels adjust)
    (hmodules : ∀ gateway ∈ gateways, gateway.moduleName ∈ modules)
    (hdistinct : DistinctKeys base gateways)
    (h : cluster.Stores (ModuleObject fleet.name fleet.ns? modules))
    (hbase : fleet.workloadMeta = .ok base) {outcomes : List Outcome} {after : SimulatedCluster}
    (hok : cluster.runUnder plan (gateways.mapM (reconcileGateway adjustments fleet)) =
      (.ok outcomes, after)) :
    (∀ gateway ∈ gateways, (after.objects.get? (gateway.key base)).isSome = gateway.enabled) ∧
      ∀ key, (∀ gateway ∈ gateways, key ≠ gateway.key base) →
        after.objects.get? key = cluster.objects.get? key := by
  induction gateways generalizing cluster outcomes with
  | nil =>
      obtain ⟨-, rfl⟩ := Prod.mk.inj hok
      exact ⟨by simp, fun _ _ => rfl⟩
  | cons gateway rest ih =>
      obtain ⟨hfirst, hdistinct⟩ := List.pairwise_cons.1 hdistinct
      obtain ⟨outcome, others, middle, hhead, htail⟩ := exists_of_mapM_cons_eq_ok hok
      have hplaced := placed_reconcileGateway hkeep h hbase hhead
      have hstores := stores_reconcileGateway plan hkeep (hmodules gateway List.mem_cons_self) h
      rw [hhead] at hstores
      obtain ⟨hrest, hothers⟩ := ih
        (fun other hmem => hmodules other (List.mem_cons_of_mem _ hmem)) hdistinct hstores htail
      refine ⟨fun other hmem => ?_, fun key hkey => ?_⟩
      · rcases List.mem_cons.1 hmem with rfl | hmem
        · rw [hothers _ fun third hthird => (hfirst third hthird).symm]
          exact hplaced.placed
        · exact hrest other hmem
      · rw [hothers key fun other hmem => hkey other (List.mem_cons_of_mem _ hmem),
          hplaced.others key (hkey gateway List.mem_cons_self)]

/-- Where a cycle does not fail, the fleet has a namespace. -/
theorem exists_base_of_mapM {outcomes : List Outcome} {after : SimulatedCluster}
    (hmem : gateway ∈ gateways)
    (hok : cluster.runUnder plan (gateways.mapM (reconcileGateway adjustments fleet)) =
      (.ok outcomes, after)) : ∃ base, fleet.workloadMeta = .ok base := by
  cases gateways with
  | nil => cases hmem
  | cons first rest =>
      obtain ⟨outcome, others, middle, hhead, -⟩ := exists_of_mapM_cons_eq_ok hok
      have hrun := run_reconcileGateway plan cluster adjustments fleet first
      rw [hhead] at hrun
      cases hrun with
      | converged _ _ hdesired =>
          obtain ⟨base, -, -, hbase, -⟩ := exists_of_desiredResult hdesired
          exact ⟨base, hbase⟩
      | retired _ hbase | absent _ hbase => exact ⟨_, hbase⟩

/-- After a cycle of the controller that does not fail, the objects in the cluster are those of
the enabled gateways of the fleet: one for each, under its namespace and named after the fleet
and the module, and none besides. -/
theorem objects_follow_gateways {name : String} {ns? : Option String}
    (htells : registry.TellsApart monitoring routing) (hrun : FleetRun registry name ns? cluster)
    (hkeep : ∀ adjust ∈ adjustments, KeepsIdentity adjust ∧ KeepsLabels adjust)
    (hname : fleet.name = name) (hns : fleet.ns? = ns?) {seconds : Nat}
    {after : SimulatedCluster}
    (hok : fleetCycle registry operatorVersion adjustments fleet plan cluster =
      (.ok seconds, after)) :
    ∃ gateways ns, GatewayDescriptor.all fleet registry operatorVersion = .ok gateways ∧
      ns? = some ns ∧ (gateways.map (·.moduleName)).Nodup ∧
      (∀ key, (∃ live, after.objects.get? key = some live) ↔
        ∃ gateway ∈ gateways, gateway.enabled = true ∧
          key = ⟨ns, name ++ "-" ++ gateway.moduleName⟩) ∧
      ∀ key live, after.objects.get? key = some live → live.key = key := by
  have hafter := (hrun.cycle plan operatorVersion hkeep hname hns).stores htells
  rw [hok] at hafter
  have hstores := hrun.stores htells
  subst hname hns
  obtain ⟨gateways, outcomes, hall, hlist⟩ := exists_of_fleetCycle_eq_ok hok
  have hmodules := map_moduleName_of_all htells hall
  obtain ⟨first, hfirst⟩ : ∃ first, first ∈ gateways :=
    List.exists_mem_of_ne_nil _ fun hnil => by rw [hnil] at hmodules; cases hmodules
  obtain ⟨base, hbase⟩ := exists_base_of_mapM hfirst hlist
  obtain ⟨hname, hns⟩ := Fleet.exists_base hbase
  have hkey (gateway : GatewayDescriptor) :
      gateway.key base = ⟨base.ns, fleet.name ++ "-" ++ gateway.moduleName⟩ := by
    rw [GatewayDescriptor.key, GatewayDescriptor.workloadName, hname]
  have hmem : ∀ gateway ∈ gateways,
      gateway.moduleName ∈ gatewayModules monitoring routing := by
    rw [← hmodules]
    exact fun gateway hgateway => List.mem_map_of_mem hgateway
  obtain ⟨hplaced, -⟩ := placed_mapM hkeep hmem
    (distinctKeys_of_all hall htells.get?_monitoring htells.get?_routing htells.ne
      htells.monitoring_ne htells.routing_ne base) hstores hbase hlist
  refine ⟨gateways, base.ns, hall, hns, hmodules ▸ nodup_gatewayModules htells,
    fun key => ⟨?_, ?_⟩, fun key live hlive => (hafter key live hlive).key_eq⟩
  · -- Whatever is stored is of a module, and so under the key of a gateway.
    rintro ⟨live, hlive⟩
    obtain ⟨-, ns, moduleName, hns', hmodule, rfl, -⟩ := hafter key live hlive
    obtain rfl := Option.some.inj (hns.symm.trans hns')
    rw [← hmodules] at hmodule
    obtain ⟨gateway, hgateway, rfl⟩ := List.mem_map.1 hmodule
    have hsome := hplaced gateway hgateway
    rw [hkey, hlive] at hsome
    exact ⟨gateway, hgateway, hsome.symm, rfl⟩
  · rintro ⟨gateway, hgateway, henabled, rfl⟩
    have hsome := hplaced gateway hgateway
    rw [hkey, henabled] at hsome
    exact Option.isSome_iff_exists.1 hsome

end

/-- The sample fleet after its capability was taken off the list. -/
def idleFleet : Fleet :=
  { sampleFleet with spec := { sampleFleet.spec with activeGate := .none } }

/-- The gateways of that fleet, none of which should exist. -/
def idleGateways : List GatewayDescriptor :=
  [.disabled .multi "multi" .none, .disabled .legacyKubernetesMonitoring "kubemon" .none,
    .disabled .legacyRouting "routing" .none]

theorem all_idleFleet : GatewayDescriptor.all idleFleet .builtin "1.0.0" = .ok idleGateways := rfl

theorem tellsApart_builtin :
    TemplateRegistry.builtin.TellsApart .kubernetesMonitoring .routing :=
  ⟨rfl, rfl, by decide, by decide, by decide⟩

/-- Cycles of the controller for the idle fleet. -/
def idleSteady : Steady where
  adjustments := []
  fleet := idleFleet
  secrets := sampleCluster.secrets
  version := sampleCluster.version
  base := ⟨"fleet", "meridian", "", idleFleet.pullSecret⟩
  base_eq := rfl

theorem sampleCycle : ∃ seconds middle,
    fleetCycle .builtin "1.0.0" [] sampleFleet .clear sampleCluster = (.ok seconds, middle) ∧
      idleSteady.Holds middle := by
  have hserves : ∀ gateway ∈ sampleGateways,
      (sampleSteady [] sampleCluster.version).Serves gateway := by
    intro gateway hmem
    rcases List.mem_cons.1 hmem with rfl | hmem
    · exact serves_sample (by simp) _
    · intro henabled
      rcases List.mem_cons.1 hmem with rfl | hmem
      · cases henabled
      · obtain rfl := List.mem_singleton.1 hmem
        cases henabled
  have hdistinct := distinctKeys_of_all all_sampleFleet tellsApart_builtin.get?_monitoring
    tellsApart_builtin.get?_routing (by decide) (by decide) (by decide)
    (sampleSteady [] sampleCluster.version).base
  have hholds : (sampleSteady [] sampleCluster.version).Holds sampleCluster :=
    ⟨rfl, rfl, keyed_sampleCluster⟩
  have hstep := cyclesStep all_sampleFleet hserves hdistinct hholds
    (answersVersion_of_mem_replicate (n := 1))
  obtain ⟨seconds, hok⟩ := (clearCycle all_sampleFleet hserves hdistinct hholds).succeeds
  exact ⟨seconds, _, Prod.ext hok rfl, hstep.holds.secrets, hstep.holds.version,
    hstep.holds.keyed⟩

theorem idleCycle {middle : SimulatedCluster} (hholds : idleSteady.Holds middle) :
    ∃ seconds after,
      fleetCycle .builtin "1.0.0" [] idleFleet .clear middle = (.ok seconds, after) := by
  have hserves : ∀ gateway ∈ idleGateways, idleSteady.Serves gateway := by
    intro gateway hmem henabled
    simp only [idleGateways, List.mem_cons, List.not_mem_nil, or_false] at hmem
    rcases hmem with rfl | rfl | rfl <;> cases henabled
  have hdistinct := distinctKeys_of_all all_idleFleet tellsApart_builtin.get?_monitoring
    tellsApart_builtin.get?_routing (by decide) (by decide) (by decide) idleSteady.base
  obtain ⟨seconds, hok⟩ := (clearCycle all_idleFleet hserves hdistinct hholds).succeeds
  exact ⟨seconds, _, Prod.ext hok rfl⟩

/-- The sample fleet gets its object in a first cycle. It loses its capability, and after a
second cycle there is nothing left. -/
theorem sample_objects_follow_gateways :
    let first := fleetCycle .builtin "1.0.0" [] sampleFleet .clear sampleCluster
    let second := fleetCycle .builtin "1.0.0" [] idleFleet .clear first.2
    (∃ live, first.2.objects.get? ⟨"meridian", "fleet-multi"⟩ = some live) ∧
      (∃ seconds, second.1 = .ok seconds) ∧ ∀ key, second.2.objects.get? key = none := by
  have hkeep : ∀ adjust ∈ ([] : List Adjustment), KeepsIdentity adjust ∧ KeepsLabels adjust := by
    simp
  have hrun : FleetRun .builtin "fleet" (some "meridian") sampleCluster := .start rfl
  have hsample : sampleFleet.name = "fleet" := rfl
  have hidle : idleFleet.name = "fleet" := rfl
  have hnext := hrun.cycle .clear "1.0.0" hkeep hsample rfl
  obtain ⟨seconds, middle, hfirst, hholds⟩ := sampleCycle
  obtain ⟨seconds', after, hsecond⟩ := idleCycle hholds
  rw [hfirst] at hnext
  obtain ⟨gateways, ns, hall, hns, -, hiff, -⟩ :=
    objects_follow_gateways tellsApart_builtin hrun hkeep hsample rfl hfirst
  obtain ⟨gateways', ns', hall', -, -, hiff', -⟩ :=
    objects_follow_gateways tellsApart_builtin hnext hkeep hidle rfl hsecond
  obtain rfl := Except.ok.inj (all_sampleFleet.symm.trans hall)
  obtain rfl := Except.ok.inj (all_idleFleet.symm.trans hall')
  obtain rfl := Option.some.inj hns
  dsimp only
  rw [hfirst, hsecond]
  refine ⟨(hiff _).2 ⟨sampleGateway, List.mem_cons_self, rfl, rfl⟩, ⟨seconds', rfl⟩,
    fun key => ?_⟩
  rw [Option.eq_none_iff_forall_ne_some]
  intro live hlive
  obtain ⟨gateway, hmem, henabled, -⟩ := (hiff' key).1 ⟨live, hlive⟩
  simp only [idleGateways, List.mem_cons, List.not_mem_nil, or_false] at hmem
  rcases hmem with rfl | rfl | rfl <;> cases henabled

end FleetOperator
