import FleetOperator.Gateway.Adjustment
import FleetOperator.Proofs.Gateway.Identity

/-!
# The controller converges

The gateways of a fleet have keys of their own, so a cycle of the controller
is a step for each of them, up to the first that fails, and none of these
steps is seen in the place of another. By induction over the gateways and
then over the cycles, whatever fails, the targets of the gateways stay what
they were at the start (`cyclesStep`), and so does every object that has no
gateway's key.

Two cycles without failures are then enough. The first leaves every place
settled or empty, the second fills what is empty, and from there on nothing
is written any more. What the places hold in the end is the target that each
of them had at the start, so it does not depend on what failed on the way.
-/

namespace FleetOperator

open SimulatedCluster

/-! ## Several gateways in turn -/

/-- What the cycles of several gateways leave as it was. -/
structure ListStep (steady : Steady) (gateways : List GatewayDescriptor)
    (before after : SimulatedCluster) : Prop where
  holds : steady.Holds after
  others : ∀ key, (∀ gateway ∈ gateways, key ≠ gateway.key steady.base) →
    after.objects.get? key = before.objects.get? key
  target : ∀ gateway ∈ gateways, SameContents
    (steady.target gateway (after.objects.get? (gateway.key steady.base)))
    (steady.target gateway (before.objects.get? (gateway.key steady.base)))

section

variable {steady : Steady} {gateway : GatewayDescriptor} {gateways : List GatewayDescriptor}
  {before middle after cluster : SimulatedCluster}

theorem ListStep.refl (hholds : steady.Holds cluster) :
    ListStep steady gateways cluster cluster :=
  ⟨hholds, fun _ _ => rfl, fun _ _ => rfl⟩

theorem ListStep.trans (h : ListStep steady gateways before middle)
    (h' : ListStep steady gateways middle after) : ListStep steady gateways before after where
  holds := h'.holds
  others key hkey := (h'.others key hkey).trans (h.others key hkey)
  target gateway hmem := (h'.target gateway hmem).trans (h.target gateway hmem)

/-- A step for a gateway and steps for others are steps for all of them. -/
theorem ListStep.cons (hdistinct : DistinctKeys steady.base (gateway :: gateways))
    (hhead : SlotStep steady gateway before middle)
    (htail : ListStep steady gateways middle after) :
    ListStep steady (gateway :: gateways) before after where
  holds := htail.holds
  others key hkey := by
    rw [htail.others key fun other hmem => hkey other (List.mem_cons_of_mem _ hmem),
      hhead.others key (hkey gateway List.mem_cons_self)]
  target other hmem := by
    obtain ⟨hfirst, -⟩ := List.pairwise_cons.1 hdistinct
    rcases List.mem_cons.1 hmem with rfl | hmem
    · rw [htail.others _ fun third hthird => (hfirst third hthird).symm]
      exact hhead.target
    · rw [← hhead.others _ (hfirst other hmem)]
      exact htail.target other hmem

theorem runUnder_mapM_cons (plan : FaultPlan) (cluster : SimulatedCluster)
    (f : GatewayDescriptor → GatewayProgram Outcome) (gateway : GatewayDescriptor)
    (gateways : List GatewayDescriptor) :
    cluster.runUnder plan ((gateway :: gateways).mapM f) =
      match cluster.runUnder plan (f gateway) with
      | (.error e, after) => (.error e, after)
      | (.ok outcome, after) =>
        match after.runUnder plan (gateways.mapM f) with
        | (.error e, last) => (.error e, last)
        | (.ok outcomes, last) => (.ok (outcome :: outcomes), last) := by
  rw [List.mapM_cons, runUnder_bind]
  cases cluster.runUnder plan (f gateway) with
  | mk result after =>
      cases result with
      | error e => rfl
      | ok outcome =>
          simp only
          rw [runUnder_bind]
          cases after.runUnder plan (gateways.mapM f) with
          | mk results last => cases results <;> rfl

/-- Several programs in turn that do not fail are the first and then the others. -/
theorem exists_of_mapM_cons_eq_ok {plan : FaultPlan}
    {f : GatewayDescriptor → GatewayProgram Outcome} {outcomes : List Outcome}
    (hok : cluster.runUnder plan ((gateway :: gateways).mapM f) = (.ok outcomes, after)) :
    ∃ outcome others middle, cluster.runUnder plan (f gateway) = (.ok outcome, middle) ∧
      middle.runUnder plan (gateways.mapM f) = (.ok others, after) := by
  rw [runUnder_mapM_cons] at hok
  cases hhead : cluster.runUnder plan (f gateway) with
  | mk result middle =>
      rw [hhead] at hok
      cases result with
      | error e => cases hok
      | ok outcome =>
          simp only at hok
          cases htail : middle.runUnder plan (gateways.mapM f) with
          | mk results last =>
              rw [htail] at hok
              cases results with
              | error e => cases hok
              | ok others =>
                  obtain ⟨-, rfl⟩ := Prod.mk.inj hok
                  exact ⟨outcome, others, middle, rfl, htail⟩

/-- What each of some programs keeps, all of them in turn keep. -/
theorem mapM_keeps {P : SimulatedCluster → Prop} {plan : FaultPlan}
    {f : GatewayDescriptor → GatewayProgram Outcome}
    (hstep : ∀ gateway ∈ gateways, ∀ cluster, P cluster → P (cluster.runUnder plan (f gateway)).2)
    (h : P cluster) : P (cluster.runUnder plan (gateways.mapM f)).2 := by
  induction gateways generalizing cluster with
  | nil => exact h
  | cons gateway rest ih =>
      have hhead := hstep gateway List.mem_cons_self cluster h
      have hrest : ∀ other ∈ rest, ∀ cluster, P cluster → P (cluster.runUnder plan (f other)).2 :=
        fun other hmem => hstep other (List.mem_cons_of_mem _ hmem)
      rw [runUnder_mapM_cons]
      cases hrun : cluster.runUnder plan (f gateway) with
      | mk result middle =>
          rw [hrun] at hhead
          cases result with
          | error e => exact hhead
          | ok outcome =>
              have hlast := ih hrest hhead
              simp only
              cases hlater : middle.runUnder plan (rest.mapM f) with
              | mk results last =>
                  rw [hlater] at hlast
                  cases results <;> exact hlast

/-- The cycles of several gateways leave the target of each as it was, up to the first that
fails and with it. -/
theorem listStep (hserves : ∀ gateway ∈ gateways, steady.Serves gateway)
    (hdistinct : DistinctKeys steady.base gateways) (hholds : steady.Holds cluster)
    {plan : FaultPlan} (hplan : plan.AnswersVersion) :
    ListStep steady gateways cluster
      (cluster.runUnder plan
        (gateways.mapM (reconcileGateway steady.adjustments steady.fleet))).2 := by
  induction gateways generalizing cluster with
  | nil => exact .refl hholds
  | cons gateway rest ih =>
      have hhead := slotStep (hserves gateway List.mem_cons_self) hholds hplan
      have hrest : ∀ other ∈ rest, steady.Serves other :=
        fun other hmem => hserves other (List.mem_cons_of_mem _ hmem)
      rw [runUnder_mapM_cons]
      cases hrun : cluster.runUnder plan
          (reconcileGateway steady.adjustments steady.fleet gateway) with
      | mk result middle =>
          rw [hrun] at hhead
          cases result with
          | error e => exact .cons hdistinct hhead (.refl hhead.holds)
          | ok outcome =>
              have htail := ih hrest (List.pairwise_cons.1 hdistinct).2 hhead.holds
              simp only
              cases hlast : middle.runUnder plan
                  (rest.mapM (reconcileGateway steady.adjustments steady.fleet)) with
              | mk results last =>
                  rw [hlast] at htail
                  cases results <;> exact .cons hdistinct hhead htail

/-! ## Several gateways in turn, without failures -/

/-- How much closer the cycles of several gateways come to their targets. -/
structure ClearRun (steady : Steady) (gateways : List GatewayDescriptor)
    (before : SimulatedCluster)
    (result : Except GatewayError (List Outcome) × SimulatedCluster) : Prop where
  succeeds : ∃ outcomes, result.1 = .ok outcomes
  stays : (∀ gateway ∈ gateways, Settled steady gateway before) →
    (∃ outcomes, result.1 = .ok outcomes ∧ outcomes.any Outcome.isChange = false) ∧
      Undisturbed before result.2
  keeps : ∀ gateway ∈ gateways, Settled steady gateway before → Settled steady gateway result.2
  fills : ∀ gateway ∈ gateways, before.objects.get? (gateway.key steady.base) = none →
    Settled steady gateway result.2
  settles : ∀ gateway ∈ gateways, Settled steady gateway result.2 ∨
    result.2.objects.get? (gateway.key steady.base) = none

theorem Settled.of_same_slot (h : Settled steady gateway before)
    (hslot : after.objects.get? (gateway.key steady.base) =
      before.objects.get? (gateway.key steady.base)) : Settled steady gateway after := by
  rw [Settled, hslot]
  exact h

theorem ClearRun.cons (hdistinct : DistinctKeys steady.base (gateway :: gateways))
    {outcome : Outcome} {outcomes : List Outcome}
    (hstep : SlotStep steady gateway before middle)
    (hhead : ClearStep steady gateway before (.ok outcome, middle))
    (hsteps : ListStep steady gateways middle after)
    (htail : ClearRun steady gateways middle (.ok outcomes, after)) :
    ClearRun steady (gateway :: gateways) before (.ok (outcome :: outcomes), after) := by
  obtain ⟨hfirst, -⟩ := List.pairwise_cons.1 hdistinct
  have hkept : after.objects.get? (gateway.key steady.base) =
      middle.objects.get? (gateway.key steady.base) :=
    hsteps.others _ fun other hmem => (hfirst other hmem).symm
  refine ⟨⟨_, rfl⟩, fun hsettled => ?_, fun other hmem hsettled => ?_,
    fun other hmem hnone => ?_, fun other hmem => ?_⟩
  · obtain ⟨houtcome, hquiet⟩ := hhead.stays (hsettled gateway List.mem_cons_self)
    obtain ⟨⟨rest, hrest, hunchanged⟩, hquiet'⟩ := htail.stays fun other hmem =>
      (hsettled other (List.mem_cons_of_mem _ hmem)).of_same_slot
        (hstep.others _ (hfirst other hmem))
    obtain rfl := Except.ok.inj houtcome
    obtain rfl := Except.ok.inj hrest
    refine ⟨⟨_, rfl, ?_⟩, hquiet.trans hquiet'⟩
    rw [List.any_cons, hunchanged]
    rfl
  · rcases List.mem_cons.1 hmem with rfl | hmem
    · have hquiet := (hhead.stays hsettled).2
      exact (hsettled.of_same_slot (by rw [hquiet.objects])).of_same_slot hkept
    · exact htail.keeps other hmem
        (hsettled.of_same_slot (hstep.others _ (hfirst other hmem)))
  · rcases List.mem_cons.1 hmem with rfl | hmem
    · exact (hhead.fills hnone).of_same_slot hkept
    · refine htail.fills other hmem ?_
      rw [hstep.others _ (hfirst other hmem), hnone]
  · rcases List.mem_cons.1 hmem with rfl | hmem
    · rcases hhead.settles with hdone | hnone
      · exact .inl (hdone.of_same_slot hkept)
      · exact .inr (hkept.trans hnone)
    · exact htail.settles other hmem

theorem clearRun (hserves : ∀ gateway ∈ gateways, steady.Serves gateway)
    (hdistinct : DistinctKeys steady.base gateways) (hholds : steady.Holds cluster) :
    ClearRun steady gateways cluster
      (cluster.runUnder .clear
        (gateways.mapM (reconcileGateway steady.adjustments steady.fleet))) := by
  induction gateways generalizing cluster with
  | nil =>
      refine ⟨⟨[], rfl⟩, fun _ => ⟨⟨[], rfl, rfl⟩, .refl cluster⟩, ?_, ?_, ?_⟩ <;> simp
  | cons gateway rest ih =>
      have hserve := hserves gateway List.mem_cons_self
      have hhead := clearStep hserve hholds
      have hstep := slotStep hserve hholds FaultPlan.answersVersion_clear
      have hrest : ∀ other ∈ rest, steady.Serves other :=
        fun other hmem => hserves other (List.mem_cons_of_mem _ hmem)
      have hdistinct' : DistinctKeys steady.base rest := (List.pairwise_cons.1 hdistinct).2
      rw [runUnder_mapM_cons]
      cases hrun : cluster.runUnder .clear
          (reconcileGateway steady.adjustments steady.fleet gateway) with
      | mk result middle =>
          rw [hrun] at hhead hstep
          obtain ⟨outcome, houtcome⟩ := hhead.succeeds
          obtain rfl : result = .ok outcome := houtcome
          have htail := ih hrest hdistinct' hstep.holds
          have hsteps := listStep hrest hdistinct' hstep.holds FaultPlan.answersVersion_clear
          simp only
          cases hlast : middle.runUnder .clear
              (rest.mapM (reconcileGateway steady.adjustments steady.fleet)) with
          | mk results last =>
              rw [hlast] at htail hsteps
              obtain ⟨outcomes, houtcomes⟩ := htail.succeeds
              obtain rfl : results = .ok outcomes := houtcomes
              exact .cons hdistinct hstep hhead hsteps htail

end

/-! ## Cycles of the controller -/

/-- A cycle of the controller under a plan. -/
def fleetCycle (registry : TemplateRegistry) (operatorVersion : String)
    (adjustments : List Adjustment) (fleet : Fleet) (plan : FaultPlan)
    (cluster : SimulatedCluster) : Except GatewayError Nat × SimulatedCluster :=
  cluster.runUnder plan (reconcileFleet registry operatorVersion adjustments fleet)

/-- The cluster after cycles of the controller, each under a plan of its own. -/
def afterCycles (registry : TemplateRegistry) (operatorVersion : String)
    (adjustments : List Adjustment) (fleet : Fleet) (plans : List FaultPlan)
    (cluster : SimulatedCluster) : SimulatedCluster :=
  plans.foldl (fun cluster plan =>
    (fleetCycle registry operatorVersion adjustments fleet plan cluster).2) cluster

section

variable {registry : TemplateRegistry} {operatorVersion : String} {steady : Steady}
  {gateways : List GatewayDescriptor} {cluster : SimulatedCluster}

theorem fleetCycle_eq {adjustments : List Adjustment} {fleet : Fleet}
    (hall : GatewayDescriptor.all fleet registry operatorVersion = .ok gateways)
    (plan : FaultPlan) (cluster : SimulatedCluster) :
    fleetCycle registry operatorVersion adjustments fleet plan cluster =
      match cluster.runUnder plan (gateways.mapM (reconcileGateway adjustments fleet)) with
      | (.error e, after) => (.error e, after)
      | (.ok outcomes, after) =>
        (.ok (if outcomes.any Outcome.isChange then changedRequeue else steadyRequeue), after) := by
  rw [fleetCycle, reconcileFleet, runUnder_bind, runUnder_ofExcept, hall]
  show cluster.runUnder plan (gateways.mapM (reconcileGateway adjustments fleet) >>=
    fun outcomes => pure (if outcomes.any Outcome.isChange then changedRequeue else steadyRequeue))
    = _
  rw [runUnder_bind]
  cases cluster.runUnder plan (gateways.mapM (reconcileGateway adjustments fleet)) with
  | mk result after => cases result <;> rfl

theorem snd_fleetCycle {adjustments : List Adjustment} {fleet : Fleet}
    (hall : GatewayDescriptor.all fleet registry operatorVersion = .ok gateways)
    (plan : FaultPlan) (cluster : SimulatedCluster) :
    (fleetCycle registry operatorVersion adjustments fleet plan cluster).2 =
      (cluster.runUnder plan (gateways.mapM (reconcileGateway adjustments fleet))).2 := by
  rw [fleetCycle_eq hall]
  cases cluster.runUnder plan (gateways.mapM (reconcileGateway adjustments fleet)) with
  | mk result after => cases result <;> rfl

/-- A cycle that does not fail is one of all gateways in turn. -/
theorem exists_of_fleetCycle_eq_ok {adjustments : List Adjustment} {fleet : Fleet}
    {plan : FaultPlan} {seconds : Nat} {after : SimulatedCluster}
    (hok : fleetCycle registry operatorVersion adjustments fleet plan cluster =
      (.ok seconds, after)) :
    ∃ gateways outcomes, GatewayDescriptor.all fleet registry operatorVersion = .ok gateways ∧
      cluster.runUnder plan (gateways.mapM (reconcileGateway adjustments fleet)) =
        (.ok outcomes, after) := by
  cases hall : GatewayDescriptor.all fleet registry operatorVersion with
  | error e =>
      rw [fleetCycle, reconcileFleet, runUnder_bind, runUnder_ofExcept, hall] at hok
      cases hok
  | ok gateways =>
      rw [fleetCycle_eq hall] at hok
      cases hlist : cluster.runUnder plan (gateways.mapM (reconcileGateway adjustments fleet)) with
      | mk results last =>
          rw [hlist] at hok
          cases results with
          | error e => cases hok
          | ok outcomes =>
              obtain ⟨-, rfl⟩ := Prod.mk.inj hok
              exact ⟨gateways, outcomes, rfl, hlist⟩

/-- What the cycle of every gateway keeps, a cycle of the controller keeps. -/
theorem fleetCycle_keeps {P : SimulatedCluster → Prop} {adjustments : List Adjustment}
    {fleet : Fleet} {plan : FaultPlan}
    (hstep : ∀ gateways, GatewayDescriptor.all fleet registry operatorVersion = .ok gateways →
      ∀ gateway ∈ gateways, ∀ cluster, P cluster →
        P (cluster.runUnder plan (reconcileGateway adjustments fleet gateway)).2)
    (h : P cluster) :
    P (fleetCycle registry operatorVersion adjustments fleet plan cluster).2 := by
  cases hall : GatewayDescriptor.all fleet registry operatorVersion with
  | error e =>
      rw [fleetCycle, reconcileFleet, runUnder_bind, runUnder_ofExcept, hall]
      exact h
  | ok gateways =>
      rw [snd_fleetCycle hall]
      exact mapM_keeps (hstep gateways hall) h

/-- Whatever fails, cycles leave the targets as they were. -/
theorem cyclesStep
    (hall : GatewayDescriptor.all steady.fleet registry operatorVersion = .ok gateways)
    (hserves : ∀ gateway ∈ gateways, steady.Serves gateway)
    (hdistinct : DistinctKeys steady.base gateways) (hholds : steady.Holds cluster)
    {plans : List FaultPlan} (hplans : ∀ plan ∈ plans, plan.AnswersVersion) :
    ListStep steady gateways cluster
      (afterCycles registry operatorVersion steady.adjustments steady.fleet plans cluster) := by
  induction plans generalizing cluster with
  | nil => exact .refl hholds
  | cons plan rest ih =>
      have hone : ListStep steady gateways cluster
          (fleetCycle registry operatorVersion steady.adjustments steady.fleet plan cluster).2 := by
        rw [snd_fleetCycle hall]
        exact listStep hserves hdistinct hholds (hplans plan List.mem_cons_self)
      exact hone.trans (ih hone.holds fun other hmem => hplans other (List.mem_cons_of_mem _ hmem))

/-- What a cycle without failures does for all gateways of a fleet. -/
structure ClearCycle (steady : Steady) (gateways : List GatewayDescriptor)
    (before : SimulatedCluster) (result : Except GatewayError Nat × SimulatedCluster) : Prop where
  succeeds : ∃ seconds, result.1 = .ok seconds
  stays : (∀ gateway ∈ gateways, Settled steady gateway before) →
    result.1 = .ok steadyRequeue ∧ Undisturbed before result.2
  keeps : ∀ gateway ∈ gateways, Settled steady gateway before → Settled steady gateway result.2
  fills : ∀ gateway ∈ gateways, before.objects.get? (gateway.key steady.base) = none →
    Settled steady gateway result.2
  settles : ∀ gateway ∈ gateways, Settled steady gateway result.2 ∨
    result.2.objects.get? (gateway.key steady.base) = none

theorem clearCycle
    (hall : GatewayDescriptor.all steady.fleet registry operatorVersion = .ok gateways)
    (hserves : ∀ gateway ∈ gateways, steady.Serves gateway)
    (hdistinct : DistinctKeys steady.base gateways) (hholds : steady.Holds cluster) :
    ClearCycle steady gateways cluster
      (fleetCycle registry operatorVersion steady.adjustments steady.fleet .clear cluster) := by
  have hrun := clearRun hserves hdistinct hholds
  rw [fleetCycle_eq hall]
  cases hresult : cluster.runUnder .clear
      (gateways.mapM (reconcileGateway steady.adjustments steady.fleet)) with
  | mk result after =>
      rw [hresult] at hrun
      obtain ⟨outcomes, houtcomes⟩ := hrun.succeeds
      obtain rfl : result = .ok outcomes := houtcomes
      refine ⟨⟨_, rfl⟩, fun hsettled => ?_, hrun.keeps, hrun.fills, hrun.settles⟩
      obtain ⟨⟨others, hothers, hunchanged⟩, hquiet⟩ := hrun.stays hsettled
      obtain rfl := Except.ok.inj hothers
      refine ⟨?_, hquiet⟩
      simp only [hunchanged, Bool.false_eq_true, if_false]

theorem afterCycles_append (plans later : List FaultPlan) :
    afterCycles registry operatorVersion steady.adjustments steady.fleet (plans ++ later) cluster =
      afterCycles registry operatorVersion steady.adjustments steady.fleet later
        (afterCycles registry operatorVersion steady.adjustments steady.fleet plans cluster) :=
  List.foldl_append

theorem answersVersion_of_mem_replicate {n : Nat} :
    ∀ plan ∈ List.replicate n FaultPlan.clear, plan.AnswersVersion := by
  intro plan hmem
  rw [List.eq_of_mem_replicate hmem]
  exact FaultPlan.answersVersion_clear

/-- From the third cycle without failures on every place is settled. -/
theorem settled_afterCycles
    (hall : GatewayDescriptor.all steady.fleet registry operatorVersion = .ok gateways)
    (hserves : ∀ gateway ∈ gateways, steady.Serves gateway)
    (hdistinct : DistinctKeys steady.base gateways) (hholds : steady.Holds cluster) (n : Nat) :
    ∀ gateway ∈ gateways, Settled steady gateway
      (afterCycles registry operatorVersion steady.adjustments steady.fleet
        (List.replicate (n + 2) .clear) cluster) := by
  have hsnoc (m : Nat) :
      afterCycles registry operatorVersion steady.adjustments steady.fleet
        (List.replicate (m + 1) .clear) cluster =
      (fleetCycle registry operatorVersion steady.adjustments steady.fleet .clear
        (afterCycles registry operatorVersion steady.adjustments steady.fleet
          (List.replicate m .clear) cluster)).2 := by
    rw [List.replicate_succ', afterCycles_append]
    rfl
  have hstep (m : Nat) := clearCycle hall hserves hdistinct
    (cyclesStep hall hserves hdistinct hholds (answersVersion_of_mem_replicate (n := m))).holds
  intro gateway hmem
  induction n with
  | zero =>
      -- The first cycle leaves the place settled or empty, and the second fills it.
      rw [hsnoc 1]
      have hfirst := (hstep 0).settles gateway hmem
      rw [← hsnoc 0] at hfirst
      rcases hfirst with hdone | hnone
      · exact (hstep 1).keeps gateway hmem hdone
      · exact (hstep 1).fills gateway hmem hnone
  | succ n ih =>
      rw [hsnoc (n + 2)]
      exact (hstep (n + 2)).keeps gateway hmem ih

/-- What is in the places of the gateways after two cycles without failures or more. -/
theorem contents_afterCycles
    (hall : GatewayDescriptor.all steady.fleet registry operatorVersion = .ok gateways)
    (hserves : ∀ gateway ∈ gateways, steady.Serves gateway)
    (hdistinct : DistinctKeys steady.base gateways) (hholds : steady.Holds cluster)
    {plans : List FaultPlan} (hplans : ∀ plan ∈ plans, plan.AnswersVersion) (n : Nat) :
    let now := afterCycles registry operatorVersion steady.adjustments steady.fleet
      (plans ++ List.replicate (n + 2) .clear) cluster
    (∀ gateway ∈ gateways, SameContents (now.objects.get? (gateway.key steady.base))
        (steady.target gateway (cluster.objects.get? (gateway.key steady.base)))) ∧
      ∀ key, (∀ gateway ∈ gateways, key ≠ gateway.key steady.base) →
        now.objects.get? key = cluster.objects.get? key := by
  have hfaulty := cyclesStep hall hserves hdistinct hholds hplans
  have hclear := cyclesStep hall hserves hdistinct hfaulty.holds
    (answersVersion_of_mem_replicate (n := n + 2))
  have hsettled := settled_afterCycles hall hserves hdistinct hfaulty.holds n
  rw [← afterCycles_append] at hclear
  have hboth := hfaulty.trans hclear
  refine ⟨fun gateway hmem => ?_, hboth.others⟩
  have hslot := hsettled gateway hmem
  rw [← afterCycles_append] at hslot
  have htarget := hboth.target gateway hmem
  rw [hslot] at htarget
  exact htarget

/-- The controller converges. Let a fleet, its secrets, the templates, the adjustments and the
version of the cluster stay as they are. After any cycles in which any calls but the one for
the version fail, a cycle without failures succeeds; from the third such cycle on it writes
nothing and comes back after five minutes; and what is stored then does not depend on what
failed, and is the target that each place had at the start. -/
theorem controller_converges {monitoring routing : CapabilityTemplate} {start : SimulatedCluster}
    (hname : steady.fleet.header.name.isSome = true)
    (huid : steady.fleet.header.uid.isSome = true)
    (hall : GatewayDescriptor.all steady.fleet registry operatorVersion = .ok gateways)
    (hmonitoring : registry.get? .kubernetesMonitoring = some monitoring)
    (hrouting : registry.get? .routing = some routing)
    (hne : monitoring.moduleName ≠ routing.moduleName)
    (hmonitoringNe : monitoring.moduleName ≠ GatewayDescriptor.multiModule)
    (hroutingNe : routing.moduleName ≠ GatewayDescriptor.multiModule)
    (hkeep : ∀ adjust ∈ steady.adjustments, KeepsIdentity adjust)
    (hsecrets : ∀ gateway ∈ gateways, gateway.enabled = true →
      SecretsResolve steady.secrets steady.base.ns gateway)
    (hholds : steady.Holds start)
    {plans : List FaultPlan} (hplans : ∀ plan ∈ plans, plan.AnswersVersion) (n : Nat) :
    let now := afterCycles registry operatorVersion steady.adjustments steady.fleet
      (plans ++ List.replicate n .clear) start
    let next := fleetCycle registry operatorVersion steady.adjustments steady.fleet .clear now
    let undisturbed := afterCycles registry operatorVersion steady.adjustments steady.fleet
      [.clear, .clear] start
    (∃ seconds, next.1 = .ok seconds) ∧
      (2 ≤ n →
        (next.1 = .ok steadyRequeue ∧ Undisturbed now next.2) ∧
        (∀ key, SameContents (now.objects.get? key) (undisturbed.objects.get? key)) ∧
        (∀ gateway ∈ gateways, SameContents (now.objects.get? (gateway.key steady.base))
          (steady.target gateway (start.objects.get? (gateway.key steady.base)))) ∧
        ∀ key, (∀ gateway ∈ gateways, key ≠ gateway.key steady.base) →
          now.objects.get? key = start.objects.get? key) := by
  have hserves : ∀ gateway ∈ gateways, steady.Serves gateway :=
    fun gateway hmem => Steady.serves hname huid hkeep (hsecrets gateway hmem)
  have hdistinct : DistinctKeys steady.base gateways :=
    distinctKeys_of_all hall hmonitoring hrouting hne hmonitoringNe hroutingNe steady.base
  have hfaulty := cyclesStep hall hserves hdistinct hholds hplans
  have hnow := cyclesStep hall hserves hdistinct hfaulty.holds
    (answersVersion_of_mem_replicate (n := n))
  rw [← afterCycles_append] at hnow
  have hcycle := clearCycle hall hserves hdistinct hnow.holds
  refine ⟨hcycle.succeeds, fun hn => ?_⟩
  obtain ⟨m, rfl⟩ : ∃ m, n = m + 2 := ⟨n - 2, by omega⟩
  have hsettled := settled_afterCycles hall hserves hdistinct hfaulty.holds m
  rw [← afterCycles_append] at hsettled
  obtain ⟨htarget, hothers⟩ := contents_afterCycles hall hserves hdistinct hholds hplans m
  have hnone : ∀ plan ∈ ([] : List FaultPlan), plan.AnswersVersion := by simp
  obtain ⟨htarget', hothers'⟩ := contents_afterCycles hall hserves hdistinct hholds hnone 0
  refine ⟨hcycle.stays hsettled, fun key => ?_, htarget, hothers⟩
  by_cases hkey : ∀ gateway ∈ gateways, key ≠ gateway.key steady.base
  · rw [hothers key hkey]
    exact congrArg _ (hothers' key hkey).symm
  · obtain ⟨gateway, hmem, rfl⟩ : ∃ gateway ∈ gateways, key = gateway.key steady.base := by
      simpa using hkey
    exact (htarget gateway hmem).trans (htarget' gateway hmem).symm

end

/-- A run whose adjustment sets the number of replicas. -/
def twoReplicas : Steady :=
  sampleSteady [(WorkloadChange.replicas (some 2)).apply] sampleCluster.version

/-- After a cycle without writes, two cycles are enough to replace the object of another hand. -/
theorem controller_converges_over_hand_made :
    (fleetCycle .builtin "1.0.0" twoReplicas.adjustments sampleFleet .clear
      (afterCycles .builtin "1.0.0" twoReplicas.adjustments sampleFleet
        ([readOnlyPlan] ++ List.replicate 2 .clear) (sampleCluster.write handMade))).1 =
      .ok steadyRequeue := by
  have hkeep : ∀ adjust ∈ twoReplicas.adjustments, KeepsIdentity adjust := by
    intro adjust hmem
    obtain rfl := List.mem_singleton.1 hmem
    exact fun workload => ⟨rfl, rfl⟩
  have hsecrets : ∀ gateway ∈ sampleGateways, gateway.enabled = true →
      SecretsResolve twoReplicas.secrets twoReplicas.base.ns gateway := by
    intro gateway hmem henabled properties secret hproperties hreference
    rcases List.mem_cons.1 hmem with rfl | hmem
    · obtain rfl := Option.some.inj hproperties
      obtain rfl := Option.some.inj hreference
      exact ⟨[97, 61, 49], rfl⟩
    · rcases List.mem_cons.1 hmem with rfl | hmem
      · cases henabled
      · obtain rfl := List.mem_singleton.1 hmem
        cases henabled
  have hholds : twoReplicas.Holds (sampleCluster.write handMade) :=
    ⟨rfl, rfl, keyed_sampleCluster.write (StatefulSet.key_atRevision handMade _)⟩
  have hplans : ∀ plan ∈ [readOnlyPlan], plan.AnswersVersion := by
    intro plan hmem
    obtain rfl := List.mem_singleton.1 hmem
    exact fun _ => rfl
  have hname : twoReplicas.fleet.header.name.isSome = true := rfl
  have hconverges := controller_converges hname rfl all_sampleFleet rfl rfl (by decide)
    (by decide) (by decide) hkeep hsecrets hholds hplans 2
  exact (hconverges.2 (Nat.le_refl 2)).1.1

end FleetOperator
