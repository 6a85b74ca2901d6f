import FleetOperator.Proofs.Gateway.Faults

/-!
# The moments of a run against a cluster

The moments of two gateway programs in turn are those of the first and then
those of the second, which is come to only if the first does not fail
(`mem_momentsWith_bind`). What is true of every call that a program can make
is true of every call that it makes (`call_of_mem_moments`). For a cluster with
a plan of failures, the calls of a run are those that end up on record
(`calls_runUnder`).
-/

namespace FleetOperator

open GatewayProgram (ask askOr ofExcept)

/-- What answers the calls of a gateway program over the state of a cluster. -/
abbrev Partner := (call : GatewayCall) → SimulatedCluster →
  Except OperatorError call.Result × SimulatedCluster

/-- A call of a gateway program, and the cluster that it is made to. -/
abbrev GatewayMoment := Moment gatewayInterface SimulatedCluster

namespace SimulatedCluster

variable {α β : Type} {partner : Partner} {plan : FaultPlan} {cluster : SimulatedCluster}
  {moment : GatewayMoment} {program : GatewayProgram α} {next : α → GatewayProgram β}

/-- Runs a gateway program against a partner. -/
def runWith (partner : Partner) (program : GatewayProgram α) (cluster : SimulatedCluster) :
    Except GatewayError α × SimulatedCluster :=
  Dialogue.run (I := gatewayInterface) partner (ExceptT.run program) cluster

/-- The moments of a gateway program against a partner. -/
def momentsWith (partner : Partner) (program : GatewayProgram α) (cluster : SimulatedCluster) :
    List GatewayMoment :=
  (ExceptT.run program).moments partner cluster

theorem runWith_answerUnder (plan : FaultPlan) (program : GatewayProgram α)
    (cluster : SimulatedCluster) :
    cluster.runWith (answerUnder plan) program = cluster.runUnder plan program := rfl

theorem runWith_bind (partner : Partner) (cluster : SimulatedCluster)
    (program : GatewayProgram α) (next : α → GatewayProgram β) :
    cluster.runWith partner (program >>= next) =
      match cluster.runWith partner program with
      | (.ok value, after) => after.runWith partner (next value)
      | (.error e, after) => (.error e, after) := by
  refine (Dialogue.run_exceptT_bind partner program next cluster).trans ?_
  unfold runWith
  cases Dialogue.run (I := gatewayInterface) partner (ExceptT.run program) cluster with
  | mk result after => cases result <;> rfl

theorem momentsWith_bind (partner : Partner) (cluster : SimulatedCluster)
    (program : GatewayProgram α) (next : α → GatewayProgram β) :
    cluster.momentsWith partner (program >>= next) = cluster.momentsWith partner program ++
      match cluster.runWith partner program with
      | (.ok value, after) => after.momentsWith partner (next value)
      | (.error _, _) => [] := by
  refine (Dialogue.moments_exceptT_bind partner program next cluster).trans ?_
  unfold momentsWith runWith
  cases Dialogue.run (I := gatewayInterface) partner (ExceptT.run program) cluster with
  | mk result after => cases result <;> rfl

/-- The moments of a first program, and of a second one if the first does not fail. -/
theorem mem_momentsWith_bind :
    moment ∈ cluster.momentsWith partner (program >>= next) ↔
      moment ∈ cluster.momentsWith partner program ∨
        ∃ value after, cluster.runWith partner program = (.ok value, after) ∧
          moment ∈ after.momentsWith partner (next value) := by
  rw [momentsWith_bind, List.mem_append]
  refine or_congr .rfl ?_
  cases cluster.runWith partner program with
  | mk result after => cases result <;> simp [and_assoc]

theorem call_of_mem_moments {p : GatewayCall → Prop} (h : program.AsksOnly p)
    (hmem : moment ∈ cluster.momentsWith partner program) : p moment.call :=
  Dialogue.call_of_mem_moments h hmem

/-! ## Runs under a plan -/

/-- A successful run of two programs in turn is a successful run of each. -/
theorem exists_of_runUnder_bind {result : β} {after : SimulatedCluster}
    (h : cluster.runUnder plan (program >>= next) = (.ok result, after)) :
    ∃ value middle, cluster.runUnder plan program = (.ok value, middle) ∧
      middle.runUnder plan (next value) = (.ok result, after) := by
  rw [runUnder_bind] at h
  cases hrun : cluster.runUnder plan program with
  | mk found middle =>
      rw [hrun] at h
      cases found with
      | ok value => exact ⟨value, middle, rfl, h⟩
      | error e => cases congrArg Prod.fst h

/-- The calls of a run of a gateway program under a plan. -/
def callsUnder (plan : FaultPlan) (program : GatewayProgram α) (cluster : SimulatedCluster) :
    List GatewayCall :=
  (cluster.momentsWith (answerUnder plan) program).map (·.call)

/-- The calls of a run are those that are put on record. -/
theorem calls_runUnder (plan : FaultPlan) (cluster : SimulatedCluster)
    (program : GatewayProgram α) :
    (cluster.runUnder plan program).2.calls =
      (cluster.callsUnder plan program).reverse ++ cluster.calls := by
  have hanswer (call : GatewayCall) (cluster : SimulatedCluster) :
      (answerUnder plan call cluster).2.calls = call :: cluster.calls := by
    unfold answerUnder
    split
    · rfl
    · cases call <;> rfl
  have hreverse (call : GatewayCall) (made past : List GatewayCall) :
      (call :: made).reverse ++ past = made.reverse ++ call :: past := by
    rw [List.reverse_cons, List.append_assoc]
    rfl
  unfold runUnder callsUnder momentsWith
  induction ExceptT.run program generalizing cluster with
  | done value => rfl
  | ask call next ih =>
      have hrest := ih (answerUnder plan call cluster).1 (answerUnder plan call cluster).2
      rw [hanswer call cluster] at hrest
      exact hrest.trans (hreverse _ _ _).symm

/-- The calls of a first program that does not fail, and of a second one. -/
theorem callsUnder_bind {value : α} {after : SimulatedCluster}
    (hrun : cluster.runUnder plan program = (.ok value, after)) (next : α → GatewayProgram β) :
    cluster.callsUnder plan (program >>= next) =
      cluster.callsUnder plan program ++ after.callsUnder plan (next value) := by
  rw [callsUnder, momentsWith_bind, runWith_answerUnder, hrun]
  exact List.map_append

/-- A second program that makes no call. -/
theorem callsUnder_bind_of_silent
    (h : ∀ value after, momentsWith (answerUnder plan) (next value) after = []) :
    cluster.callsUnder plan (program >>= next) = cluster.callsUnder plan program := by
  rw [callsUnder, momentsWith_bind]
  cases cluster.runWith (answerUnder plan) program with
  | mk result after =>
      cases result with
      | ok value => simp only [h, List.append_nil, callsUnder]
      | error e => simp only [List.append_nil, callsUnder]

end SimulatedCluster

end FleetOperator
