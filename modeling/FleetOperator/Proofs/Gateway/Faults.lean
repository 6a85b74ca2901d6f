import FleetOperator.Gateway.Simulation
import FleetOperator.Proofs.Dialogue

/-!
# Runs in which calls fail

A collaborator may fail at any call, for a reason of its own. A `FaultPlan`
says which calls do: it is asked at every call, with the calls before it, so
that every pattern of failures is the pattern of some plan. The failures that
are set on a cluster are the plan that looks at the collaborator only
(`run_eq_runUnder`).

What a program can do to the state of a cluster depends on its calls. One
that makes no write leaves the objects alone under every plan
(`undisturbed_runUnder`), whatever it does with the answers.
-/

namespace FleetOperator

/-- Which calls fail, given the calls before them, the latest first. -/
abbrev FaultPlan := List GatewayCall → GatewayCall → Option OperatorError

namespace FaultPlan

/-- The plan by which no call fails. -/
def clear : FaultPlan := fun _ _ => none

/-- The question for the version of the cluster never fails. -/
def AnswersVersion (plan : FaultPlan) : Prop := ∀ calls, plan calls .serverVersion = none

/-- No call fails but the question for the version of the cluster. -/
def SparesOthers (plan : FaultPlan) : Prop :=
  ∀ calls call, call ≠ .serverVersion → plan calls call = none

/-- The version that a cycle goes by. -/
def seen (plan : FaultPlan) (calls : List GatewayCall) (version : ServerVersion) :
    ServerVersion :=
  if (plan calls .serverVersion).isSome then .unknown else version

theorem seen_eq_of_answersVersion {plan : FaultPlan} (h : plan.AnswersVersion)
    (calls : List GatewayCall) (version : ServerVersion) : plan.seen calls version = version := by
  rw [seen, h calls]
  rfl

theorem answersVersion_clear : clear.AnswersVersion := fun _ => rfl

theorem sparesOthers_clear : clear.SparesOthers := fun _ _ _ => rfl

end FaultPlan

/-- Whether a call changes the objects of a cluster. -/
def GatewayCall.isWrite : GatewayCall → Bool
  | .create _ => true
  | .update _ => true
  | .delete _ => true
  | _ => false

/-- The plan by which no write succeeds. -/
def readOnlyPlan : FaultPlan := fun _ call =>
  if call.isWrite then some (.internal "down" "") else none

namespace SimulatedCluster

variable {α β : Type}

/-- The cluster with a call on record. -/
def recorded (cluster : SimulatedCluster) (call : GatewayCall) : SimulatedCluster :=
  { cluster with calls := call :: cluster.calls }

/-- Puts a call on record and answers it, unless it fails by the plan. -/
def answerUnder (plan : FaultPlan) (call : GatewayCall) (cluster : SimulatedCluster) :
    Except OperatorError call.Result × SimulatedCluster :=
  match plan cluster.calls call with
  | some e => (.error e, cluster.recorded call)
  | none =>
    (.ok ((cluster.recorded call).serve call).1, ((cluster.recorded call).serve call).2)

/-- Runs a program of gateway calls on a cluster under a plan. -/
def runUnder (plan : FaultPlan) (program : GatewayProgram α) (cluster : SimulatedCluster) :
    Except GatewayError α × SimulatedCluster :=
  Dialogue.run (I := gatewayInterface) (answerUnder plan) (ExceptT.run program) cluster

/-! ## The failures set on a cluster -/

/-- The plan of the failures that are set on a cluster. -/
def ownPlan (cluster : SimulatedCluster) : FaultPlan := fun _ call =>
  (cluster.failures.lookup call.target).map (.backendUnavailable call.context ·)

theorem answer_eq_answerUnder (call : GatewayCall) (cluster : SimulatedCluster) :
    answer call cluster = answerUnder cluster.ownPlan call cluster := by
  unfold answer answerUnder ownPlan recorded
  dsimp only
  cases cluster.failures.lookup call.target <;> rfl

theorem ownPlan_answer (call : GatewayCall) (cluster : SimulatedCluster) :
    (answer call cluster).2.ownPlan = cluster.ownPlan := by
  have hfailures : (answer call cluster).2.failures = cluster.failures := by
    unfold answer
    dsimp only
    split
    · rfl
    · cases call <;> rfl
  unfold ownPlan
  rw [hfailures]

/-- The failures set on a cluster are one plan among others. -/
theorem run_eq_runUnder (program : GatewayProgram α) (cluster : SimulatedCluster) :
    cluster.run program = cluster.runUnder cluster.ownPlan program := by
  unfold run runUnder
  induction program.run generalizing cluster with
  | done value => rfl
  | ask call next ih =>
      let goOn (plan : FaultPlan)
          (answered : gatewayInterface.Answer call × SimulatedCluster) :=
        Dialogue.run (I := gatewayInterface) (answerUnder plan) (next answered.1) answered.2
      calc Dialogue.run (I := gatewayInterface) answer (.ask call next) cluster
          = goOn (answer call cluster).2.ownPlan (answer call cluster) := ih _ _
        _ = goOn cluster.ownPlan (answer call cluster) :=
            congrArg (goOn · _) (ownPlan_answer call cluster)
        _ = goOn cluster.ownPlan (answerUnder cluster.ownPlan call cluster) :=
            congrArg (goOn _) (answer_eq_answerUnder call cluster)

/-! ## Runs by the parts of a program -/

theorem runUnder_bind (plan : FaultPlan) (cluster : SimulatedCluster)
    (program : GatewayProgram α) (next : α → GatewayProgram β) :
    cluster.runUnder plan (program >>= next) =
      match cluster.runUnder plan program with
      | (.ok value, after) => after.runUnder plan (next value)
      | (.error e, after) => (.error e, after) := by
  refine (Dialogue.run_exceptT_bind (answerUnder plan) program next cluster).trans ?_
  unfold runUnder
  cases Dialogue.run (I := gatewayInterface) (answerUnder plan) (ExceptT.run program) cluster with
  | mk result after => cases result <;> rfl

@[simp]
theorem runUnder_ofExcept {ε : Type} (plan : FaultPlan) (cluster : SimulatedCluster)
    (wrap : ε → GatewayError) (value : Except ε α) :
    cluster.runUnder plan (GatewayProgram.ofExcept wrap value) =
      (value.mapError wrap, cluster) := rfl

theorem runUnder_ask (plan : FaultPlan) (cluster : SimulatedCluster) (call : GatewayCall) :
    cluster.runUnder plan (GatewayProgram.ask call) =
      match plan cluster.calls call with
      | some e => (.error (.operator e), cluster.recorded call)
      | none =>
        (.ok ((cluster.recorded call).serve call).1, ((cluster.recorded call).serve call).2) := by
  have hrun : cluster.runUnder plan (GatewayProgram.ask call) =
      ((answerUnder plan call cluster).1.mapError .operator,
        (answerUnder plan call cluster).2) := rfl
  rw [hrun, answerUnder]
  cases plan cluster.calls call <;> rfl

/-- A look at an object goes on with the object, or stops. -/
theorem runUnder_get_bind (plan : FaultPlan) (cluster : SimulatedCluster) (ns name : String)
    (next : Option StatefulSet → GatewayProgram α) :
    cluster.runUnder plan (GatewayProgram.ask (.get ns name) >>= next) =
      match plan cluster.calls (.get ns name) with
      | some e => (.error (.operator e), cluster.recorded (.get ns name))
      | none =>
        (cluster.recorded (.get ns name)).runUnder plan
          (next (cluster.objects.get? ⟨ns, name⟩)) := by
  refine (runUnder_bind plan cluster _ _).trans ?_
  rw [runUnder_ask]
  cases plan cluster.calls (.get ns name) <;> rfl

theorem runUnder_askOr (plan : FaultPlan) (cluster : SimulatedCluster) (call : GatewayCall)
    (default : call.Result) :
    cluster.runUnder plan (GatewayProgram.askOr call default) =
      match plan cluster.calls call with
      | some _ => (.ok default, cluster.recorded call)
      | none =>
        (.ok ((cluster.recorded call).serve call).1, ((cluster.recorded call).serve call).2) := by
  have hrun : cluster.runUnder plan (GatewayProgram.askOr call default) =
      (.ok ((answerUnder plan call cluster).1.toOption.getD default),
        (answerUnder plan call cluster).2) := rfl
  rw [hrun, answerUnder]
  cases plan cluster.calls call <;> rfl

/-- The question for the version always has an answer. -/
theorem runUnder_askVersion (plan : FaultPlan) (cluster : SimulatedCluster) :
    cluster.runUnder plan (GatewayProgram.askOr .serverVersion .unknown) =
      (.ok (plan.seen cluster.calls cluster.version), cluster.recorded .serverVersion) := by
  have hrun := runUnder_askOr plan cluster .serverVersion .unknown
  rw [hrun, FaultPlan.seen]
  cases plan cluster.calls .serverVersion <;> rfl

/-! ## Programs without writes -/

/-- Everything but the calls on record is the same. -/
structure SameState (cluster other : SimulatedCluster) : Prop where
  objects : other.objects = cluster.objects
  revision : other.revision = cluster.revision
  secrets : other.secrets = cluster.secrets
  version : other.version = cluster.version

/-- Nothing but calls without a write came in between. -/
structure Undisturbed (cluster other : SimulatedCluster) : Prop
    extends SameState cluster other where
  issued : ∃ issued, other.calls = issued ++ cluster.calls ∧
    ∀ call ∈ issued, call.isWrite = false

theorem SameState.refl (cluster : SimulatedCluster) : SameState cluster cluster :=
  ⟨rfl, rfl, rfl, rfl⟩

theorem SameState.trans {cluster other third : SimulatedCluster} (h : SameState cluster other)
    (h' : SameState other third) : SameState cluster third where
  objects := h'.objects.trans h.objects
  revision := h'.revision.trans h.revision
  secrets := h'.secrets.trans h.secrets
  version := h'.version.trans h.version

theorem Undisturbed.refl (cluster : SimulatedCluster) : Undisturbed cluster cluster :=
  ⟨.refl cluster, [], rfl, by simp⟩

theorem Undisturbed.trans {cluster other third : SimulatedCluster}
    (h : Undisturbed cluster other) (h' : Undisturbed other third) :
    Undisturbed cluster third := by
  obtain ⟨issued, hcalls, hreads⟩ := h.issued
  obtain ⟨later, hlater, hreads'⟩ := h'.issued
  refine ⟨h.toSameState.trans h'.toSameState, later ++ issued, ?_, ?_⟩
  · rw [hlater, hcalls, List.append_assoc]
  · intro call hmem
    rcases List.mem_append.1 hmem with hmem | hmem
    · exact hreads' call hmem
    · exact hreads call hmem

theorem sameState_recorded (cluster : SimulatedCluster) (call : GatewayCall) :
    SameState cluster (cluster.recorded call) := ⟨rfl, rfl, rfl, rfl⟩

theorem undisturbed_recorded (cluster : SimulatedCluster) {call : GatewayCall}
    (h : call.isWrite = false) : Undisturbed cluster (cluster.recorded call) :=
  ⟨sameState_recorded cluster call, [call], rfl, by simpa using h⟩

theorem undisturbed_answerUnder (plan : FaultPlan) (cluster : SimulatedCluster)
    {call : GatewayCall} (h : call.isWrite = false) :
    Undisturbed cluster (answerUnder plan call cluster).2 := by
  have hrecorded := undisturbed_recorded cluster h
  unfold answerUnder
  split
  · exact hrecorded
  · cases call with
    | create workload => cases h
    | update workload => cases h
    | delete workload => cases h
    | applyProperties | readSecret | serverVersion | get => exact hrecorded

end SimulatedCluster

namespace GatewayProgram

variable {α β : Type} {p : GatewayCall → Prop}

/-- The calls of a gateway program are none but those with a property. -/
def AsksOnly (p : GatewayCall → Prop) (program : GatewayProgram α) : Prop :=
  (ExceptT.run program).AsksOnly p

namespace AsksOnly

theorem pure (value : α) : AsksOnly p (Pure.pure value) := trivial

theorem ofExcept {ε : Type} (wrap : ε → GatewayError) (value : Except ε α) :
    AsksOnly p (GatewayProgram.ofExcept wrap value) := trivial

theorem ask {call : GatewayCall} (h : p call) : AsksOnly p (GatewayProgram.ask call) :=
  ⟨h, fun _ => trivial⟩

theorem askOr {call : GatewayCall} (h : p call) (default : call.Result) :
    AsksOnly p (GatewayProgram.askOr call default) := ⟨h, fun _ => trivial⟩

theorem bind {program : GatewayProgram α} {next : α → GatewayProgram β}
    (h : AsksOnly p program) (hnext : ∀ value, AsksOnly p (next value)) :
    AsksOnly p (program >>= next) := by
  refine Dialogue.AsksOnly.bind h fun result => ?_
  cases result with
  | ok value => exact hnext value
  | error e => trivial

end AsksOnly

/-- A program that makes no write. -/
abbrev ReadsOnly (program : GatewayProgram α) : Prop :=
  program.AsksOnly fun call => call.isWrite = false

end GatewayProgram

/-- A program that makes no write leaves the state of the cluster alone, whatever fails. -/
theorem SimulatedCluster.undisturbed_runUnder {α : Type} {program : GatewayProgram α}
    (h : program.ReadsOnly) (plan : FaultPlan) (cluster : SimulatedCluster) :
    Undisturbed cluster (cluster.runUnder plan program).2 := by
  unfold GatewayProgram.ReadsOnly GatewayProgram.AsksOnly at h
  unfold runUnder
  generalize ExceptT.run program = dialogue at h ⊢
  induction dialogue generalizing cluster with
  | done value => exact .refl cluster
  | ask call next ih =>
      exact (undisturbed_answerUnder plan cluster h.1).trans (ih _ _ (h.2 _))

end FleetOperator
