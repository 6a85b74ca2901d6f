import Mathlib.Logic.Function.Basic
import FleetOperator.Cluster.Store
import FleetOperator.Proofs.Gateway.PropertiesSecret

/-!
# Clients side by side

Several programs of gateway calls run on one cluster, and take turns call by
call. The cluster guards its objects: an object is created only where there
is none, and replaced only under the resource version that it is stored with,
unless the replacement names none. A deletion goes by the key alone, because
that is all that the request for it says (`gatewayCall_delete_eq`).

A call does little to a single place. `PlaceStep` lists what it can do: leave
the place alone, put an object there under the next resource version, or take
away what is there. So stored objects are under their own keys, and a place
that has changed since some moment holds nothing, or an object under a later
version than any of then (`place_after`).
-/

namespace FleetOperator

/-! ## A cluster that guards its objects -/

def GatewayCall.stored? : GatewayCall → Option StatefulSet
  | .create workload => some workload
  | .update workload => some workload
  | _ => none

namespace SimulatedCluster

/-- Whether what is stored lets a call through. -/
def admits (cluster : SimulatedCluster) : GatewayCall → Bool
  | .create workload => (cluster.objects.get? workload.key).isNone
  | .update workload =>
    match cluster.objects.get? workload.key with
    | none => false
    | some live =>
      workload.metadata.resourceVersion.isNone
        || workload.metadata.resourceVersion == live.metadata.resourceVersion
  | _ => true

/-- The cluster after a call that goes through. -/
def served (server : SecretServer) (call : GatewayCall) (cluster : SimulatedCluster) :
    SimulatedCluster :=
  match call.secret? with
  | none => (cluster.serve call).2
  | some secret => (cluster.serve call).2.applying server secret

/-- Answers a call, unless it fails or what is stored does not let it through. -/
def answerGuarded (server : SecretServer) (fault? : Option OperatorError) (call : GatewayCall)
    (cluster : SimulatedCluster) : Except OperatorError call.Result × SimulatedCluster :=
  match fault? with
  | some e => (.error e, cluster)
  | none =>
    if cluster.admits call then (.ok (cluster.serve call).1, cluster.served server call)
    else (.error (.backendUnavailable call.context "conflict"), cluster)

end SimulatedCluster

theorem gatewayCall_delete (workload : StatefulSet) :
    Cluster.gatewayCall (.delete workload) =
      Cluster.named s!"delete statefulset {workload.ns}/{workload.name}"
        (Cluster.delete .statefulSets workload.ns workload.name) := rfl

/-- The request for a deletion does not say which version is meant. -/
theorem gatewayCall_delete_eq {workload other : StatefulSet} (h : workload.key = other.key) :
    Cluster.gatewayCall (.delete workload) = Cluster.gatewayCall (.delete other) := by
  have hns : workload.ns = other.ns := congrArg ObjectKey.ns h
  have hname : workload.name = other.name := congrArg ObjectKey.name h
  have hfirst := gatewayCall_delete workload
  rw [hns, hname] at hfirst
  exact hfirst.trans (gatewayCall_delete other).symm

/-! ## Clients and their turns -/

/-- Programs that run on one cluster. -/
structure Clients (ι α : Type) where
  programs : ι → Dialogue gatewayInterface α
  cluster : SimulatedCluster

/-- A client makes its next call, which may fail. -/
structure Turn (ι : Type) where
  who : ι
  fault? : Option OperatorError

namespace Dialogue

variable {I : Interface} {α : Type}

/-- The call that a program is about to make. -/
def pending? : Dialogue I α → Option I.Call
  | .done _ => none
  | .ask call _ => some call

/-- What a program has come to. -/
def result? : Dialogue I α → Option α
  | .done value => some value
  | .ask _ _ => none

end Dialogue

namespace Clients

open SimulatedCluster

variable {ι α : Type} [DecidableEq ι]

/-- The clients after a turn. -/
def step (server : SecretServer) (clients : Clients ι α) (turn : Turn ι) : Clients ι α :=
  match clients.programs turn.who with
  | .done _ => clients
  | .ask call next =>
    let answered := answerGuarded server turn.fault? call clients.cluster
    ⟨Function.update clients.programs turn.who (next answered.1), answered.2⟩

def after (server : SecretServer) (clients : Clients ι α) (turns : List (Turn ι)) : Clients ι α :=
  turns.foldl (step server) clients

variable {server : SecretServer} {clients : Clients ι α} {turn : Turn ι} {who : ι}

@[simp]
theorem after_nil : clients.after server [] = clients := rfl

theorem after_cons (turns : List (Turn ι)) :
    clients.after server (turn :: turns) = (clients.step server turn).after server turns := rfl

theorem after_append (first second : List (Turn ι)) :
    clients.after server (first ++ second) =
      (clients.after server first).after server second := List.foldl_append

theorem after_concat (turns : List (Turn ι)) (turn : Turn ι) :
    clients.after server (turns ++ [turn]) = (clients.after server turns).step server turn :=
  after_append turns [turn]

theorem step_of_done {value : α} (h : clients.programs turn.who = .done value) :
    clients.step server turn = clients := by
  rw [step, h]

theorem step_of_ask {call : GatewayCall}
    {next : Except OperatorError call.Result → Dialogue gatewayInterface α}
    (h : clients.programs turn.who = .ask call next) :
    clients.step server turn =
      ⟨Function.update clients.programs turn.who
        (next (answerGuarded server turn.fault? call clients.cluster).1),
        (answerGuarded server turn.fault? call clients.cluster).2⟩ := by
  rw [step, h]

theorem cluster_step {call : GatewayCall}
    {next : Except OperatorError call.Result → Dialogue gatewayInterface α}
    (h : clients.programs turn.who = .ask call next) :
    (clients.step server turn).cluster =
      (answerGuarded server turn.fault? call clients.cluster).2 := by
  rw [step_of_ask h]

theorem programs_step_self {call : GatewayCall}
    {next : Except OperatorError call.Result → Dialogue gatewayInterface α}
    (h : clients.programs turn.who = .ask call next) :
    (clients.step server turn).programs turn.who =
      next (answerGuarded server turn.fault? call clients.cluster).1 := by
  rw [step_of_ask h]
  exact Function.update_self _ _ _

theorem programs_step_of_ne (h : who ≠ turn.who) :
    (clients.step server turn).programs who = clients.programs who := by
  cases hprogram : clients.programs turn.who with
  | done value => rw [step_of_done hprogram]
  | ask call next =>
      rw [step_of_ask hprogram]
      exact Function.update_of_ne h _ _

/-- What every call keeps, every turn keeps. -/
theorem step_keeps {P : SimulatedCluster → Prop} (h : P clients.cluster)
    (hkeep : ∀ call, (clients.programs turn.who).pending? = some call →
      P (answerGuarded server turn.fault? call clients.cluster).2) :
    P (clients.step server turn).cluster := by
  cases hprogram : clients.programs turn.who with
  | done value =>
      rw [step_of_done hprogram]
      exact h
  | ask call next =>
      rw [step_of_ask hprogram]
      exact hkeep call (by rw [hprogram]; rfl)

end Clients

/-! ## What a call does to a place -/

/-- What a call can do to a place in a cluster. -/
inductive PlaceStep (call : GatewayCall) (before after : SimulatedCluster) (key : ObjectKey) : Prop
  | kept (hslot : after.objects.get? key = before.objects.get? key)
  | written {workload : StatefulSet} (hcall : call.stored? = some workload)
      (hkey : workload.key = key)
      (hslot : after.objects.get? key = some (workload.atRevision (before.revision + 1)))
      (hrevision : after.revision = before.revision + 1)
  | removed {workload : StatefulSet} (hcall : call = .delete workload) (hkey : workload.key = key)
      (hslot : after.objects.get? key = none)

namespace SimulatedCluster

variable {server : SecretServer} {fault? : Option OperatorError} {call : GatewayCall}
  {cluster : SimulatedCluster}

/-- What a replacement goes through over. -/
theorem exists_of_admits_update {workload : StatefulSet}
    (h : cluster.admits (.update workload) = true) :
    ∃ live, cluster.objects.get? workload.key = some live ∧
      (workload.metadata.resourceVersion = none ∨
        workload.metadata.resourceVersion = live.metadata.resourceVersion) := by
  unfold admits at h
  cases hlive : cluster.objects.get? workload.key with
  | none => simp [hlive] at h
  | some live =>
      refine ⟨live, rfl, ?_⟩
      simpa [hlive] using h

theorem objects_served : (cluster.served server call).objects = (cluster.serve call).2.objects := by
  unfold served
  split <;> rfl

theorem revision_served :
    (cluster.served server call).revision = (cluster.serve call).2.revision := by
  unfold served
  split <;> rfl

theorem version_served : (cluster.served server call).version = cluster.version := by
  unfold served
  split <;> cases call <;> rfl

/-- An answer is a failure and nothing has happened, or the call has gone through. -/
theorem answerGuarded_cases (server : SecretServer) (fault? : Option OperatorError)
    (call : GatewayCall) (cluster : SimulatedCluster) :
    (∃ e, answerGuarded server fault? call cluster = (.error e, cluster)) ∨
      cluster.admits call = true ∧ answerGuarded server fault? call cluster =
        (.ok (cluster.serve call).1, cluster.served server call) := by
  unfold answerGuarded
  cases fault? with
  | some e => exact .inl ⟨e, rfl⟩
  | none =>
      simp only
      split
      · next hadmits => exact .inr ⟨hadmits, rfl⟩
      · exact .inl ⟨_, rfl⟩

theorem answerGuarded_of_admits (h : cluster.admits call = true) :
    answerGuarded server none call cluster =
      (.ok (cluster.serve call).1, cluster.served server call) := if_pos h

theorem placeStep_write (cluster : SimulatedCluster) {workload : StatefulSet}
    (hcall : call.stored? = some workload) (key : ObjectKey) :
    PlaceStep call cluster (cluster.write workload) key := by
  by_cases hkey : key = workload.key
  · exact .written hcall hkey.symm ((get?_write _ _ _).trans (if_pos hkey)) rfl
  · exact .kept ((get?_write _ _ _).trans (if_neg hkey))

theorem placeStep_serve (call : GatewayCall) (cluster : SimulatedCluster) (key : ObjectKey) :
    PlaceStep call cluster (cluster.serve call).2 key := by
  cases call with
  | create workload => exact placeStep_write cluster rfl key
  | update workload => exact placeStep_write cluster rfl key
  | delete workload =>
      by_cases hkey : key = workload.key
      · exact .removed rfl hkey.symm ((get?_remove _ _ _).trans (if_pos hkey))
      · exact .kept ((get?_remove _ _ _).trans (if_neg hkey))
  | applyProperties | readSecret | serverVersion | get => exact .kept rfl

theorem PlaceStep.of_objects_eq {before after other : SimulatedCluster} {key : ObjectKey}
    (h : PlaceStep call before after key) (hobjects : other.objects = after.objects)
    (hrevision : other.revision = after.revision) : PlaceStep call before other key := by
  cases h with
  | kept hslot => exact .kept (by rw [hobjects, hslot])
  | written hcall hkey hslot hnext =>
      exact .written hcall hkey (by rw [hobjects, hslot]) (hrevision.trans hnext)
  | removed hcall hkey hslot => exact .removed hcall hkey (by rw [hobjects, hslot])

theorem placeStep_answerGuarded (server : SecretServer) (fault? : Option OperatorError)
    (call : GatewayCall) (cluster : SimulatedCluster) (key : ObjectKey) :
    PlaceStep call cluster (answerGuarded server fault? call cluster).2 key := by
  rcases answerGuarded_cases server fault? call cluster with ⟨e, hanswer⟩ | ⟨-, hanswer⟩
  · rw [hanswer]
    exact .kept rfl
  · rw [hanswer]
    exact PlaceStep.of_objects_eq (placeStep_serve call cluster key) objects_served
      revision_served

theorem revision_le_answerGuarded (server : SecretServer) (fault? : Option OperatorError)
    (call : GatewayCall) (cluster : SimulatedCluster) :
    cluster.revision ≤ (answerGuarded server fault? call cluster).2.revision := by
  rcases answerGuarded_cases server fault? call cluster with ⟨e, hanswer⟩ | ⟨-, hanswer⟩
  · exact Nat.le_of_eq (congrArg (·.2.revision) hanswer).symm
  · rw [hanswer, revision_served]
    cases call with
    | create | update => exact Nat.le_succ _
    | applyProperties | readSecret | serverVersion | get | delete => exact Nat.le_refl _

theorem keyed_answerGuarded (h : cluster.Keyed) (server : SecretServer)
    (fault? : Option OperatorError) (call : GatewayCall) :
    (answerGuarded server fault? call cluster).2.Keyed := by
  intro key live hlive
  cases placeStep_answerGuarded server fault? call cluster key with
  | kept hslot => exact h key live (hslot ▸ hlive)
  | written hcall hkey hslot hrevision =>
      rw [hslot] at hlive
      obtain rfl := Option.some.inj hlive
      exact hkey
  | removed hcall hkey hslot =>
      rw [hslot] at hlive
      cases hlive

end SimulatedCluster

end FleetOperator
