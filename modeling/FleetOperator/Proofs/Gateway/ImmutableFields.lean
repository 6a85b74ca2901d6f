import FleetOperator.Proofs.Gateway.Clients
import FleetOperator.Proofs.Gateway.LookFirst
import FleetOperator.Proofs.Gateway.Moments
import FleetOperator.Proofs.Gateway.VersionProbe

/-!
# Fields that an update must not change

Of a stateful set that is there, the API server lets no update change the name
and the namespace, the selector and the way in which pods are managed. A cycle
compares nothing of that but the labels. That this is enough is an invariant
of everything that was ever written (`Uniform`): an object selects its pods by
its own labels, and there is one way in which pods are managed.

What answers the calls need not be the cluster in memory. It may fail any of
them, before or after carrying it out, and say of secrets and of the version
what it likes; it is `Faithful` if it shows the objects as they are and does
nothing to them but what it is told. Against such a partner a program
`Preserves` the invariant if it is there at every moment and afterwards, and
if an update carries the fields of the object that it replaces. Programs that
do so can be put together (`Preserves.bind`), those that make no writes do so
anyway (`Preserves.of_readsOnly`), and what a cycle does about an object that
it has looked at is `preserves_settle`. All this is about any gateway of any
fleet, so nothing depends on which fleets and registries have names in common.
-/

namespace FleetOperator

open SimulatedCluster
open GatewayProgram (ask askOr)

/-! ## Objects of the operator -/

namespace StatefulSet

/-- An object that selects its pods by its own labels, which they carry. -/
structure SelectsByLabels (workload : StatefulSet) : Prop where
  selector : workload.spec.selector.matchLabels = workload.metadata.labels
  podLabels : workload.spec.template.metadata.labels = workload.metadata.labels
  podManagement : workload.spec.podManagementPolicy = some "Parallel"

/-- A replacement that differs from the live object in nothing that must stay. -/
structure KeepsImmutable (live replacement : StatefulSet) : Prop where
  name : replacement.name = live.name
  ns : replacement.ns = live.ns
  labels : replacement.metadata.labels = live.metadata.labels
  selector : replacement.spec.selector = live.spec.selector
  podManagement : replacement.spec.podManagementPolicy = live.spec.podManagementPolicy

theorem SelectsByLabels.keepsImmutable {live desired : StatefulSet} (hlive : live.SelectsByLabels)
    (hdesired : desired.SelectsByLabels) (hkey : live.key = desired.key)
    (hlabels : live.metadata.labels = desired.metadata.labels) :
    live.KeepsImmutable (desired.atVersionOf live) where
  name := (congrArg ObjectKey.name hkey).symm
  ns := (congrArg ObjectKey.ns hkey).symm
  labels := hlabels.symm
  selector := by
    have hsame : desired.spec.selector.matchLabels = live.spec.selector.matchLabels := by
      rw [hdesired.selector, hlive.selector, hlabels]
    exact congrArg LabelSelector.mk hsame
  podManagement := hdesired.podManagement.trans hlive.podManagement.symm

end StatefulSet

/-! ## What answers the calls -/

namespace Partner

/-- A partner that shows the objects as they are, and does nothing to them but what it is told. -/
structure Faithful (partner : Partner) : Prop where
  get : ∀ (ns name : String) (cluster : SimulatedCluster) (found : Option StatefulSet),
    (partner (.get ns name) cluster).1 = .ok found → found = cluster.objects.get? ⟨ns, name⟩
  place : ∀ call cluster key, PlaceStep call cluster (partner call cluster).2 key

/-- The partner of which some answers are lost: those calls are carried out, and fail. -/
def losing (partner : Partner) (lost : FaultPlan) : Partner := fun call cluster =>
  match lost cluster.calls call with
  | some e => (.error e, (partner call cluster).2)
  | none => partner call cluster

theorem Faithful.losing {partner : Partner} (h : partner.Faithful) (lost : FaultPlan) :
    (partner.losing lost).Faithful where
  get ns name cluster found hanswer := by
    unfold Partner.losing at hanswer
    split at hanswer
    · cases hanswer
    · exact h.get ns name cluster found hanswer
  place call cluster key := by
    unfold Partner.losing
    split <;> exact h.place call cluster key

theorem faithful_answerUnder (plan : FaultPlan) : Faithful (answerUnder plan) where
  get ns name cluster found hanswer := by
    unfold answerUnder at hanswer
    split at hanswer
    · cases hanswer
    · exact (Except.ok.inj hanswer).symm
  place call cluster key := by
    unfold answerUnder
    split
    · exact .kept rfl
    · cases placeStep_serve call (cluster.recorded call) key with
      | kept hslot => exact .kept hslot
      | written hcall hkey hslot hrevision => exact .written hcall hkey hslot hrevision
      | removed hcall hkey hslot => exact .removed hcall hkey hslot

/-- A cluster that guards its objects against changes that it does not admit. -/
theorem faithful_answerGuarded (server : SecretServer) (fault? : Option OperatorError) :
    Faithful (answerGuarded server fault?) where
  get ns name cluster found hanswer := by
    rcases answerGuarded_cases server fault? (.get ns name) cluster with ⟨e, hcase⟩ | ⟨-, hcase⟩
    · rw [hcase] at hanswer
      cases hanswer
    · rw [hcase] at hanswer
      exact (Except.ok.inj hanswer).symm
  place call cluster key := placeStep_answerGuarded server fault? call cluster key

end Partner

/-! ## Programs that preserve the invariant -/

/-- An object of the operator's, under its own key. -/
def Uniform (key : ObjectKey) (live : StatefulSet) : Prop := live.key = key ∧ live.SelectsByLabels

/-- A moment at which all objects are the operator's, and at which an update keeps what must stay
of the object that it finds. -/
structure Sound (moment : GatewayMoment) : Prop where
  stores : moment.state.Stores Uniform
  update : ∀ workload, moment.call = .update workload → ∃ live,
    moment.state.objects.get? workload.key = some live ∧ live.KeepsImmutable workload

/-- A run that finds the objects to be the operator's at every moment, and leaves them so. -/
def Preserves {α : Type} (partner : Partner) (program : GatewayProgram α)
    (cluster : SimulatedCluster) : Prop :=
  (cluster.runWith partner program).2.Stores Uniform ∧
    ∀ moment ∈ cluster.momentsWith partner program, Sound moment

section

variable {α β : Type} {partner : Partner} {cluster : SimulatedCluster} {call : GatewayCall}
  {fleet : Fleet} {gateway : GatewayDescriptor} {desired : StatefulSet}

/-- What is stored selects by its labels, if what a call is to store does. -/
theorem Partner.Faithful.stores_uniform (hpartner : partner.Faithful)
    (h : cluster.Stores Uniform)
    (hcall : ∀ workload, call.stored? = some workload → workload.SelectsByLabels) :
    (partner call cluster).2.Stores Uniform := by
  intro key live hlive
  cases hpartner.place call cluster key with
  | kept hslot => exact h key live (hslot ▸ hlive)
  | @written workload hstored hkey hslot hrevision =>
      rw [hslot] at hlive
      obtain rfl := Option.some.inj hlive
      obtain ⟨hselector, hpodLabels, hpodManagement⟩ := hcall workload hstored
      exact ⟨hkey, hselector, hpodLabels, hpodManagement⟩
  | removed hdelete hkey hslot =>
      rw [hslot] at hlive
      cases hlive

theorem Partner.Faithful.get?_after_get (hpartner : partner.Faithful) (ns name : String)
    (key : ObjectKey) : (partner (.get ns name) cluster).2.objects.get? key =
      cluster.objects.get? key := by
  cases hpartner.place (.get ns name) cluster key with
  | kept hslot => exact hslot
  | written hstored hkey hslot hrevision => cases hstored
  | removed hdelete hkey hslot => cases hdelete

theorem sound_of_read (h : cluster.Stores Uniform) (hread : call.isWrite = false) :
    Sound ⟨cluster, call⟩ := by
  refine ⟨h, fun workload hupdate => ?_⟩
  obtain rfl : call = .update workload := hupdate
  cases hread

namespace Preserves

theorem pure (h : cluster.Stores Uniform) (value : α) :
    Preserves partner (Pure.pure value) cluster := ⟨h, fun _ hmem => by cases hmem⟩

theorem ofExcept {ε : Type} (h : cluster.Stores Uniform) (wrap : ε → GatewayError)
    (value : Except ε α) : Preserves partner (GatewayProgram.ofExcept wrap value) cluster :=
  ⟨h, fun _ hmem => by cases hmem⟩

theorem bind {program : GatewayProgram α} {next : α → GatewayProgram β}
    (h : Preserves partner program cluster)
    (hnext : ∀ value after, cluster.runWith partner program = (.ok value, after) →
      after.Stores Uniform → Preserves partner (next value) after) :
    Preserves partner (program >>= next) cluster := by
  obtain ⟨hafter, hmoments⟩ := h
  refine ⟨?_, fun moment hmem => ?_⟩
  · rw [runWith_bind]
    cases hrun : cluster.runWith partner program with
    | mk result after =>
        rw [hrun] at hafter
        cases result with
        | ok value => exact (hnext value after hrun hafter).1
        | error e => exact hafter
  · rcases mem_momentsWith_bind.1 hmem with hmem | ⟨value, after, hrun, hmem⟩
    · exact hmoments moment hmem
    · rw [hrun] at hafter
      exact (hnext value after hrun hafter).2 moment hmem

theorem mapM {γ : Type} {f : γ → GatewayProgram α} {items : List γ}
    (hstep : ∀ item cluster, cluster.Stores Uniform → Preserves partner (f item) cluster)
    (h : cluster.Stores Uniform) : Preserves partner (items.mapM f) cluster := by
  induction items generalizing cluster with
  | nil => exact .pure h []
  | cons item rest ih =>
      rw [List.mapM_cons]
      refine .bind (hstep item cluster h) fun _ _ _ hmiddle => ?_
      exact .bind (ih hmiddle) fun _ _ _ hlast => .pure hlast _

/-- A program that makes no writes. -/
theorem of_readsOnly {program : GatewayProgram α} (hpartner : partner.Faithful)
    (hreads : program.ReadsOnly) (h : cluster.Stores Uniform) :
    Preserves partner program cluster := by
  unfold GatewayProgram.ReadsOnly GatewayProgram.AsksOnly at hreads
  unfold Preserves runWith momentsWith
  -- over the calls: a read stores nothing, so what it leaves is as uniform as what it finds
  generalize ExceptT.run program = dialogue at hreads ⊢
  induction dialogue generalizing cluster with
  | done value => exact ⟨h, fun _ hmem => by cases hmem⟩
  | ask call next ih =>
      have hafter : (partner call cluster).2.Stores Uniform := by
        refine hpartner.stores_uniform h fun workload hstored => ?_
        have hread := hreads.1
        cases call with
        | create | update => cases hread
        | applyProperties | readSecret | serverVersion | get | delete => cases hstored
      obtain ⟨hlast, hmoments⟩ := ih (partner call cluster).1 hafter (hreads.2 _)
      exact ⟨hlast, List.forall_mem_cons.2 ⟨sound_of_read h hreads.1, hmoments⟩⟩

/-- A last call, whether it fails or gives the outcome. -/
theorem ask_pure (hpartner : partner.Faithful) (hsound : Sound ⟨cluster, call⟩)
    (hstored : ∀ workload, call.stored? = some workload → workload.SelectsByLabels)
    (outcome : Outcome) : Preserves partner (ask call >>= fun _ => Pure.pure outcome) cluster := by
  have hask : Preserves partner (ask call) cluster :=
    ⟨hpartner.stores_uniform hsound.stores hstored, fun _ hmem => by
      obtain rfl := List.mem_singleton.1 hmem
      exact hsound⟩
  exact hask.bind fun _ _ _ hafter => .pure hafter _

/-- A look at an object, after which the object is still as it was seen. -/
theorem get_bind {ns name : String} {next : Option StatefulSet → GatewayProgram α}
    (hpartner : partner.Faithful) (h : cluster.Stores Uniform)
    (hnext : ∀ after : SimulatedCluster, after.Stores Uniform →
      Preserves partner (next (after.objects.get? ⟨ns, name⟩)) after) :
    Preserves partner (ask (.get ns name) >>= next) cluster := by
  refine .bind (.of_readsOnly hpartner (.ask rfl) h) fun found after hrun hafter => ?_
  have hanswer : ((partner (.get ns name) cluster).1.mapError GatewayError.operator,
      (partner (.get ns name) cluster).2) = (.ok found, after) := hrun
  obtain ⟨hfound, rfl⟩ := Prod.mk.inj hanswer
  cases hseen : (partner (.get ns name) cluster).1 with
  | error e =>
      rw [hseen] at hfound
      cases hfound
  | ok seen =>
      rw [hseen] at hfound
      obtain rfl := Except.ok.inj hfound
      rw [hpartner.get ns name cluster seen hseen, ← hpartner.get?_after_get ns name ⟨ns, name⟩]
      exact hnext _ hafter

end Preserves

/-! ## Cycles -/

theorem preserves_settle (hpartner : partner.Faithful) (h : cluster.Stores Uniform)
    (hdesired : desired.SelectsByLabels) :
    Preserves partner (settle desired (cluster.objects.get? desired.key)) cluster := by
  cases hlive : cluster.objects.get? desired.key with
  | none =>
      refine .ask_pure hpartner ⟨h, fun _ hupdate => by cases hupdate⟩ ?_ _
      rintro _ hstored
      obtain rfl := Option.some.inj hstored
      exact hdesired
  | some live =>
      obtain ⟨hkey, hselects⟩ := h _ _ hlive
      simp only [settle]
      split
      · exact .ask_pure hpartner ⟨h, fun _ hupdate => by cases hupdate⟩
          (fun _ hstored => by cases hstored) _
      · next hlabels =>
          split
          -- only the labels were compared; that the selectors agree is what is stored
          · refine .ask_pure hpartner ⟨h, fun workload hupdate => ⟨live, ?_, ?_⟩⟩ ?_ _
            · obtain rfl := GatewayCall.update.inj hupdate
              exact hlive
            · obtain rfl := GatewayCall.update.inj hupdate
              exact hselects.keepsImmutable hdesired hkey (Decidable.of_not_not hlabels)
            · rintro _ hstored
              obtain rfl := Option.some.inj hstored
              exact ⟨hdesired.selector, hdesired.podLabels, hdesired.podManagement⟩
          · exact .pure h _

/-- What is built without adjustments selects by its labels. -/
theorem selectsByLabels_desired (base : WorkloadMeta) (gateway : GatewayDescriptor)
    (hash : String) (version : ServerVersion) (owner : OwnerReference) :
    ((StatefulSet.desired base gateway hash version []).ownedBy owner).SelectsByLabels :=
  ⟨rfl, rfl, rfl⟩

theorem preserves_convergeGateway (hpartner : partner.Faithful) (h : cluster.Stores Uniform) :
    Preserves partner (convergeGateway [] fleet gateway) cluster := by
  rw [convergeGateway_steps]
  refine .bind (.ofExcept h _ _) fun base _ _ h => ?_
  refine .bind (.of_readsOnly hpartner (readsOnly_applyCustomProperties _ _ _) h) fun _ _ _ h => ?_
  refine .bind (.of_readsOnly hpartner (asksOnly_hashCustomProperties (fun _ _ => rfl) _ _) h)
    fun hash _ _ h => ?_
  have hversion : (askOr .serverVersion .unknown).ReadsOnly := .askOr (by rfl) _
  refine .bind (.of_readsOnly hpartner hversion h) fun (version : ServerVersion) _ _ h => ?_
  refine .bind (.ofExcept h _ _) fun owner _ _ h => ?_
  exact .get_bind hpartner h fun after h =>
    preserves_settle hpartner h (selectsByLabels_desired base gateway hash version owner)

theorem preserves_retireGateway (hpartner : partner.Faithful) (h : cluster.Stores Uniform) :
    Preserves partner (retireGateway fleet gateway) cluster := by
  rw [retireGateway_eq]
  refine .bind (.ofExcept h _ _) fun base _ _ h => .get_bind hpartner h fun after h => ?_
  unfold settleAbsence
  split
  · exact .pure h _
  · split
    · exact .ask_pure hpartner ⟨h, fun _ hupdate => by cases hupdate⟩
        (fun _ hstored => by cases hstored) _
    · exact .pure h _

/-- Where only the operator has written, the cycle of a gateway changes nothing that must stay. -/
theorem preserves_reconcileGateway (hpartner : partner.Faithful) (h : cluster.Stores Uniform) :
    Preserves partner (reconcileGateway [] fleet gateway) cluster := by
  unfold reconcileGateway
  split
  · exact preserves_convergeGateway hpartner h
  · exact preserves_retireGateway hpartner h

theorem preserves_reconcileFleet {registry : TemplateRegistry} {operatorVersion : String}
    (hpartner : partner.Faithful) (h : cluster.Stores Uniform) :
    Preserves partner (reconcileFleet registry operatorVersion [] fleet) cluster := by
  refine .bind (.ofExcept h _ _) fun gateways _ _ h => ?_
  refine .bind (.mapM (fun gateway _ => preserves_reconcileGateway hpartner) h) fun _ _ _ h => ?_
  exact .pure h _

end

/-! ## Cycles one after another -/

/-- What is run: the cycle of one gateway, or that of a fleet. -/
inductive Cycle where
  | ofGateway (fleet : Fleet) (gateway : GatewayDescriptor)
  | ofFleet (registry : TemplateRegistry) (operatorVersion : String) (fleet : Fleet)

/-- The calls of a cycle; what it comes to is left out. -/
def Cycle.program : Cycle → GatewayProgram Unit
  | .ofGateway fleet gateway => do
    let _ ← reconcileGateway [] fleet gateway
    return ()
  | .ofFleet registry operatorVersion fleet => do
    let _ ← reconcileFleet registry operatorVersion [] fleet
    return ()

theorem Cycle.preserves_program {partner : Partner} {cluster : SimulatedCluster} (cycle : Cycle)
    (hpartner : partner.Faithful) (h : cluster.Stores Uniform) :
    Preserves partner cycle.program cluster := by
  cases cycle with
  | ofGateway fleet gateway =>
      exact (preserves_reconcileGateway hpartner h).bind fun _ _ _ h => .pure h ()
  | ofFleet registry operatorVersion fleet =>
      exact (preserves_reconcileFleet hpartner h).bind fun _ _ _ h => .pure h ()

/-- A cycle, and what answers its calls. -/
structure Visit where
  cycle : Cycle
  partner : Partner
  faithful : partner.Faithful

/-- The cluster after visits one after another. -/
def afterVisits : List Visit → SimulatedCluster → SimulatedCluster
  | [], cluster => cluster
  | visit :: rest, cluster =>
    afterVisits rest (cluster.runWith visit.partner visit.cycle.program).2

/-- The moments of visits one after another. -/
def visitMoments : List Visit → SimulatedCluster → List GatewayMoment
  | [], _ => []
  | visit :: rest, cluster => cluster.momentsWith visit.partner visit.cycle.program ++
      visitMoments rest (cluster.runWith visit.partner visit.cycle.program).2

theorem sound_visits (visits : List Visit) {cluster : SimulatedCluster}
    (h : cluster.Stores Uniform) :
    (afterVisits visits cluster).Stores Uniform ∧
      ∀ moment ∈ visitMoments visits cluster, Sound moment := by
  induction visits generalizing cluster with
  | nil => exact ⟨h, fun _ hmem => by cases hmem⟩
  | cons visit rest ih =>
      obtain ⟨hfirst, hmoments⟩ := visit.cycle.preserves_program visit.faithful h
      obtain ⟨hafter, hrest⟩ := ih hfirst
      refine ⟨hafter, fun moment hmem => ?_⟩
      rcases List.mem_append.1 hmem with hmem | hmem
      · exact hmoments moment hmem
      · exact hrest moment hmem

/-- Let cycles without adjustments run one after another from no objects on, for any gateways,
fleets and registries, each against any faithful partner. At every moment every object that is
stored selects its pods by its own labels, which they carry, and every update carries the name,
namespace, labels, selector and pod management of the object that it replaces. -/
theorem updates_keep_immutable_fields {start : SimulatedCluster} (hempty : start.objects = ∅)
    (visits : List Visit) :
    (∀ key live, (afterVisits visits start).objects.get? key = some live →
      live.key = key ∧ live.SelectsByLabels) ∧
    ∀ moment ∈ visitMoments visits start,
      (∀ key live, moment.state.objects.get? key = some live →
        live.key = key ∧ live.SelectsByLabels) ∧
      ∀ workload, moment.call = .update workload → ∃ live,
        moment.state.objects.get? workload.key = some live ∧ live.KeepsImmutable workload := by
  have hstart : start.Stores Uniform := by
    intro key live hlive
    rw [hempty] at hlive
    cases hlive
  obtain ⟨hafter, hmoments⟩ := sound_visits visits hstart
  exact ⟨hafter, fun moment hmem => ⟨(hmoments moment hmem).stores, (hmoments moment hmem).update⟩⟩

/-! ## A cycle that updates -/

theorem exists_update_of_settle {live? : Option StatefulSet} {after : SimulatedCluster}
    {desired : StatefulSet} {plan : FaultPlan} {cluster : SimulatedCluster}
    (h : cluster.runUnder plan (settle desired live?) = (.ok .updated, after)) :
    ∃ moment ∈ cluster.momentsWith (answerUnder plan) (settle desired live?),
      ∃ workload, moment.call = .update workload := by
  have hother {call : GatewayCall} {outcome : Outcome} (hne : outcome ≠ .updated) :
      cluster.runUnder plan (ask call >>= fun _ => pure outcome) ≠ (.ok .updated, after) := by
    intro hrun
    obtain ⟨_, middle, -, hrun⟩ := exists_of_runUnder_bind hrun
    exact hne (Except.ok.inj (congrArg Prod.fst hrun))
  cases live? with
  | none => exact absurd h (hother (by decide))
  | some live =>
      simp only [settle] at h ⊢
      split at h
      · exact absurd h (hother (by decide))
      · split at h
        · next hlabels hdiffers =>
            rw [if_neg hlabels, if_pos hdiffers]
            exact ⟨_, mem_momentsWith_bind.2 (.inl List.mem_cons_self), _, rfl⟩
        · cases congrArg Prod.fst h

/-- A cycle that comes back with an update has made one. -/
theorem exists_update_of_updated {adjustments : List Adjustment} {fleet : Fleet}
    {gateway : GatewayDescriptor} {plan : FaultPlan} {cluster : SimulatedCluster}
    (h : (cluster.runUnder plan (convergeGateway adjustments fleet gateway)).1 = .ok .updated) :
    ∃ moment ∈ cluster.momentsWith (answerUnder plan) (convergeGateway adjustments fleet gateway),
      ∃ workload, moment.call = .update workload := by
  rw [convergeGateway_eq] at h ⊢
  obtain ⟨desired, middle, hbuilt, h⟩ := exists_of_runUnder_bind (Prod.ext h rfl)
  obtain ⟨live?, looked, hlook, h⟩ := exists_of_runUnder_bind h
  obtain ⟨moment, hmem, hupdate⟩ := exists_update_of_settle h
  exact ⟨moment, mem_momentsWith_bind.2 (.inr ⟨desired, middle, hbuilt,
    mem_momentsWith_bind.2 (.inr ⟨live?, looked, hlook, hmem⟩)⟩), hupdate⟩

/-- Two visits to the sample gateway. The first one creates the object, but the answer is lost;
the second one does not learn the version. -/
def sampleVisits : List Visit :=
  let lost : FaultPlan := fun _ call =>
    if call.isWrite then some (.internal "lost" "") else none
  let failed : FaultPlan := probePlan (some (.backendUnavailable "get server version" "refused"))
  [⟨.ofGateway sampleFleet sampleGateway, Partner.losing (answerUnder .clear) lost,
      (Partner.faithful_answerUnder .clear).losing lost⟩,
    ⟨.ofGateway sampleFleet sampleGateway, answerUnder failed,
      Partner.faithful_answerUnder failed⟩]

theorem update_of_sampleVisits :
    ∃ moment ∈ visitMoments sampleVisits (sampleSteady [] ⟨"1", "29"⟩).fresh, ∃ workload live,
      moment.call = .update workload ∧
        moment.state.objects.get? workload.key = some live ∧ live.KeepsImmutable workload := by
  obtain ⟨owner, hdesired, hother⟩ := Steady.exists_desired_sample ⟨"1", "29"⟩
  obtain ⟨-, hupdated⟩ := Steady.restart_of_hash_ne hdesired hother Steady.contentHash_sample_ne
    (.backendUnavailable "get server version" "refused")
  obtain ⟨moment, hmem, workload, hupdate⟩ := exists_update_of_updated hupdated
  have hvisits : moment ∈ visitMoments sampleVisits (sampleSteady [] ⟨"1", "29"⟩).fresh :=
    List.mem_append_right _ (List.mem_append_left _ (mem_momentsWith_bind.2 (.inl hmem)))
  have hempty : (sampleSteady [] ⟨"1", "29"⟩).fresh.objects = ∅ := rfl
  obtain ⟨-, hsound⟩ := updates_keep_immutable_fields hempty sampleVisits
  obtain ⟨live, hlive, hkeeps⟩ := (hsound moment hvisits).2 workload hupdate
  exact ⟨moment, hvisits, workload, live, hupdate, hlive, hkeeps⟩

end FleetOperator
