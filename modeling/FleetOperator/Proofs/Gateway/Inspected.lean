import Mathlib.Data.List.Induction
import FleetOperator.Proofs.Gateway.Clients
import FleetOperator.Proofs.Gateway.LookFirst
import FleetOperator.Proofs.Gateway.Tracking

/-!
# What a cycle replaces and removes

The cycle of a gateway runs next to other clients, which create, replace and
delete whatever they like between any two of its calls. Every write gives an
object a resource version that no object had before, so an object with the
version of an earlier one is that one (`place_after`).

A replacement carries the version of the object that the cycle has looked at,
and the cluster checks it. A deletion carries no version. So what a cycle
replaces is always what it has looked at, and what it removes is that exactly
if the place was left alone since (`writes_hit_what_was_seen`). A foreign
object that has come to the place in between is removed
(`retiring_removes_foreign_object`).
-/

namespace FleetOperator

open SimulatedCluster

/-! ## Resource versions -/

/-- An object that was written after some number of writes. -/
def StatefulSet.NewerThan (live : StatefulSet) (revision : Nat) : Prop :=
  ∃ n, revision < n ∧ live.metadata.resourceVersion = some (toString n)

/-- Every stored object is under a resource version that the cluster has given out. -/
def SimulatedCluster.Versioned (cluster : SimulatedCluster) : Prop :=
  cluster.Stores fun _ live =>
    ∃ n, n ≤ cluster.revision ∧ live.metadata.resourceVersion = some (toString n)

theorem StatefulSet.NewerThan.mono {live : StatefulSet} {m n : Nat} (h : live.NewerThan n)
    (hle : m ≤ n) : live.NewerThan m := by
  obtain ⟨k, hlt, hversion⟩ := h
  exact ⟨k, Nat.lt_of_le_of_lt hle hlt, hversion⟩

/-- What is stored is not newer than the cluster. -/
theorem SimulatedCluster.Versioned.not_newerThan {cluster : SimulatedCluster}
    (h : cluster.Versioned) {key : ObjectKey} {live other : StatefulSet}
    (hlive : cluster.objects.get? key = some live)
    (hsame : other.metadata.resourceVersion = live.metadata.resourceVersion) :
    ¬ other.NewerThan cluster.revision := by
  rintro ⟨n, hlt, hnewer⟩
  obtain ⟨m, hle, hversion⟩ := h key live hlive
  rw [hsame, hversion] at hnewer
  have heq := toString_injective (Option.some.inj hnewer)
  omega

theorem versioned_answerGuarded {cluster : SimulatedCluster} (h : cluster.Versioned)
    (server : SecretServer) (fault? : Option OperatorError) (call : GatewayCall) :
    (answerGuarded server fault? call cluster).2.Versioned := by
  intro key live hlive
  cases placeStep_answerGuarded server fault? call cluster key with
  | kept hslot =>
      obtain ⟨n, hle, hversion⟩ := h key live (hslot ▸ hlive)
      exact ⟨n, Nat.le_trans hle (revision_le_answerGuarded server fault? call cluster), hversion⟩
  | written hcall hkey hslot hrevision =>
      rw [hslot] at hlive
      obtain rfl := Option.some.inj hlive
      exact ⟨_, Nat.le_of_eq hrevision.symm, rfl⟩
  | removed hcall hkey hslot =>
      rw [hslot] at hlive
      cases hlive

namespace Clients

variable {ι α : Type} [DecidableEq ι] {server : SecretServer} {clients : Clients ι α} {who : ι}

theorem keyed_step (h : clients.cluster.Keyed) (turn : Turn ι) :
    (clients.step server turn).cluster.Keyed :=
  step_keeps h fun _ _ => keyed_answerGuarded h _ _ _

theorem keyed_after (h : clients.cluster.Keyed) (turns : List (Turn ι)) :
    (clients.after server turns).cluster.Keyed := by
  induction turns generalizing clients with
  | nil => exact h
  | cons turn rest ih => exact ih (keyed_step h turn)

theorem versioned_after (h : clients.cluster.Versioned) (turns : List (Turn ι)) :
    (clients.after server turns).cluster.Versioned := by
  induction turns generalizing clients with
  | nil => exact h
  | cons turn rest ih =>
      exact ih (step_keeps h fun _ _ => versioned_answerGuarded h _ _ _)

theorem revision_le_step (turn : Turn ι) :
    clients.cluster.revision ≤ (clients.step server turn).cluster.revision :=
  step_keeps (P := fun cluster => clients.cluster.revision ≤ cluster.revision) (Nat.le_refl _)
    fun _ _ => revision_le_answerGuarded _ _ _ _

theorem revision_le_after (turns : List (Turn ι)) :
    clients.cluster.revision ≤ (clients.after server turns).cluster.revision := by
  induction turns generalizing clients with
  | nil => exact Nat.le_refl _
  | cons turn rest ih => exact Nat.le_trans (revision_le_step turn) ih

/-- A place is as it was, or what is there is newer. -/
def Fresh (key : ObjectKey) (before after : SimulatedCluster) : Prop :=
  after.objects.get? key = before.objects.get? key ∨
    ∀ live, after.objects.get? key = some live → live.NewerThan before.revision

theorem place_step (turn : Turn ι) (key : ObjectKey) :
    Fresh key clients.cluster (clients.step server turn).cluster := by
  refine step_keeps (P := Fresh key clients.cluster) (.inl rfl) fun call _ => ?_
  cases placeStep_answerGuarded server turn.fault? call clients.cluster key with
  | kept hslot => exact .inl hslot
  | written hcall hkey hslot hrevision =>
      refine .inr fun live hlive => ?_
      rw [hslot] at hlive
      obtain rfl := Option.some.inj hlive
      exact ⟨_, Nat.lt_succ_self _, rfl⟩
  | removed hcall hkey hslot =>
      refine .inr fun live hlive => ?_
      rw [hslot] at hlive
      cases hlive

theorem place_after (turns : List (Turn ι)) (key : ObjectKey) :
    Fresh key clients.cluster (clients.after server turns).cluster := by
  induction turns generalizing clients with
  | nil => exact .inl rfl
  | cons turn rest ih =>
      have hstep : Fresh key clients.cluster (clients.step server turn).cluster :=
        place_step turn key
      have hrest : Fresh key (clients.step server turn).cluster
          ((clients.step server turn).after server rest).cluster := ih
      have hle : clients.cluster.revision ≤ (clients.step server turn).cluster.revision :=
        revision_le_step turn
      rcases hrest with hsame | hnewer
      · rw [Fresh, after_cons, hsame]
        exact hstep
      · exact .inr fun live hlive => (hnewer live hlive).mono hle

/-! ## What a client has seen -/

/-- A client has made a look, at the given point of some turns, and saw what was there. -/
structure Saw (server : SecretServer) (start : Clients ι α) (turns : List (Turn ι)) (who : ι)
    (look : Look) (earlier between : List (Turn ι)) : Prop where
  turns_eq : turns = earlier ++ ⟨who, none⟩ :: between
  pending : ((start.after server earlier).programs who).pending? =
    some (.get look.key.ns look.key.name)
  found : (start.after server earlier).cluster.objects.get? look.key = look.found

theorem Saw.concat {start : Clients ι α} {turns : List (Turn ι)} {look : Look}
    {earlier between : List (Turn ι)} (h : Saw server start turns who look earlier between)
    (turn : Turn ι) :
    Saw server start (turns ++ [turn]) who look earlier (between ++ [turn]) :=
  ⟨by rw [h.turns_eq, List.append_assoc, List.cons_append], h.pending, h.found⟩

theorem sound_answerGuarded {cluster : SimulatedCluster} (h : cluster.Keyed)
    (server : SecretServer) (fault? : Option OperatorError) (call : GatewayCall) :
    call.Sound (answerGuarded server fault? call cluster).1 := by
  cases call with
  | get ns name =>
      intro live hlive
      rcases answerGuarded_cases server fault? (.get ns name) cluster with
        ⟨e, hanswer⟩ | ⟨-, hanswer⟩
      · rw [hanswer] at hlive
        cases hlive
      · rw [hanswer] at hlive
        exact h _ _ (Except.ok.inj hlive)
  | applyProperties | readSecret | serverVersion | create | update | delete => trivial

/-- What was seen last after an answer was seen before, or is what the answer shows. -/
theorem lookAfter_answerGuarded {cluster : SimulatedCluster} {fault? : Option OperatorError}
    {call : GatewayCall} {look? : Option Look} {look : Look}
    (h : call.lookAfter look? (answerGuarded server fault? call cluster).1 = some look) :
    look? = some look ∨
      fault? = none ∧ call = .get look.key.ns look.key.name ∧
        cluster.objects.get? look.key = look.found := by
  cases call with
  | get ns name =>
      cases fault? with
      | some e => exact .inl h
      | none =>
          obtain rfl := Option.some.inj h
          exact .inr ⟨rfl, rfl, rfl⟩
  | create | update | delete => cases h
  | applyProperties | readSecret | serverVersion => exact .inl h

/-- A client that looks first has made its last look at some point of the turns. -/
theorem exists_look (server : SecretServer) {start : Clients ι α} {p : GatewayCall → Prop}
    (hlooks : (start.programs who).LooksFirst p none) (hkeyed : start.cluster.Keyed)
    (turns : List (Turn ι)) :
    ∃ look?, ((start.after server turns).programs who).LooksFirst p look? ∧
      ∀ look, look? = some look → ∃ earlier between,
        Saw server start turns who look earlier between := by
  induction turns using List.reverseRecOn with
  | nil => exact ⟨none, hlooks, by simp⟩
  | append_singleton turns turn ih =>
      obtain ⟨look?, hprogram, hsaw⟩ := ih
      have hkept (look : Look) (h : look? = some look) : ∃ earlier between,
          Saw server start (turns ++ [turn]) who look earlier between := by
        obtain ⟨earlier, between, hlook⟩ := hsaw look h
        exact ⟨earlier, _, hlook.concat turn⟩
      rw [after_concat]
      by_cases hwho : who = turn.who
      · subst hwho
        cases hnow : (start.after server turns).programs turn.who with
        | done value =>
            rw [step_of_done hnow, hnow]
            exact ⟨look?, trivial, hkept⟩
        | ask call next =>
            rw [hnow] at hprogram
            rw [programs_step_self hnow]
            refine ⟨_, hprogram.2 _ (sound_answerGuarded (keyed_after hkeyed turns) _ _ _),
              fun look hlook => ?_⟩
            rcases lookAfter_answerGuarded hlook with hsame | ⟨hfault, rfl, hfound⟩
            · exact hkept look hsame
            · exact ⟨turns, [], ⟨by rw [← hfault], by rw [hnow]; rfl, hfound⟩⟩
      · rw [programs_step_of_ne hwho]
        exact ⟨look?, hprogram, hkept⟩

theorem Saw.after_eq {start : Clients ι α} {turns : List (Turn ι)} {look : Look}
    {earlier between : List (Turn ι)} (h : Saw server start turns who look earlier between) :
    start.after server turns =
      (start.after server earlier).after server (⟨who, none⟩ :: between) := by
  rw [h.turns_eq, after_append]

/-- An object under the version of the one that was seen is the one that was seen. -/
theorem Saw.eq_of_version_eq {start : Clients ι α} (hversioned : start.cluster.Versioned)
    {turns : List (Turn ι)} {key : ObjectKey} {live old : StatefulSet}
    {earlier between : List (Turn ι)}
    (h : Saw server start turns who ⟨key, some live⟩ earlier between)
    (hold : (start.after server turns).cluster.objects.get? key = some old)
    (hsame : old.metadata.resourceVersion = live.metadata.resourceVersion) : old = live := by
  have hearlier : (start.after server earlier).cluster.Versioned :=
    versioned_after hversioned earlier
  have hthen := hearlier.not_newerThan h.found hsame
  rw [h.after_eq] at hold
  rcases place_after (⟨who, none⟩ :: between) key with hplace | hnewer
  · rw [hplace, h.found] at hold
    exact (Option.some.inj hold).symm
  · exact absurd (hnewer old hold) hthen

/-- The object that was seen is still there exactly if the place was left alone since. -/
theorem Saw.eq_iff_left_alone {start : Clients ι α} (hversioned : start.cluster.Versioned)
    {turns : List (Turn ι)} {key : ObjectKey} {live old : StatefulSet}
    {earlier between : List (Turn ι)}
    (h : Saw server start turns who ⟨key, some live⟩ earlier between)
    (hold : (start.after server turns).cluster.objects.get? key = some old) :
    old = live ↔ ∀ part, part <+: between →
      (start.after server (earlier ++ ⟨who, none⟩ :: part)).cluster.objects.get? key =
        some live := by
  constructor
  · rintro rfl part ⟨rest, rfl⟩
    have hthen := (versioned_after hversioned earlier).not_newerThan h.found rfl
    have hmiddle : start.after server (earlier ++ ⟨who, none⟩ :: part) =
        (start.after server earlier).after server (⟨who, none⟩ :: part) := after_append _ _
    have hnow : start.after server turns =
        (start.after server (earlier ++ ⟨who, none⟩ :: part)).after server rest := by
      rw [h.turns_eq, ← after_append, List.append_assoc, List.cons_append]
    rw [hnow] at hold
    rcases place_after rest key with hplace | hnewer
    · rw [← hplace]
      exact hold
    · refine absurd ((hnewer old hold).mono ?_) hthen
      rw [hmiddle]
      exact revision_le_after _
  · intro halone
    have hlast := halone between (List.prefix_refl between)
    rw [← h.turns_eq, hold] at hlast
    exact Option.some.inj hlast

end Clients

/-! ## What a cycle writes to -/

section

open Clients

variable {ι : Type} [DecidableEq ι] {who : ι} {adjustments : List Adjustment} {fleet : Fleet}
  {gateway : GatewayDescriptor}

/-- The cycle of a gateway runs next to any other clients. An object that it replaces is the one
that its own last look showed. Where it removes one, it had seen an object at that place, and if
the gateway should not exist, one with the labels of the gateway; what goes is that object exactly
if the place was left alone since the look. -/
theorem writes_hit_what_was_seen (server : SecretServer)
    {start : Clients ι (Except GatewayError Outcome)} (hkeyed : start.cluster.Keyed)
    (hversioned : start.cluster.Versioned)
    (hprogram : start.programs who = ExceptT.run (reconcileGateway adjustments fleet gateway))
    (turns : List (Turn ι)) :
    let now := start.after server turns
    (∀ workload, (now.programs who).pending? = some (.update workload) →
      now.cluster.admits (.update workload) = true →
      ∃ old earlier between, now.cluster.objects.get? workload.key = some old ∧
        Saw server start turns who ⟨workload.key, some old⟩ earlier between) ∧
    ∀ workload old, (now.programs who).pending? = some (.delete workload) →
      now.cluster.objects.get? workload.key = some old →
      ∃ earlier between, Saw server start turns who ⟨workload.key, some workload⟩ earlier between ∧
        (old = workload ↔ ∀ part, part <+: between →
          (start.after server (earlier ++ ⟨who, none⟩ :: part)).cluster.objects.get?
            workload.key = some workload) ∧
        (gateway.enabled = false → ∃ base, fleet.workloadMeta = .ok base ∧
          workload.isGatewayOf base.name gateway.moduleName = true) := by
  have hlooks : (start.programs who).LooksFirst (CycleCall adjustments fleet gateway) none := by
    rw [hprogram]
    exact looksFirst_reconcileGateway
  obtain ⟨look?, hnow, hsaw⟩ := exists_look server hlooks hkeyed turns
  dsimp only
  cases hcall : (start.after server turns).programs who with
  | done value =>
      refine ⟨fun _ hpending => ?_, fun _ _ hpending => ?_⟩ <;> cases hpending
  | ask call next =>
      rw [hcall] at hnow
      obtain ⟨⟨hcycle, hfits⟩, -⟩ := hnow
      refine ⟨fun workload hpending hadmits => ?_, fun workload old hpending hold => ?_⟩
      · obtain rfl : call = .update workload := Option.some.inj hpending
        obtain ⟨live, hlook, hversion⟩ := hfits
        obtain ⟨earlier, between, hseen⟩ := hsaw _ hlook
        obtain ⟨old, hold, hadmitted⟩ := exists_of_admits_update hadmits
        -- The version that was seen is one, so it is the version of what is there now.
        have hsame : old.metadata.resourceVersion = live.metadata.resourceVersion := by
          obtain ⟨n, -, hlive⟩ := versioned_after hversioned earlier _ _ hseen.found
          rcases hadmitted with hnone | hsome
          · rw [hversion, hlive] at hnone
            cases hnone
          · rw [← hsome, hversion]
        obtain rfl := hseen.eq_of_version_eq hversioned hold hsame
        exact ⟨old, earlier, between, hold, hseen⟩
      · obtain rfl : call = .delete workload := Option.some.inj hpending
        obtain ⟨earlier, between, hseen⟩ := hsaw _ hfits
        refine ⟨earlier, between, hseen, hseen.eq_iff_left_alone hversioned hold, ?_⟩
        intro hdisabled
        cases hcycle with
        | delete hbase hkey hgateway => exact ⟨_, hbase, hgateway hdisabled⟩

end

/-! ## A foreign object in between -/

/-- An object with the labels of the merged gateway of the sample fleet. -/
def labelled : StatefulSet :=
  { handMade with metadata := { handMade.metadata with labels := workloadLabels "fleet" "multi" } }

/-- A client that deletes the object and creates one of its own, without labels, in its place. -/
def intruder : Dialogue gatewayInterface (Except GatewayError Outcome) :=
  .ask (.delete labelled) fun _ => .ask (.create handMade) fun _ => .done (.ok .created)

/-- The cycle of the merged gateway of the idle fleet next to that client. -/
def idleNextToIntruder : Clients Bool (Except GatewayError Outcome) where
  programs
    | false => ExceptT.run (reconcileGateway [] idleFleet (.disabled .multi "multi" .none))
    | true => intruder
  cluster := sampleCluster.write labelled

theorem keyed_idleNextToIntruder : idleNextToIntruder.cluster.Keyed :=
  keyed_sampleCluster.write (StatefulSet.key_atRevision labelled _)

theorem versioned_idleNextToIntruder : idleNextToIntruder.cluster.Versioned := by
  intro key live hlive
  have hwritten := get?_write sampleCluster labelled key
  rw [show idleNextToIntruder.cluster = sampleCluster.write labelled from rfl, hwritten] at hlive
  split at hlive
  · obtain rfl := Option.some.inj hlive
    exact ⟨1, Nat.le_refl _, rfl⟩
  · cases hlive

/-- While the other client waits, the cycle looks at the labelled object and is about to delete
it, and that object is still there. -/
theorem idle_cycle_hits_what_it_saw :
    let now := idleNextToIntruder.after .replacing [⟨false, none⟩]
    (now.programs false).pending? = some (.delete (labelled.atRevision 1)) ∧
      now.cluster.objects.get? labelled.key = some (labelled.atRevision 1) ∧
      (labelled.atRevision 1).isGatewayOf "fleet" "multi" = true := by
  refine ⟨rfl, rfl, ?_⟩
  have hprogram : idleNextToIntruder.programs false = ExceptT.run
      (reconcileGateway [] idleFleet (.disabled .multi "multi" .none)) := rfl
  obtain ⟨-, hdelete⟩ := writes_hit_what_was_seen .replacing keyed_idleNextToIntruder
    versioned_idleNextToIntruder hprogram [⟨false, none⟩]
  obtain ⟨earlier, between, hsaw, hiff, hlabels⟩ := hdelete (labelled.atRevision 1) _ rfl rfl
  obtain ⟨base, hbase, hgateway⟩ := hlabels rfl
  obtain rfl := Except.ok.inj hbase
  exact hgateway

/-- The cycle looks at the labelled object, the other client puts its own object in the place,
and the cycle removes that one, which has neither the version that was seen nor the labels. The
request for it is the same. -/
theorem retiring_removes_foreign_object :
    let now := idleNextToIntruder.after .replacing
      [⟨false, none⟩, ⟨true, none⟩, ⟨true, none⟩]
    let last := now.step .replacing ⟨false, none⟩
    (now.programs false).pending? = some (.delete (labelled.atRevision 1)) ∧
      now.cluster.objects.get? labelled.key = some (handMade.atRevision 2) ∧
      (handMade.atRevision 2).isGatewayOf "fleet" "multi" = false ∧
      Cluster.gatewayCall (.delete (labelled.atRevision 1)) =
        Cluster.gatewayCall (.delete (handMade.atRevision 2)) ∧
      (last.programs false).result? = some (.ok .deleted) ∧
      last.cluster.objects.get? labelled.key = none := by
  refine ⟨rfl, rfl, ?_, gatewayCall_delete_eq rfl, rfl, rfl⟩
  decide

end FleetOperator
