import FleetOperator.Proofs.Gateway.Identity

/-!
# The calls of a gateway cycle

A cycle makes its calls in one order: it sees to the custom properties, reads
the secret that they lie in, asks for the version of the cluster, looks at the
live object and makes at most one write. What differs between two cycles of a
gateway is how far they come. `Stops` says after which calls a cycle ends in
an error: where the fleet lacks what the next step needs, where a call failed
other than the one for the version, and where a secret does not have what it
was read for.

`CycleReport` is what holds of every cycle, whatever fails
(`report_convergeGateway`): the calls are those of the order, they end with
the first after which the cycle stops, a cycle that ends in an error leaves
the objects alone, and one that does not changes the desired object at most.
The proof follows the program from its end to its start. Each lemma reports on
the rest of the program for a cycle that has come there without a stop
(`Went`).
-/

namespace FleetOperator

open SimulatedCluster
open GatewayProgram (ask askOr ofExcept)

/-! ## The order of the calls -/

/-- The call that sees to the custom properties of a gateway. -/
def applyCalls (fleet : Fleet) (gateway : GatewayDescriptor) : List GatewayCall :=
  match fleet.ns?, fleet.ownerReference?, gateway.customProperties? with
  | some ns, some owner, some properties =>
    [.applyProperties owner ns gateway.configuration.serviceAccountOwner properties]
  | _, _, _ => []

/-- The call that reads the secret which the custom properties of a gateway lie in. -/
def readCalls (fleet : Fleet) (gateway : GatewayDescriptor) : List GatewayCall :=
  match fleet.ns?, gateway.customProperties?.bind ValueSource.reference? with
  | some ns, some secret => [.readSecret ns secret]
  | _, _ => []

/-- The calls of a cycle up to the look at the live object. -/
def lookCalls (fleet : Fleet) (gateway : GatewayDescriptor) (desired : StatefulSet) :
    List GatewayCall :=
  applyCalls fleet gateway ++ readCalls fleet gateway ++
    [.serverVersion, .get desired.ns desired.name]

/-- A fleet without a name or a uid of its own owns nothing. -/
def Fleet.OwnsNothing (fleet : Fleet) : Prop :=
  fleet.header.name = none ∨ fleet.header.uid = none

theorem Fleet.ownerReference?_eq_none_iff {fleet : Fleet} :
    fleet.ownerReference? = none ↔ fleet.OwnsNothing := by
  unfold Fleet.ownerReference? Fleet.OwnsNothing
  cases fleet.header.name <;> cases fleet.header.uid <;> simp

/-- Whether a cycle ends in an error after some calls, the latest first. -/
def Stops (plan : FaultPlan) (cluster : SimulatedCluster) (fleet : Fleet)
    (gateway : GatewayDescriptor) : List GatewayCall → Prop
  | [] => fleet.ns? = none ∨ gateway.customProperties? ≠ none ∧ fleet.OwnsNothing
  | .serverVersion :: _ => fleet.OwnsNothing
  | .readSecret ns name :: past =>
    plan (past ++ cluster.calls) (.readSecret ns name) ≠ none ∨
      (cluster.secrets.get? ⟨ns, name⟩).bind (·.get? customPropertiesKey) = none
  | call :: past => plan (past ++ cluster.calls) call ≠ none

/-- The write by which a cycle has its outcome. -/
def Outcome.write? (outcome : Outcome) (desired : StatefulSet) (live? : Option StatefulSet) :
    Option GatewayCall :=
  match outcome with
  | .created => some (.create desired)
  | .deleted => live?.map .delete
  | .updated => live?.map fun live => .update (desired.atVersionOf live)
  | .unchanged => none

/-- What is stored of an object after an outcome. -/
def Outcome.stored? (outcome : Outcome) (desired : StatefulSet) (revision : Nat)
    (live? : Option StatefulSet) : Option StatefulSet :=
  match outcome with
  | .created => some (desired.atRevision revision)
  | .deleted => none
  | .updated => some (desired.atRevision revision)
  | .unchanged => live?

/-- What a cycle without an error has done about the desired object. -/
structure Settlement (cluster : SimulatedCluster) (desired : StatefulSet) (outcome : Outcome)
    (after : SimulatedCluster) : Prop where
  created_iff : outcome = .created ↔ cluster.objects.get? desired.key = none
  deleted_iff : outcome = .deleted ↔ ∃ live, cluster.objects.get? desired.key = some live ∧
    live.metadata.labels ≠ desired.metadata.labels
  updated_iff : outcome = .updated ↔ ∃ live, cluster.objects.get? desired.key = some live ∧
    live.metadata.labels = desired.metadata.labels ∧ live.differsFrom desired = true
  unchanged_iff : outcome = .unchanged ↔ ∃ live, cluster.objects.get? desired.key = some live ∧
    live.metadata.labels = desired.metadata.labels ∧ live.differsFrom desired = false
  stored : after.objects.get? desired.key =
    outcome.stored? desired (cluster.revision + 1) (cluster.objects.get? desired.key)
  others : ∀ key, key ≠ desired.key → after.objects.get? key = cluster.objects.get? key

/-- Where objects are stored under their own keys, the effect of a cycle is one on the desired
object. -/
theorem ConvergeEffect.settlement {cluster after : SimulatedCluster} {desired : StatefulSet}
    {outcome : Outcome} (hkeyed : cluster.Keyed)
    (h : ConvergeEffect cluster desired outcome after) :
    Settlement cluster desired outcome after := by
  cases h with
  | created habsent hwrite =>
      refine ⟨by simp [habsent], by simp [habsent], by simp [habsent], by simp [habsent], ?_,
        fun key hkey => ?_⟩
      · rw [hwrite.objects, get?_write, if_pos rfl, Outcome.stored?]
      · rw [hwrite.objects, get?_write, if_neg hkey]
  | deleted hlive hlabels hremove =>
      -- The object goes from the key that it carries, which is the one it is stored under.
      have hkey := hkeyed _ _ hlive
      refine ⟨by simp [hlive], by simp [hlive, hlabels], by simp [hlive, hlabels],
        by simp [hlive, hlabels], ?_, fun key hne => ?_⟩
      · rw [hremove.objects, get?_remove, if_pos hkey.symm, Outcome.stored?]
      · rw [hremove.objects, get?_remove, hkey, if_neg hne]
  | updated hlive hlabels hdiffers hwrite =>
      refine ⟨by simp [hlive], by simp [hlive, hlabels], by simp [hlive, hlabels, hdiffers],
        by simp [hlive, hlabels, hdiffers], ?_, fun key hkey => ?_⟩
      · rw [hwrite.objects, get?_write, if_pos rfl, Outcome.stored?]
      · rw [hwrite.objects, get?_write, if_neg hkey]
  | unchanged hlive hlabels hsame hquiet =>
      refine ⟨by simp [hlive], by simp [hlive, hlabels], by simp [hlive, hlabels, hsame],
        by simp [hlive, hlabels, hsame], ?_, fun key _ => ?_⟩
      · rw [hquiet.objects, Outcome.stored?]
      · rw [hquiet.objects]

theorem Settlement.of_objects_eq {cluster after other : SimulatedCluster} {desired : StatefulSet}
    {outcome : Outcome} (h : Settlement cluster desired outcome after)
    (heq : other.objects = after.objects) : Settlement cluster desired outcome other where
  created_iff := h.created_iff
  deleted_iff := h.deleted_iff
  updated_iff := h.updated_iff
  unchanged_iff := h.unchanged_iff
  stored := by rw [heq, h.stored]
  others key hkey := by rw [heq, h.others key hkey]

theorem isWrite_of_write? {outcome : Outcome} {desired : StatefulSet} {live? : Option StatefulSet}
    {write : GatewayCall} (h : outcome.write? desired live? = some write) :
    write.isWrite = true := by
  cases outcome <;> cases live? <;> cases h <;> rfl

section

variable (plan : FaultPlan) (adjustments : List Adjustment) (fleet : Fleet)
  (gateway : GatewayDescriptor) (start : SimulatedCluster)

/-- What a cycle builds, going by the version that its call for it gives. -/
def Builds (desired : StatefulSet) : Prop :=
  desiredResult adjustments fleet gateway start.secrets
    (plan.seen ((applyCalls fleet gateway ++ readCalls fleet gateway).reverse ++ start.calls)
      start.version) = .ok desired

/-- Calls that a cycle makes in their order, with one write at most, and that as the last. -/
def InOrder (desired : StatefulSet) (made : List GatewayCall) : Prop :=
  ∃ write? : Option GatewayCall, (∀ write, write? = some write → write.isWrite = true) ∧
    made <+: lookCalls fleet gateway desired ++ write?.toList

/-- What holds of a cycle that has made some calls, in their order. -/
structure CycleReport (made : List GatewayCall) (desired : StatefulSet)
    (result : Except GatewayError Outcome × SimulatedCluster) : Prop where
  recorded : result.2.calls = made.reverse ++ start.calls
  ordered : InOrder fleet gateway desired made
  built : .get desired.ns desired.name ∈ made →
    Builds plan adjustments fleet gateway start desired
  fails_iff : (∃ e, result.1 = .error e) ↔ Stops plan start fleet gateway made.reverse
  first : ∀ earlier, earlier <+: made → earlier ≠ made →
    ¬ Stops plan start fleet gateway earlier.reverse
  untouched : ∀ e, result.1 = .error e → SameState start result.2
  settles : ∀ outcome, result.1 = .ok outcome →
    made = lookCalls fleet gateway desired ++
      (outcome.write? desired (start.objects.get? desired.key)).toList ∧
    Settlement start desired outcome result.2

/-- A cycle that has made some calls, in their order, and goes on. -/
structure Went (made : List GatewayCall) (now : SimulatedCluster) : Prop where
  recorded : now.calls = made.reverse ++ start.calls
  state : SameState start now
  alive : ∀ earlier, earlier <+: made → ¬ Stops plan start fleet gateway earlier.reverse

end

section

variable {plan : FaultPlan} {adjustments : List Adjustment} {fleet : Fleet}
  {gateway : GatewayDescriptor} {start now : SimulatedCluster} {made : List GatewayCall}
  {call : GatewayCall} {desired : StatefulSet}

theorem InOrder.of_look (h : made <+: lookCalls fleet gateway desired) :
    InOrder fleet gateway desired made :=
  ⟨none, by simp, h.trans (List.prefix_append _ _)⟩

theorem Went.step (h : Went plan fleet gateway start made now)
    (hgo : ¬ Stops plan start fleet gateway (call :: made.reverse)) :
    Went plan fleet gateway start (made ++ [call]) (now.recorded call) := by
  refine ⟨?_, h.state.trans (sameState_recorded now call), fun earlier hearlier => ?_⟩
  · rw [List.reverse_append, SimulatedCluster.recorded, h.recorded]
    rfl
  · rcases List.prefix_concat_iff.1 hearlier with rfl | hearlier
    · rw [List.reverse_append]
      exact hgo
    · exact h.alive earlier hearlier

theorem Went.failed (h : Went plan fleet gateway start made now)
    (hstops : Stops plan start fleet gateway (call :: made.reverse)) (e : GatewayError)
    (hordered : InOrder fleet gateway desired (made ++ [call]))
    (hbuilt : .get desired.ns desired.name ∈ made ++ [call] →
      Builds plan adjustments fleet gateway start desired) :
    CycleReport plan adjustments fleet gateway start (made ++ [call]) desired
      (.error e, now.recorded call) where
  recorded := by
    rw [List.reverse_append, SimulatedCluster.recorded, h.recorded]
    rfl
  ordered := hordered
  built := hbuilt
  fails_iff := by
    rw [List.reverse_append]
    exact ⟨fun _ => hstops, fun _ => ⟨e, rfl⟩⟩
  first earlier hearlier hne := h.alive earlier
    ((List.prefix_concat_iff.1 hearlier).resolve_left hne)
  untouched _ _ := h.state.trans (sameState_recorded now call)
  settles _ hok := by cases hok

theorem CycleReport.of_ok {outcome : Outcome} {after : SimulatedCluster}
    (hmade : made = lookCalls fleet gateway desired ++
      (outcome.write? desired (start.objects.get? desired.key)).toList)
    (hrecorded : after.calls = made.reverse ++ start.calls)
    (halive : ∀ earlier, earlier <+: made → ¬ Stops plan start fleet gateway earlier.reverse)
    (hbuilt : Builds plan adjustments fleet gateway start desired)
    (hsettles : Settlement start desired outcome after) :
    CycleReport plan adjustments fleet gateway start made desired (.ok outcome, after) where
  recorded := hrecorded
  ordered := ⟨_, fun _ => isWrite_of_write?, [], (List.append_nil made).trans hmade⟩
  built _ := hbuilt
  fails_iff := by
    constructor
    · rintro ⟨e, he⟩
      cases he
    · exact fun hstops => absurd hstops (halive made List.prefix_rfl)
  first earlier hearlier _ := halive earlier hearlier
  untouched _ he := by cases he
  settles found hfound := by
    obtain rfl := Except.ok.inj hfound
    exact ⟨hmade, hsettles⟩

theorem get_not_mem (ns name : String) : .get ns name ∉
    applyCalls fleet gateway ++ readCalls fleet gateway ++ [GatewayCall.serverVersion] := by
  unfold applyCalls readCalls
  split <;> split <;> simp

theorem Went.failed_before_look (h : Went plan fleet gateway start made now)
    (hstops : Stops plan start fleet gateway (call :: made.reverse)) (e : GatewayError)
    (hmade : made ++ [call] <+: applyCalls fleet gateway ++ readCalls fleet gateway ++
      [GatewayCall.serverVersion]) :
    ∃ made desired, CycleReport plan adjustments fleet gateway start made desired
      (.error e, now.recorded call) := by
  have hlook : applyCalls fleet gateway ++ readCalls fleet gateway ++ [GatewayCall.serverVersion]
      <+: lookCalls fleet gateway default := ⟨[.get _ _], List.append_assoc _ _ _⟩
  exact ⟨_, default, h.failed hstops e (.of_look (hmade.trans hlook)) fun hget =>
    absurd (hmade.subset hget) (get_not_mem _ _)⟩

/-! ## The end of a cycle -/

theorem stops_write (h : call.isWrite = true) (past : List GatewayCall) :
    Stops plan start fleet gateway (call :: past) ↔ plan (past ++ start.calls) call ≠ none := by
  cases call with
  | create workload | update workload | delete workload => exact .rfl
  | applyProperties | readSecret | serverVersion | get => cases h

theorem report_write (h : Went plan fleet gateway start (lookCalls fleet gateway desired) now)
    (hbuilt : Builds plan adjustments fleet gateway start desired) {outcome : Outcome}
    (hwrite : outcome.write? desired (start.objects.get? desired.key) = some call)
    (hrecorded : ((now.recorded call).serve call).2.calls = call :: now.calls)
    (hsettles : Settlement start desired outcome ((now.recorded call).serve call).2) :
    ∃ made, CycleReport plan adjustments fleet gateway start made desired
      (now.runUnder plan (ask call >>= fun _ => pure outcome)) := by
  have hmade : lookCalls fleet gateway desired ++ [call] = lookCalls fleet gateway desired ++
      (outcome.write? desired (start.objects.get? desired.key)).toList := by
    rw [hwrite]
    rfl
  have hstops : Stops plan start fleet gateway
      (call :: (lookCalls fleet gateway desired).reverse) ↔ plan now.calls call ≠ none := by
    rw [stops_write (isWrite_of_write? hwrite), h.recorded]
  refine ⟨lookCalls fleet gateway desired ++ [call], ?_⟩
  rw [runUnder_bind, runUnder_ask]
  cases hplan : plan now.calls call with
  | some e =>
      exact h.failed (hstops.2 (by simp [hplan])) (.operator e)
        ⟨_, fun _ => isWrite_of_write?, [], (List.append_nil _).trans hmade⟩ fun _ => hbuilt
  | none =>
      have hgo := h.step (mt hstops.1 (by simp [hplan]))
      exact .of_ok hmade (hrecorded.trans hgo.recorded) hgo.alive hbuilt hsettles

theorem report_settle (hkeyed : start.Keyed)
    (h : Went plan fleet gateway start (lookCalls fleet gateway desired) now)
    (hbuilt : Builds plan adjustments fleet gateway start desired) :
    ∃ made, CycleReport plan adjustments fleet gateway start made desired
      (now.runUnder plan (settle desired (start.objects.get? desired.key))) := by
  have hstate (call : GatewayCall) := h.state.trans (sameState_recorded now call)
  cases hlive : start.objects.get? desired.key with
  | none =>
      have hcreated := ConvergeEffect.created hlive
        (sameState_write (hstate (.create desired)) desired)
      exact report_write h hbuilt (by rw [hlive]; rfl) rfl (hcreated.settlement hkeyed)
  | some live =>
      simp only [settle]
      split
      · next hlabels =>
          have hdeleted := ConvergeEffect.deleted hlive hlabels
            (sameState_remove (hstate (.delete live)) live.key)
          exact report_write h hbuilt (by rw [hlive]; rfl) rfl (hdeleted.settlement hkeyed)
      · next hlabels =>
          have hlabels := Decidable.of_not_not hlabels
          split
          · next hdiffers =>
              have hupdated := ConvergeEffect.updated hlive hlabels hdiffers
                (sameState_write (hstate (.update (desired.atVersionOf live))) desired)
              exact report_write h hbuilt (by rw [hlive]; rfl) rfl (hupdated.settlement hkeyed)
          · next hsame =>
              have hunchanged := ConvergeEffect.unchanged hlive hlabels
                (Bool.not_eq_true _ ▸ hsame) (.refl start)
              have hsettles := (hunchanged.settlement hkeyed).of_objects_eq h.state.objects
              exact ⟨_, .of_ok (List.append_nil _).symm h.recorded h.alive hbuilt hsettles⟩

theorem report_look (hkeyed : start.Keyed)
    (h : Went plan fleet gateway start
      (applyCalls fleet gateway ++ readCalls fleet gateway ++ [.serverVersion]) now)
    (hbuilt : Builds plan adjustments fleet gateway start desired) :
    ∃ made, CycleReport plan adjustments fleet gateway start made desired
      (now.runUnder plan (ask (.get desired.ns desired.name) >>= settle desired)) := by
  have hlook : applyCalls fleet gateway ++ readCalls fleet gateway ++
      [GatewayCall.serverVersion] ++ [.get desired.ns desired.name] =
      lookCalls fleet gateway desired := by
    rw [lookCalls, List.append_assoc _ [GatewayCall.serverVersion]]
    rfl
  have hstops : Stops plan start fleet gateway (.get desired.ns desired.name ::
      (applyCalls fleet gateway ++ readCalls fleet gateway ++
        [GatewayCall.serverVersion]).reverse) ↔
      plan now.calls (.get desired.ns desired.name) ≠ none := by
    rw [h.recorded]
    exact .rfl
  rw [runUnder_get_bind]
  cases hplan : plan now.calls (.get desired.ns desired.name) with
  | some e =>
      exact ⟨_, h.failed (hstops.2 (by simp [hplan])) (.operator e)
        (.of_look ⟨[], (List.append_nil _).trans hlook⟩) fun _ => hbuilt⟩
  | none =>
      have hgo := h.step (mt hstops.1 (by simp [hplan]))
      rw [hlook] at hgo
      have hlive : start.objects.get? ⟨desired.ns, desired.name⟩ =
          now.objects.get? ⟨desired.ns, desired.name⟩ := by rw [h.state.objects]
      rw [← hlive]
      exact report_settle hkeyed hgo hbuilt

/-- The part of a cycle after the custom properties. -/
def convergeFrom (adjustments : List Adjustment) (fleet : Fleet) (base : WorkloadMeta)
    (gateway : GatewayDescriptor) (hash : String) : GatewayProgram Outcome := do
  let version ← askOr .serverVersion .unknown
  let built := StatefulSet.desired base gateway hash version adjustments
  let owner ← ofExcept id (fleet.ownerOf built.name)
  let desired := built.ownedBy owner
  ask (.get desired.ns desired.name) >>= settle desired

theorem convergeGateway_eq_convergeFrom (adjustments : List Adjustment) (fleet : Fleet)
    (gateway : GatewayDescriptor) :
    convergeGateway adjustments fleet gateway =
      ofExcept id fleet.workloadMeta >>= fun base =>
        applyCustomProperties fleet base gateway >>= fun _ =>
          hashCustomProperties base.ns gateway.customProperties? >>=
            convergeFrom adjustments fleet base gateway := by
  simp only [convergeGateway, buildDesired, bind_assoc, pure_bind]
  rfl

theorem report_convergeFrom (hkeyed : start.Keyed) {base : WorkloadMeta} {hash : String}
    (h : Went plan fleet gateway start (applyCalls fleet gateway ++ readCalls fleet gateway) now)
    (hbase : fleet.workloadMeta = .ok base)
    (hhash : propertiesHash start.secrets base.ns gateway.customProperties? = .ok hash) :
    ∃ made desired, CycleReport plan adjustments fleet gateway start made desired
      (now.runUnder plan (convergeFrom adjustments fleet base gateway hash)) := by
  have hstops : Stops plan start fleet gateway (.serverVersion ::
      (applyCalls fleet gateway ++ readCalls fleet gateway).reverse) ↔
      fleet.ownerReference? = none := Fleet.ownerReference?_eq_none_iff.symm
  unfold convergeFrom
  rw [runUnder_bind, runUnder_askVersion]
  dsimp only
  rw [runUnder_bind, runUnder_ofExcept, mapError_id, Fleet.ownerOf, h.state.version, h.recorded]
  cases howner : fleet.ownerReference? with
  | none => exact h.failed_before_look (hstops.2 howner) _ List.prefix_rfl
  | some owner =>
      -- The call for the version never stops a cycle: what it gives only changes what is built.
      have hgo := h.step (mt hstops.1 (by simp [howner]))
      have hbuilt : Builds plan adjustments fleet gateway start _ :=
        desiredResult_eq hbase howner hhash _
      obtain ⟨made, hreport⟩ := report_look hkeyed hgo hbuilt
      exact ⟨made, _, hreport⟩

/-! ## The start of a cycle -/

theorem ns?_of_workloadMeta {base : WorkloadMeta} (h : fleet.workloadMeta = .ok base) :
    fleet.ns? = some base.ns := by
  unfold Fleet.workloadMeta WorkloadMeta.ofFleet? at h
  cases hns : fleet.ns? with
  | none => simp [hns] at h
  | some ns =>
      rw [hns] at h
      rw [← Except.ok.inj h]

theorem ns?_of_workloadMeta_eq_error {e : GatewayError} (h : fleet.workloadMeta = .error e) :
    fleet.ns? = none := by
  unfold Fleet.workloadMeta WorkloadMeta.ofFleet? at h
  cases hns : fleet.ns? with
  | none => rfl
  | some ns => simp [hns] at h

theorem get?_eq_none_of_secretValue {ns name key : String} {found : Option SecretData}
    {e : OperatorError} (h : secretValue ns name key found = .error e) :
    found.bind (·.get? key) = none := by
  cases found with
  | none => rfl
  | some data =>
      cases hvalue : data.get? key with
      | none => exact hvalue
      | some bytes => simp [secretValue, hvalue] at h

theorem get?_ne_none_of_secretValue {ns name key : String} {found : Option SecretData}
    {bytes : List UInt8} (h : secretValue ns name key found = .ok bytes) :
    found.bind (·.get? key) ≠ none := by
  cases found with
  | none => cases h
  | some data =>
      cases hvalue : data.get? key with
      | none => simp [secretValue, hvalue] at h
      | some value => simp [hvalue]

theorem readCalls_eq {base : WorkloadMeta} (hbase : fleet.workloadMeta = .ok base) :
    readCalls fleet gateway =
      ((gateway.customProperties?.bind ValueSource.reference?).map
        (.readSecret base.ns)).toList := by
  rw [readCalls, ns?_of_workloadMeta hbase]
  cases gateway.customProperties?.bind ValueSource.reference? <;> rfl

theorem report_readSecret (hkeyed : start.Keyed) {base : WorkloadMeta} {properties : ValueSource}
    {secret : String} (h : Went plan fleet gateway start (applyCalls fleet gateway) now)
    (hbase : fleet.workloadMeta = .ok base)
    (hproperties : gateway.customProperties? = some properties)
    (hreference : properties.reference? = some secret) :
    ∃ made desired, CycleReport plan adjustments fleet gateway start made desired
      (now.runUnder plan (hashCustomProperties base.ns (some properties) >>=
        convergeFrom adjustments fleet base gateway)) := by
  have hcalls : readCalls fleet gateway = [.readSecret base.ns secret] := by
    rw [readCalls_eq hbase, hproperties, Option.bind_some, hreference]
    rfl
  have hcut : applyCalls fleet gateway ++ [.readSecret base.ns secret] <+:
      applyCalls fleet gateway ++ readCalls fleet gateway ++ [GatewayCall.serverVersion] := by
    rw [hcalls]
    exact List.prefix_append _ _
  have hstops : Stops plan start fleet gateway
      (.readSecret base.ns secret :: (applyCalls fleet gateway).reverse) ↔
      plan now.calls (.readSecret base.ns secret) ≠ none ∨
        (start.secrets.get? ⟨base.ns, secret⟩).bind (·.get? customPropertiesKey) = none := by
    rw [h.recorded]
    exact .rfl
  simp only [hashCustomProperties, hreference, bind_assoc, pure_bind]
  rw [runUnder_bind, runUnder_ask]
  cases hplan : plan now.calls (.readSecret base.ns secret) with
  | some e => exact h.failed_before_look (hstops.2 (.inl (by simp [hplan]))) _ hcut
  | none =>
      dsimp only [serve]
      have hsecrets : (now.recorded (.readSecret base.ns secret)).secrets = start.secrets :=
        h.state.secrets
      rw [runUnder_bind, runUnder_ofExcept, hsecrets]
      cases hvalue : secretValue base.ns secret customPropertiesKey
          (start.secrets.get? ⟨base.ns, secret⟩) with
      | error e =>
          have habsent := get?_eq_none_of_secretValue hvalue
          exact h.failed_before_look (hstops.2 (.inr habsent)) _ hcut
      | ok bytes =>
          have hgo := h.step (mt hstops.1
            (not_or.2 ⟨by simp [hplan], get?_ne_none_of_secretValue hvalue⟩))
          rw [← hcalls] at hgo
          refine report_convergeFrom hkeyed hgo hbase ?_
          simp only [propertiesHash, hproperties, hreference, hvalue]
          rfl

theorem report_hash (hkeyed : start.Keyed) {base : WorkloadMeta}
    (h : Went plan fleet gateway start (applyCalls fleet gateway) now)
    (hbase : fleet.workloadMeta = .ok base) :
    ∃ made desired, CycleReport plan adjustments fleet gateway start made desired
      (now.runUnder plan (hashCustomProperties base.ns gateway.customProperties? >>=
        convergeFrom adjustments fleet base gateway)) := by
  -- Without a reference the hash is known at once and nothing is read.
  have hwritten (hash : String)
      (hnone : gateway.customProperties?.bind ValueSource.reference? = none)
      (hhash : propertiesHash start.secrets base.ns gateway.customProperties? = .ok hash) :
      ∃ made desired, CycleReport plan adjustments fleet gateway start made desired
        (now.runUnder plan (convergeFrom adjustments fleet base gateway hash)) := by
    refine report_convergeFrom hkeyed ?_ hbase hhash
    rw [readCalls_eq hbase, hnone]
    exact (List.append_nil _).symm ▸ h
  cases hproperties : gateway.customProperties? with
  | none =>
      rw [hproperties] at hwritten
      exact hwritten "" rfl rfl
  | some properties =>
      cases hreference : properties.reference? with
      | some secret => exact report_readSecret hkeyed h hbase hproperties hreference
      | none =>
          rw [hproperties] at hwritten
          simp only [hashCustomProperties, hreference, pure_bind]
          exact hwritten _ hreference (by rw [propertiesHash, hreference])

theorem went_nil (h : ¬ Stops plan start fleet gateway []) :
    Went plan fleet gateway start [] start := by
  refine ⟨rfl, .refl start, fun earlier hearlier => ?_⟩
  rw [List.prefix_nil.1 hearlier]
  exact h

theorem report_nil (hstops : Stops plan start fleet gateway []) (e : GatewayError) :
    CycleReport plan adjustments fleet gateway start [] default (.error e, start) where
  recorded := rfl
  ordered := .of_look List.nil_prefix
  built hget := absurd hget List.not_mem_nil
  fails_iff := ⟨fun _ => hstops, fun _ => ⟨e, rfl⟩⟩
  first _ hearlier hne := absurd (List.prefix_nil.1 hearlier) hne
  untouched _ _ := .refl start
  settles _ hok := by cases hok

theorem applyCustomProperties_of_none (h : gateway.customProperties? = none) (fleet : Fleet)
    (base : WorkloadMeta) : applyCustomProperties fleet base gateway = pure () := by
  rw [applyCustomProperties, h]

theorem runUnder_applyCustomProperties {properties : ValueSource}
    (hproperties : gateway.customProperties? = some properties) (plan : FaultPlan)
    (cluster : SimulatedCluster) (fleet : Fleet) (base : WorkloadMeta) :
    cluster.runUnder plan (applyCustomProperties fleet base gateway) =
      match fleet.ownerOf (gateway.workloadName base.name) with
      | .error e => (.error e, cluster)
      | .ok owner =>
        let call : GatewayCall := .applyProperties owner base.ns
          gateway.configuration.serviceAccountOwner properties
        match plan cluster.calls call with
        | some e => (.error (.operator e), cluster.recorded call)
        | none => (.ok (), cluster.recorded call) := by
  unfold applyCustomProperties
  rw [hproperties]
  refine (runUnder_bind plan cluster _ _).trans ?_
  rw [runUnder_ofExcept, mapError_id]
  cases fleet.ownerOf (gateway.workloadName base.name) with
  | error e => rfl
  | ok owner => exact runUnder_ask plan cluster _

theorem report_base (hkeyed : start.Keyed) {base : WorkloadMeta}
    (hbase : fleet.workloadMeta = .ok base) :
    ∃ made desired, CycleReport plan adjustments fleet gateway start made desired
      (start.runUnder plan (applyCustomProperties fleet base gateway >>= fun _ =>
        hashCustomProperties base.ns gateway.customProperties? >>=
          convergeFrom adjustments fleet base gateway)) := by
  have hns := ns?_of_workloadMeta hbase
  cases hproperties : gateway.customProperties? with
  | none =>
      have happly : applyCalls fleet gateway = [] := by
        unfold applyCalls
        split
        · next hsome => rw [hproperties] at hsome; cases hsome
        · rfl
      have hgo : Went plan fleet gateway start (applyCalls fleet gateway) start := by
        rw [happly]
        exact went_nil (by simp [Stops, hns, hproperties])
      rw [applyCustomProperties_of_none hproperties, pure_bind, ← hproperties]
      exact report_hash hkeyed hgo hbase
  | some properties =>
      rw [runUnder_bind, runUnder_applyCustomProperties hproperties, Fleet.ownerOf]
      cases howner : fleet.ownerReference? with
      | none =>
          have hnothing := Fleet.ownerReference?_eq_none_iff.1 howner
          exact ⟨[], default, report_nil (.inr ⟨by simp [hproperties], hnothing⟩) _⟩
      | some owner =>
          have happly : applyCalls fleet gateway = [.applyProperties owner base.ns
              gateway.configuration.serviceAccountOwner properties] := by
            rw [applyCalls, hns, howner, hproperties]
          have hgo : Went plan fleet gateway start [] start := by
            refine went_nil ?_
            rw [Stops, hns, ← Fleet.ownerReference?_eq_none_iff, howner]
            simp
          have hstops : Stops plan start fleet gateway [.applyProperties owner base.ns
              gateway.configuration.serviceAccountOwner properties] ↔
              plan start.calls (.applyProperties owner base.ns
                gateway.configuration.serviceAccountOwner properties) ≠ none := .rfl
          dsimp only
          cases hplan : plan start.calls (.applyProperties owner base.ns
              gateway.configuration.serviceAccountOwner properties) with
          | some e =>
              refine hgo.failed_before_look (hstops.2 (by simp [hplan])) _ ?_
              rw [happly, List.append_assoc]
              exact List.prefix_append _ _
          | none =>
              have hnext := hgo.step (mt hstops.1 (by simp [hplan]))
              rw [List.nil_append, ← happly] at hnext
              rw [← hproperties]
              exact report_hash hkeyed hnext hbase

/-- Everything that a cycle of a gateway that should exist does, whatever fails. It makes its
calls in their order up to the first after which it stops; a cycle that ends in an error leaves
the objects alone; and one that does not changes the desired object at most, by the outcome that
it reports. -/
theorem report_convergeGateway (plan : FaultPlan) (adjustments : List Adjustment) (fleet : Fleet)
    (gateway : GatewayDescriptor) (hkeyed : start.Keyed) :
    ∃ made desired, CycleReport plan adjustments fleet gateway start made desired
      (start.runUnder plan (convergeGateway adjustments fleet gateway)) := by
  rw [convergeGateway_eq_convergeFrom, runUnder_bind, runUnder_ofExcept, mapError_id]
  cases hbase : fleet.workloadMeta with
  | error e => exact ⟨[], default, report_nil (.inl (ns?_of_workloadMeta_eq_error hbase)) e⟩
  | ok base => exact report_base hkeyed hbase

end

/-- Where the deletion of an object of another hand is refused, all five calls are made and the
object stays. -/
theorem report_refused_deletion :
    let start := sampleCluster.write handMade
    let result := start.runUnder readOnlyPlan (convergeGateway [] sampleFleet sampleGateway)
    start.Keyed ∧ ∃ made desired,
      CycleReport readOnlyPlan [] sampleFleet sampleGateway start made desired result ∧
        made.length = 5 ∧ SameState start result.2 := by
  have hkeyed : (sampleCluster.write handMade).Keyed :=
    keyed_sampleCluster.write (StatefulSet.key_atRevision handMade _)
  obtain ⟨made, desired, hreport⟩ :=
    report_convergeGateway readOnlyPlan [] sampleFleet sampleGateway hkeyed
  refine ⟨hkeyed, made, desired, hreport, ?_,
    hreport.untouched (.operator (.internal "down" "")) rfl⟩
  have hlength := congrArg List.length hreport.recorded
  rw [List.length_append, List.length_reverse] at hlength
  exact hlength.symm.trans rfl

end FleetOperator
