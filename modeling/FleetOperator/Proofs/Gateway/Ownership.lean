import FleetOperator.Proofs.Gateway.Convergence
import FleetOperator.Proofs.Gateway.Reachable

/-!
# Whose a gateway is

A cycle that writes an object writes it with one reference, to the fleet that
it was run for. A cycle that leaves the object alone compares labels and the
hash of what was built, and the reference goes in after the hash is taken. So
the reference that is found after a cycle is that of the fleet which the
object was last written for, its author (`Authored.stores`), and an object
belongs to the fleet of the cycle exactly if its author is a fleet of the
same name and uid (`belongsTo_iff_author`). A fleet that is deleted and made
anew with the same specification finds the object of the old one up to date,
and leaves it with the old uid (`recreated_fleet_owns_nothing`).
-/

namespace FleetOperator

open SimulatedCluster

/-! ## Owners -/

/-- The reference by which a fleet owns an object is the only one that the object has. -/
def StatefulSet.BelongsTo (workload : StatefulSet) (fleet : Fleet) : Prop :=
  ∃ owner, workload.metadata.ownerReferences = [owner] ∧ owner.controller = some true ∧
    fleet.header.name = some owner.name ∧ fleet.header.uid = some owner.uid

/-- Two states of one fleet resource: what is made anew under a name has another uid. -/
def Fleet.SameIdentity (fleet other : Fleet) : Prop :=
  fleet.header.name = other.header.name ∧ fleet.header.uid = other.header.uid

theorem Fleet.sameIdentity_refl (fleet : Fleet) : fleet.SameIdentity fleet := ⟨rfl, rfl⟩

/-- The object carries the reference of a fleet. -/
def StatefulSet.OwnedFor (workload : StatefulSet) (fleet : Fleet) : Prop :=
  ∃ owner, fleet.ownerReference? = some owner ∧ workload.metadata.ownerReferences = [owner]

/-- An object with the reference of one fleet belongs to another exactly if both are states of
one resource. -/
theorem StatefulSet.OwnedFor.belongsTo_iff {workload : StatefulSet} {author fleet : Fleet}
    (h : workload.OwnedFor author) : workload.BelongsTo fleet ↔ author.SameIdentity fleet := by
  obtain ⟨owner, howner, honly⟩ := h
  obtain ⟨hname, huid, hcontroller⟩ := Fleet.of_ownerReference howner
  constructor
  · rintro ⟨other, honly', -, hname', huid'⟩
    obtain rfl : owner = other := by simpa using honly.symm.trans honly'
    exact ⟨hname.trans hname'.symm, huid.trans huid'.symm⟩
  · rintro ⟨hsameName, hsameUid⟩
    exact ⟨owner, honly, hcontroller, hsameName ▸ hname, hsameUid ▸ huid⟩

theorem ownedFor_of_desiredResult {adjustments : List Adjustment} {fleet : Fleet}
    {gateway : GatewayDescriptor} {secrets : SortedMap ObjectKey SecretData}
    {version : ServerVersion} {desired : StatefulSet}
    (h : desiredResult adjustments fleet gateway secrets version = .ok desired) :
    desired.OwnedFor fleet := by
  obtain ⟨base, hash, owner, -, howner, -, rfl⟩ := exists_of_desiredResult h
  exact ⟨owner, howner, rfl⟩

/-! ## Turns of the operator -/

/-- The cycle of one gateway, for a fleet as it is then, with the calls that fail in it. -/
structure GatewayTurn where
  plan : FaultPlan
  adjustments : List Adjustment
  fleet : Fleet
  gateway : GatewayDescriptor

namespace GatewayTurn

def run (turn : GatewayTurn) (cluster : SimulatedCluster) :
    Except GatewayError Outcome × SimulatedCluster :=
  cluster.runUnder turn.plan (reconcileGateway turn.adjustments turn.fleet turn.gateway)

/-- The object that a turn builds. -/
def built (turn : GatewayTurn) (cluster : SimulatedCluster) : Except GatewayError StatefulSet :=
  (cluster.runUnder turn.plan
    (desiredWorkload turn.adjustments turn.fleet turn.gateway)).1

/-- The key under which a turn stores an object, if it stores one. -/
def written? (turn : GatewayTurn) (cluster : SimulatedCluster) : Option ObjectKey :=
  match (turn.run cluster).1, turn.built cluster with
  | .ok .created, .ok desired => some desired.key
  | .ok .updated, .ok desired => some desired.key
  | _, _ => none

/-- The fleets that the objects were last written for, after a turn. -/
def authors (turn : GatewayTurn) (cluster : SimulatedCluster)
    (before : ObjectKey → Option Fleet) : ObjectKey → Option Fleet := fun key =>
  if turn.written? cluster = some key then some turn.fleet else before key

end GatewayTurn

/-- The clusters that turns of the operator lead to from one without objects, with the fleet
that each object was last written for. -/
inductive Authored : SimulatedCluster → (ObjectKey → Option Fleet) → Prop
  | start {cluster : SimulatedCluster} (hempty : cluster.objects = ∅) :
      Authored cluster fun _ => none
  | turn {cluster : SimulatedCluster} {authors : ObjectKey → Option Fleet} (turn : GatewayTurn)
      (h : Authored cluster authors) :
      Authored (turn.run cluster).2 (turn.authors cluster authors)
  /-- Secrets, the version and anything else but the objects are not the operator's. -/
  | outside {cluster other : SimulatedCluster} {authors : ObjectKey → Option Fleet}
      (h : Authored cluster authors) (hobjects : other.objects = cluster.objects) :
      Authored other authors

/-- A stored object is under its own key, and has the reference of its author. -/
def OfAuthor (authors : ObjectKey → Option Fleet) (key : ObjectKey) (live : StatefulSet) : Prop :=
  live.key = key ∧ ∃ author, authors key = some author ∧ live.OwnedFor author

section

variable {cluster : SimulatedCluster} {authors : ObjectKey → Option Fleet} {turn : GatewayTurn}

theorem GatewayTurn.exists_effect (henabled : turn.gateway.enabled = true) {outcome : Outcome}
    (hok : (turn.run cluster).1 = .ok outcome) :
    ∃ desired, turn.built cluster = .ok desired ∧ desired.OwnedFor turn.fleet ∧
      ConvergeEffect cluster desired outcome (turn.run cluster).2 := by
  have hrun : GatewayRun turn.plan cluster turn.adjustments turn.fleet turn.gateway
      (turn.run cluster) := run_reconcileGateway _ _ _ _ _
  generalize turn.run cluster = result at hrun hok ⊢
  cases hrun with
  | failed hstate => cases hok
  | converged _ hbuilt hdesired heffect =>
      obtain rfl := Except.ok.inj hok
      exact ⟨_, hbuilt, ownedFor_of_desiredResult hdesired, heffect⟩
  | retired hdisabled | absent hdisabled =>
      rw [henabled] at hdisabled
      cases hdisabled

theorem GatewayTurn.written?_of_write {desired : StatefulSet}
    (hok : (turn.run cluster).1 = .ok .created ∨ (turn.run cluster).1 = .ok .updated)
    (hbuilt : turn.built cluster = .ok desired) :
    turn.written? cluster = some desired.key := by
  unfold GatewayTurn.written?
  rcases hok with hok | hok <;> rw [hok, hbuilt]

theorem GatewayTurn.authors_eq (hcreated : (turn.run cluster).1 ≠ .ok .created)
    (hupdated : (turn.run cluster).1 ≠ .ok .updated) :
    turn.authors cluster authors = authors := by
  have hnone : turn.written? cluster = none := by
    unfold GatewayTurn.written?
    split
    · next hok _ => exact absurd hok hcreated
    · next hok _ => exact absurd hok hupdated
    · rfl
  funext key
  rw [GatewayTurn.authors, hnone, if_neg (by simp)]

theorem stores_write {after : SimulatedCluster} {desired : StatefulSet}
    (h : cluster.Stores (OfAuthor authors)) (howned : desired.OwnedFor turn.fleet)
    (hwritten : turn.written? cluster = some desired.key)
    (hwrite : SameState (cluster.write desired) after) :
    after.Stores (OfAuthor (turn.authors cluster authors)) := by
  intro key live hlive
  rw [hwrite.objects, get?_write] at hlive
  unfold OfAuthor GatewayTurn.authors
  rw [hwritten]
  split at hlive
  · next hkey =>
      obtain rfl := Option.some.inj hlive
      subst hkey
      exact ⟨rfl, turn.fleet, if_pos rfl, howned⟩
  · next hkey =>
      obtain ⟨hown, author, hauthor, howned⟩ := h key live hlive
      exact ⟨hown, author, (if_neg fun heq => hkey (Option.some.inj heq).symm).trans hauthor,
        howned⟩

/-- What a turn stores has the reference of its fleet, and it leaves the rest alone. -/
theorem stores_turn (h : cluster.Stores (OfAuthor authors)) (turn : GatewayTurn) :
    (turn.run cluster).2.Stores (OfAuthor (turn.authors cluster authors)) := by
  have hrun : GatewayRun turn.plan cluster turn.adjustments turn.fleet turn.gateway
      (turn.run cluster) := run_reconcileGateway _ _ _ _ _
  generalize hresult : turn.run cluster = result at hrun ⊢
  cases hrun with
  | failed hstate =>
      rw [GatewayTurn.authors_eq (by simp [hresult]) (by simp [hresult])]
      exact h.of_objects_eq hstate.objects
  | converged _ hbuilt hdesired heffect =>
      have howned := ownedFor_of_desiredResult hdesired
      cases heffect with
      | created habsent hwrite =>
          have hwritten := GatewayTurn.written?_of_write (.inl (by rw [hresult])) hbuilt
          exact stores_write h howned hwritten hwrite
      | updated hlive hlabels hdiffers hwrite =>
          have hwritten := GatewayTurn.written?_of_write (.inr (by rw [hresult])) hbuilt
          exact stores_write h howned hwritten hwrite
      | @deleted _ live hlive hlabels hremove =>
          rw [GatewayTurn.authors_eq (by simp [hresult]) (by simp [hresult])]
          exact (h.remove live.key).of_objects_eq hremove.objects
      | unchanged hlive hlabels hsame hquiet =>
          rw [GatewayTurn.authors_eq (by simp [hresult]) (by simp [hresult])]
          exact h.of_objects_eq hquiet.objects
  | @retired _ live _ hdisabled hbase hlive hgateway hremove =>
      rw [GatewayTurn.authors_eq (by simp [hresult]) (by simp [hresult])]
      exact (h.remove live.key).of_objects_eq hremove.objects
  | absent hdisabled hbase hother hquiet =>
      rw [GatewayTurn.authors_eq (by simp [hresult]) (by simp [hresult])]
      exact h.of_objects_eq hquiet.objects

theorem Authored.stores (h : Authored cluster authors) : cluster.Stores (OfAuthor authors) := by
  induction h with
  | start hempty =>
      intro key live hlive
      rw [hempty] at hlive
      cases hlive
  | turn turn _ ih => exact stores_turn ih turn
  | outside _ hobjects ih => exact ih.of_objects_eq hobjects

/-- A cycle of the controller is some turns, so cycles lead to no other clusters. -/
theorem Authored.cycle (h : ∃ authors, Authored cluster authors) (registry : TemplateRegistry)
    (operatorVersion : String) (adjustments : List Adjustment) (fleet : Fleet)
    (plan : FaultPlan) :
    ∃ authors, Authored
      (fleetCycle registry operatorVersion adjustments fleet plan cluster).2 authors := by
  refine fleetCycle_keeps (P := fun cluster => ∃ authors, Authored cluster authors) ?_ h
  intro gateways hall gateway hmem cluster hcluster
  obtain ⟨authors, hauthored⟩ := hcluster
  exact ⟨_, hauthored.turn ⟨plan, adjustments, fleet, gateway⟩⟩

/-- After a turn that leaves the object of a gateway in place, the object belongs to the fleet of
the turn exactly if the fleet that it was last written for has the same name and uid; and where
the turn has written the object, that is the fleet of the turn. -/
theorem belongsTo_iff_author (h : Authored cluster authors)
    (henabled : turn.gateway.enabled = true) {outcome : Outcome}
    (hok : (turn.run cluster).1 = .ok outcome) (hne : outcome ≠ .deleted) :
    ∃ desired live author, turn.built cluster = .ok desired ∧
      (turn.run cluster).2.objects.get? desired.key = some live ∧
      turn.authors cluster authors desired.key = some author ∧
      (outcome ≠ .unchanged → author = turn.fleet) ∧
      (live.BelongsTo turn.fleet ↔ author.SameIdentity turn.fleet) := by
  obtain ⟨desired, hbuilt, -, heffect⟩ := turn.exists_effect henabled hok
  obtain ⟨live, hlive, -⟩ := heffect.exists_upToDate hne
  obtain ⟨-, author, hauthor, howned⟩ := stores_turn h.stores turn desired.key live hlive
  refine ⟨desired, live, author, hbuilt, hlive, hauthor, fun hchanged => ?_, howned.belongsTo_iff⟩
  have hwrites : (turn.run cluster).1 = .ok .created ∨ (turn.run cluster).1 = .ok .updated := by
    rw [hok]
    cases outcome with
    | created => exact .inl rfl
    | updated => exact .inr rfl
    | deleted => exact absurd rfl hne
    | unchanged => exact absurd rfl hchanged
  rw [GatewayTurn.authors, GatewayTurn.written?_of_write hwrites hbuilt, if_pos rfl] at hauthor
  exact (Option.some.inj hauthor).symm

end

/-! ## A fleet made anew -/

theorem StatefulSet.upToDate_ownedBy (live built : StatefulSet) (owner : OwnerReference) :
    live.upToDate (built.ownedBy owner) = live.upToDate built := rfl

/-- After a turn that leaves an object in place, a turn that builds the same for another owner
changes nothing. -/
theorem ConvergeEffect.unchanged_of_reowned {cluster middle after : SimulatedCluster}
    {built : StatefulSet} {owner other : OwnerReference} {outcome next : Outcome}
    (h : ConvergeEffect cluster (built.ownedBy owner) outcome middle) (hne : outcome ≠ .deleted)
    (hnext : ConvergeEffect middle (built.ownedBy other) next after) :
    next = .unchanged ∧ Undisturbed middle after := by
  obtain ⟨live, hlive, hup⟩ := h.exists_upToDate hne
  rw [StatefulSet.upToDate_ownedBy] at hup
  exact hnext.of_upToDate hlive hup

def sampleFleetWithUid (uid : String) : Fleet :=
  { sampleFleet with header := { sampleFleet.header with uid := some uid } }

/-- A turn for the merged gateway of the sample fleet, in which nothing fails. -/
def sampleTurn (uid : String) : GatewayTurn where
  plan := .clear
  adjustments := []
  fleet := sampleFleetWithUid uid
  gateway := sampleGateway

/-- The merged gateway of the sample fleet, before it has an owner. -/
def sampleBuilt : StatefulSet :=
  .desired ⟨"fleet", "meridian", "", sampleFleet.pullSecret⟩ sampleGateway (Hash.ofText "a=1")
    sampleCluster.version []

theorem sampleTurn_effect (uid : String) (cluster : SimulatedCluster)
    (hsecrets : cluster.secrets = sampleCluster.secrets)
    (hversion : cluster.version = sampleCluster.version) :
    ∃ owner outcome after, (sampleFleetWithUid uid).ownerReference? = some owner ∧
      (sampleTurn uid).run cluster = (.ok outcome, after) ∧
      ConvergeEffect cluster (sampleBuilt.ownedBy owner) outcome after := by
  obtain ⟨owner, howner⟩ : ∃ owner, (sampleFleetWithUid uid).ownerReference? = some owner :=
    ⟨_, rfl⟩
  have hdesired (calls : List GatewayCall) :
      desiredResult [] (sampleFleetWithUid uid) sampleGateway cluster.secrets
        (FaultPlan.clear.seen calls cluster.version) = .ok (sampleBuilt.ownedBy owner) := by
    rw [hsecrets, hversion, FaultPlan.seen_eq_of_answersVersion FaultPlan.answersVersion_clear]
    exact desiredResult_eq rfl howner propertiesHash_sample _
  obtain ⟨outcome, after, hrun, heffect⟩ :=
    exists_effect_of_sparesOthers FaultPlan.sparesOthers_clear hdesired
  exact ⟨owner, outcome, after, howner, hrun, heffect⟩

/-- The first turn for the sample fleet creates its object, and the object belongs to it. -/
theorem sample_owns_its_gateway :
    ∃ desired live author, (sampleTurn "uid-1").built sampleCluster = .ok desired ∧
      ((sampleTurn "uid-1").run sampleCluster).2.objects.get? desired.key = some live ∧
      (sampleTurn "uid-1").authors sampleCluster (fun _ => none) desired.key = some author ∧
      live.BelongsTo (sampleFleetWithUid "uid-1") := by
  obtain ⟨owner, outcome, after, howner, hrun, heffect⟩ :=
    sampleTurn_effect "uid-1" sampleCluster rfl rfl
  have houtcome : outcome = .created := by
    cases heffect with
    | created => rfl
    | deleted hlive | updated hlive | unchanged hlive => cases hlive
  have hok : ((sampleTurn "uid-1").run sampleCluster).1 = .ok .created := by
    rw [hrun, houtcome]
  have hauthored : Authored sampleCluster fun _ => none := .start rfl
  have henabled : (sampleTurn "uid-1").gateway.enabled = true := rfl
  obtain ⟨desired, live, author, hbuilt, hlive, hauthor, hown, hiff⟩ :=
    belongsTo_iff_author hauthored henabled hok (by simp)
  refine ⟨desired, live, author, hbuilt, hlive, hauthor, hiff.2 ?_⟩
  rw [hown (by simp)]
  exact Fleet.sameIdentity_refl _

/-- A fleet whose object was created is deleted and made anew with the uid `uid-2`. The next turn
finds the object up to date, and the object keeps the uid that is gone. -/
theorem recreated_fleet_owns_nothing :
    let first := (sampleTurn "uid-1").run sampleCluster
    let second := (sampleTurn "uid-2").run first.2
    sampleCluster.objects = ∅ ∧ first.1 = .ok .created ∧ second.1 = .ok .unchanged ∧
      ∃ live, second.2.objects.get? ⟨"meridian", "fleet-multi"⟩ = some live ∧
        live.metadata.ownerReferences.map (·.uid) = ["uid-1"] ∧
        ¬ live.BelongsTo (sampleFleetWithUid "uid-2") := by
  obtain ⟨owner, outcome, middle, howner, hrun, heffect⟩ :=
    sampleTurn_effect "uid-1" sampleCluster rfl rfl
  dsimp only
  rw [hrun]
  cases heffect with
  | deleted hlive | updated hlive | unchanged hlive => cases hlive
  | created habsent hwrite =>
      obtain ⟨owner', outcome', after, -, hrun', heffect'⟩ :=
        sampleTurn_effect "uid-2" middle (hwrite.secrets.trans rfl) (hwrite.version.trans rfl)
      obtain ⟨rfl, hquiet⟩ :=
        (ConvergeEffect.created habsent hwrite).unchanged_of_reowned (by simp) heffect'
      have howned : ((sampleBuilt.ownedBy owner).atRevision 1).OwnedFor
          (sampleFleetWithUid "uid-1") := ⟨owner, howner, rfl⟩
      have huid : owner.uid = "uid-1" :=
        (Option.some.inj (Fleet.of_ownerReference howner).2.1).symm
      rw [hrun']
      refine ⟨rfl, rfl, rfl, (sampleBuilt.ownedBy owner).atRevision 1, ?_, ?_, ?_⟩
      · rw [hquiet.objects, hwrite.objects, get?_write]
        exact if_pos rfl
      · show [owner.uid] = ["uid-1"]
        rw [huid]
      · rw [howned.belongsTo_iff]
        rintro ⟨-, hsame⟩
        exact absurd hsame (by decide)

end FleetOperator
