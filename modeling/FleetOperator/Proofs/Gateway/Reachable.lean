import FleetOperator.Proofs.Gateway.Slots

/-!
# Clusters that only the operator writes to

Cycles of any gateways of any fleets, in any order and with any failures,
start from a cluster without objects; between them everything but the objects
may change. A cycle writes nothing but what it wants, so whatever is stored
has been wanted by a cycle, and is stored under its own key
(`Reachable.stores_written`).
-/

namespace FleetOperator

open SimulatedCluster

/-- The clusters that are come to from one without objects, if only the operator writes, with
adjustments of some kind. -/
inductive Reachable (allowed : Adjustment → Prop) : SimulatedCluster → Prop
  | start {cluster : SimulatedCluster} (hempty : cluster.objects = ∅) : Reachable allowed cluster
  | converge {cluster : SimulatedCluster} (plan : FaultPlan) {adjustments : List Adjustment}
      (hallowed : ∀ adjust ∈ adjustments, allowed adjust) (fleet : Fleet)
      (gateway : GatewayDescriptor) (h : Reachable allowed cluster) :
      Reachable allowed (cluster.runUnder plan (convergeGateway adjustments fleet gateway)).2
  | retire {cluster : SimulatedCluster} (plan : FaultPlan) (fleet : Fleet)
      (gateway : GatewayDescriptor) (h : Reachable allowed cluster) :
      Reachable allowed (cluster.runUnder plan (retireGateway fleet gateway)).2
  /-- Secrets, the version and anything else but the objects are not the operator's. -/
  | outside {cluster other : SimulatedCluster} (h : Reachable allowed cluster)
      (hobjects : other.objects = cluster.objects) : Reachable allowed other

/-- An object that some cycle has wanted and stored. -/
structure Written (allowed : Adjustment → Prop) (key : ObjectKey) (live : StatefulSet) : Prop where
  key_eq : live.key = key
  exists_desired : ∃ adjustments fleet gateway secrets version desired revision,
    (∀ adjust ∈ adjustments, allowed adjust) ∧
      desiredResult adjustments fleet gateway secrets version = .ok desired ∧
      live = desired.atRevision revision

variable {allowed : Adjustment → Prop} {cluster after : SimulatedCluster}

/-- What a cycle does to the objects, it does with the object that it wants. -/
theorem ConvergeEffect.stores {P : ObjectKey → StatefulSet → Prop} {desired : StatefulSet}
    {outcome : Outcome} (heffect : ConvergeEffect cluster desired outcome after)
    (h : cluster.Stores P) (hnew : ∀ revision, P desired.key (desired.atRevision revision)) :
    after.Stores P := by
  cases heffect with
  | created habsent hwrite => exact (h.write (hnew _)).of_objects_eq hwrite.objects
  | @deleted _ live hlive hlabels hremove =>
      exact (h.remove live.key).of_objects_eq hremove.objects
  | updated hlive hlabels hdiffers hwrite => exact (h.write (hnew _)).of_objects_eq hwrite.objects
  | unchanged hlive hlabels hsame hquiet => exact h.of_objects_eq hquiet.objects

theorem stores_written_converge (h : cluster.Stores (Written allowed)) (plan : FaultPlan)
    {adjustments : List Adjustment} (hallowed : ∀ adjust ∈ adjustments, allowed adjust)
    (fleet : Fleet) (gateway : GatewayDescriptor) :
    (cluster.runUnder plan (convergeGateway adjustments fleet gateway)).2.Stores
      (Written allowed) := by
  have hrun := run_convergeGateway plan cluster adjustments fleet gateway
  generalize cluster.runUnder plan (convergeGateway adjustments fleet gateway) = result at hrun ⊢
  cases hrun with
  | failed hstate hcause => exact h.of_objects_eq hstate.objects
  | settled hbuilt hdesired heffect =>
      refine heffect.stores h fun revision => ⟨rfl, ?_⟩
      exact ⟨_, _, _, _, _, _, revision, hallowed, hdesired, rfl⟩

theorem stores_retire {P : ObjectKey → StatefulSet → Prop} (h : cluster.Stores P)
    (plan : FaultPlan) (fleet : Fleet) (gateway : GatewayDescriptor) :
    (cluster.runUnder plan (retireGateway fleet gateway)).2.Stores P := by
  have hrun := run_retireGateway plan cluster fleet gateway
  generalize cluster.runUnder plan (retireGateway fleet gateway) = result at hrun ⊢
  cases hrun with
  | failed hstate hcause => exact h.of_objects_eq hstate.objects
  | @deleted base live after hbase hlive hgateway hremove =>
      exact (h.remove live.key).of_objects_eq hremove.objects
  | unchanged hbase hother hquiet => exact h.of_objects_eq hquiet.objects

/-- What the cycle of a gateway stores, it has built; the rest was there before. -/
theorem GatewayRun.stores {P : ObjectKey → StatefulSet → Prop} {plan : FaultPlan}
    {adjustments : List Adjustment} {fleet : Fleet} {gateway : GatewayDescriptor}
    {result : Except GatewayError Outcome × SimulatedCluster}
    (hrun : GatewayRun plan cluster adjustments fleet gateway result) (h : cluster.Stores P)
    (hnew : ∀ version desired, gateway.enabled = true →
      desiredResult adjustments fleet gateway cluster.secrets version = .ok desired →
      ∀ revision, P desired.key (desired.atRevision revision)) : result.2.Stores P := by
  cases hrun with
  | failed hstate => exact h.of_objects_eq hstate.objects
  | converged henabled hbuilt hdesired heffect =>
      exact heffect.stores h (hnew _ _ henabled hdesired)
  | @retired base live after hdisabled hbase hlive hgateway hremove =>
      exact (h.remove live.key).of_objects_eq hremove.objects
  | absent hdisabled hbase hother hquiet => exact h.of_objects_eq hquiet.objects

/-- Whatever is stored has been wanted by a cycle. -/
theorem Reachable.stores_written (h : Reachable allowed cluster) :
    cluster.Stores (Written allowed) := by
  induction h with
  | start hempty =>
      intro key live hlive
      rw [hempty] at hlive
      cases hlive
  | converge plan hallowed fleet gateway _ ih =>
      exact stores_written_converge ih plan hallowed fleet gateway
  | retire plan fleet gateway _ ih => exact stores_retire ih plan fleet gateway
  | outside _ hobjects ih => exact ih.of_objects_eq hobjects

end FleetOperator
