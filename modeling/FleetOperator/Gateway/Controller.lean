import FleetOperator.Capability.Legacy
import FleetOperator.Gateway.Cycle

/-!
# The gateway controller

A fleet has three gateways, of which each should exist or not. The controller takes them in turn
and stops at the first that fails; when it comes back depends on whether anything changed.
-/

namespace FleetOperator

/-- Seconds after which the controller comes back to a fleet that it has changed. -/
def changedRequeue : Nat := 30

/-- Seconds after which the controller comes back to a fleet with nothing to do. -/
def steadyRequeue : Nat := 300

/-- Seconds after which the controller comes back to a fleet that it failed on. -/
def failedRequeue : Nat := 30

/-- The cycle of one gateway. -/
def reconcileGateway (adjustments : List Adjustment) (fleet : Fleet)
    (gateway : GatewayDescriptor) : GatewayProgram Outcome :=
  if gateway.enabled then convergeGateway adjustments fleet gateway
  else retireGateway fleet gateway

/-- The cycle of a fleet, with the seconds until the next one. -/
def reconcileFleet (registry : TemplateRegistry) (operatorVersion : String)
    (adjustments : List Adjustment) (fleet : Fleet) : GatewayProgram Nat := do
  let gateways ← GatewayProgram.ofExcept .capability
    (GatewayDescriptor.all fleet registry operatorVersion)
  let outcomes ← gateways.mapM (reconcileGateway adjustments fleet)
  return if outcomes.any Outcome.isChange then changedRequeue else steadyRequeue

end FleetOperator
