import FleetOperator.Error
import FleetOperator.Fleet.Basic

/-!
# Why a gateway cannot be put together
-/

namespace FleetOperator

inductive CapabilityError where
  /-- There is no template for a capability. -/
  | unknownCapability (kind : CapabilityKind)
  /-- Two capabilities of one gateway have templates of one module. -/
  | duplicateModule (name : String)
  /-- The fleet lacks something that every gateway needs. -/
  | invalidFleet (fleet message : String)
deriving DecidableEq, Repr, Inhabited

namespace CapabilityError

def message : CapabilityError → String
  | .unknownCapability kind => s!"unknown capability {kind.name}: no template registered"
  | .duplicateModule name => s!"duplicate module {name} in capability list"
  | .invalidFleet fleet message => s!"invalid fleet {fleet}: {message}"

/-- What the failure is about. -/
def resource : CapabilityError → String
  | .unknownCapability kind => kind.name
  | .duplicateModule name => name
  | .invalidFleet fleet _ => fleet

/-- As a failure of the operator: the fleet is not valid. -/
def toOperatorError (error : CapabilityError) : OperatorError :=
  .validation error.resource error.message

end CapabilityError

end FleetOperator
