import FleetOperator.Capability.Error

/-!
# Why a gateway cycle fails
-/

namespace FleetOperator

/-- A built object that could not be hashed. -/
structure BuildError where
  name : String
  source : OperatorError
deriving DecidableEq, Repr, Inhabited

namespace BuildError

def message (error : BuildError) : String :=
  s!"failed to hash statefulset {error.name}: {error.source.message}"

/-- As a failure of the operator: the object does not have a written form. -/
def toOperatorError (error : BuildError) : OperatorError :=
  .serialization error.message (some "StatefulSet")

end BuildError

inductive GatewayError where
  /-- The gateway cannot be put together. -/
  | capability (error : CapabilityError)
  | build (error : BuildError)
  /-- A call to a collaborator failed, or what it gave is not enough. -/
  | operator (error : OperatorError)
  /-- The fleet cannot own the object. -/
  | ownership (name message : String)
  | missingNamespace
deriving DecidableEq, Repr, Inhabited

namespace GatewayError

def retryable : GatewayError → Bool
  | .operator error => error.retryable
  | _ => false

def message : GatewayError → String
  | .capability error => s!"capability error: {error.message}"
  | .build error => s!"build error: {error.message}"
  | .operator error => error.message
  | .ownership name message => s!"cannot set owner of {name}: {message}"
  | .missingNamespace => "missing namespace on AgentFleet"

end GatewayError

end FleetOperator
