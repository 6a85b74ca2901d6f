import FleetOperator.Error

/-!
# Why a sweep does not take place
-/

namespace FleetOperator

inductive SweepError where
  /-- A secret or the cluster cannot be read. -/
  | operator (error : OperatorError)
  /-- The distribution service cannot be reached. -/
  | http (url message : String)
  /-- The distribution service answers that it does not serve the request. -/
  | status (url : String) (code : Nat)
  /-- The distribution service answers something else than what was asked for. -/
  | invalidResponse (url message : String)
  /-- No client can be set up from the settings of the fleet. -/
  | client (message : String)
  | missingNamespace
  | task (message : String)
deriving DecidableEq, Repr, Inhabited

namespace SweepError

def message : SweepError → String
  | .operator error => error.message
  | .http url message => s!"request to {url} failed: {message}"
  | .status url code => s!"request to {url} returned HTTP {code}"
  | .invalidResponse url message => s!"invalid response from {url}: {message}"
  | .client message => s!"failed to build distribution client: {message}"
  | .missingNamespace => "missing namespace on AgentFleet"
  | .task message => s!"garbage collection task failed: {message}"

/-- As a failure of the operator: the service is a backend, an answer that makes no sense and a
fleet without namespace are not valid. -/
def toOperatorError (error : SweepError) : OperatorError :=
  match error with
  | .operator error => error
  | .http url message => .backendUnavailable url message
  | .status url code => .backendUnavailable url s!"HTTP {code}"
  | .missingNamespace => .validation OperatorError.unknownContext error.message
  | .invalidResponse .. => .validation OperatorError.unknownContext error.message
  | .client _ => .internal error.message OperatorError.unknownContext
  | .task _ => .internal error.message OperatorError.unknownContext

end SweepError

end FleetOperator
