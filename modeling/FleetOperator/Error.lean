/-!
# What can go wrong with the cluster

Every failure names the object or the call that it belongs to. A failure is retryable when
another attempt can succeed without anybody changing the fleet or its secrets.
-/

namespace FleetOperator

/-- How the API server failed a request. -/
inductive ClusterFault where
  /-- It answered with an error of its own. -/
  | refused (code : Nat) (reason message : String)
  /-- There was no answer to speak of. -/
  | unreachable (message : String)
deriving DecidableEq, Repr, Inhabited

namespace ClusterFault

/-- An answer in the four hundreds repeats itself until the request changes. -/
def retryable : ClusterFault → Bool
  | .refused code _ _ => !(400 ≤ code && code < 500)
  | .unreachable _ => true

def message : ClusterFault → String
  | .refused code reason message => s!"{message}: {reason} ({code})"
  | .unreachable message => message

end ClusterFault

/-- A failure of the operator. -/
inductive OperatorError where
  | cluster (fault : ClusterFault)
  /-- A secret, or a key in it, is not there. -/
  | missingReference (ns name : String) (key : Option String)
  /-- A call to the cluster or to the distribution service failed. -/
  | backendUnavailable (context message : String)
  /-- A document does not have the form of its kind. -/
  | serialization (message : String) (kind : Option String)
  /-- The fleet cannot be deployed as it is. -/
  | validation (resource message : String)
  | internal (message context : String)
deriving DecidableEq, Repr, Inhabited

namespace OperatorError

/-- The resource or context of a failure that was given none. -/
def unknownContext : String := "unknown"

def retryable : OperatorError → Bool
  | .cluster fault => fault.retryable
  | .missingReference .. => false
  | .backendUnavailable .. => true
  | .serialization .. => false
  | .validation .. => false
  | .internal .. => true

/-- The call or the place that a failure was seen at. -/
def context? : OperatorError → Option String
  | .backendUnavailable context _ => some context
  | .internal _ context => some context
  | _ => none

def message : OperatorError → String
  | .cluster fault => s!"kubernetes error: {fault.message}"
  | .missingReference ns name none => s!"missing reference {ns}/{name}"
  | .missingReference ns name (some key) => s!"missing reference {ns}/{name} (key '{key}')"
  | .backendUnavailable context message => s!"backend unavailable [{context}]: {message}"
  | .serialization message _ => s!"serialization error: {message}"
  | .validation resource message => s!"validation error for {resource}: {message}"
  | .internal message context => s!"internal error [{context}]: {message}"

end OperatorError

end FleetOperator
