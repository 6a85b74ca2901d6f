/-!
# Configuration of a module

What a gateway module needs around its pods. A gateway of several modules needs what any of them
needs, and runs under the service account of the last module that names an owner for it.
-/

namespace FleetOperator

structure Configuration where
  setDnsEntryPoint : Bool
  setReadinessPort : Bool
  setCommunicationPort : Bool
  createService : Bool
  /-- The capability that owns the service account and the secret with the custom properties. -/
  serviceAccountOwner : String
deriving DecidableEq, Repr, Inhabited

namespace Configuration

/-- The configuration of a module that needs nothing. -/
def none : Configuration := ⟨false, false, false, false, ""⟩

/-- What two modules need together; of two owners the second counts. -/
def merge (first second : Configuration) : Configuration where
  setDnsEntryPoint := first.setDnsEntryPoint || second.setDnsEntryPoint
  setReadinessPort := first.setReadinessPort || second.setReadinessPort
  setCommunicationPort := first.setCommunicationPort || second.setCommunicationPort
  createService := first.createService || second.createService
  serviceAccountOwner :=
    if second.serviceAccountOwner.isEmpty then first.serviceAccountOwner
    else second.serviceAccountOwner

end Configuration

end FleetOperator
