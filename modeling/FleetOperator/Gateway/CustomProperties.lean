import FleetOperator.Capability.Compose
import FleetOperator.Secret

/-!
# The secret with custom properties

Custom properties that a fleet writes out are kept in a secret of the operator, which the pods
mount. Custom properties by reference lie in a secret of the user, and nothing is written.
-/

namespace FleetOperator

/-- The secret for custom properties that are written out. -/
def customPropertiesSecret (owner : OwnerReference) (ns serviceAccountOwner value : String) :
    Secret where
  name := customPropertiesSecretName owner.name serviceAccountOwner
  ns := ns
  labels := .ofList [(labelManagedBy, fieldManager)]
  ownerReferences := [owner]
  data := .ofList [(customPropertiesKey, Text.bytes value)]

/-- The secret to write for custom properties, if there is one to write. -/
def secretToApply? (owner : OwnerReference) (ns serviceAccountOwner : String)
    (properties : ValueSource) : Option Secret :=
  match properties.reference? with
  | some _ => none
  | none => some (customPropertiesSecret owner ns serviceAccountOwner properties.value)

end FleetOperator
