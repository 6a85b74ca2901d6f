import FleetOperator.Error
import FleetOperator.Object.Header
import FleetOperator.SortedMap
import FleetOperator.Text.Base64
import FleetOperator.Text.Blank
import FleetOperator.Text.Utf8

/-!
# Secrets

A secret holds bytes under keys. What the operator reads out of one is a text, taken without the
blanks around it; a secret or a key that is not there is named by the failure.
-/

namespace FleetOperator

/-- The payload of a secret. -/
abbrev SecretData := SortedMap String (List UInt8)

/-- The bytes under a key of what was read for a secret. -/
def secretValue (ns name key : String) : Option SecretData → Except OperatorError (List UInt8)
  | none => .error (.missingReference ns name none)
  | some data =>
    match data.get? key with
    | none => .error (.missingReference ns name (some key))
    | some bytes => .ok bytes

/-- The text under a key of what was read for a secret. -/
def secretText (ns name key : String) (found : Option SecretData) : Except OperatorError String :=
  (secretValue ns name key found).map fun bytes => Text.trimBlanks (Text.ofBytesLossy bytes)

/-- A secret as the operator writes it. -/
structure Secret where
  name : String
  ns : String
  labels : SortedMap String String
  ownerReferences : List OwnerReference
  data : SecretData
deriving DecidableEq, Inhabited

/-- The written form of a secret, with its payload in base 64. -/
def Secret.encode (secret : Secret) : Json :=
  .ofFields [
    ("apiVersion", some (.str "v1")),
    ("kind", some (.str "Secret")),
    ("data", some (.obj (secret.data.toList.map fun (key, bytes) =>
      (key, .str (Text.Base64.encode bytes))))),
    ("metadata", some (.ofFields [
      ("labels", some (Json.ofStringMap secret.labels)),
      ("name", some (.str secret.name)),
      ("namespace", some (.str secret.ns)),
      ("ownerReferences", some (.arr (secret.ownerReferences.map OwnerReference.encode)))])),
    ("type", some (.str "Opaque"))]

end FleetOperator
