import FleetOperator.Error
import FleetOperator.Gateway.Desired
import FleetOperator.Object.Header
import FleetOperator.Secret
import FleetOperator.Workload.Codec

/-!
# Objects on their way to and from the cluster

The API server deals in documents: metadata of one form for all kinds, and whatever else the
object has. A stateful set travels as such a document. What comes back may carry null for parts
that are not set, and more than the operator knows of; a document that is none of a stateful set
for lack of a name, a namespace or a kind fails here and not in the exchange.
-/

namespace FleetOperator

/-- An object of whatever kind. -/
structure Document where
  header : ObjectHeader
  /-- All members but the metadata. -/
  others : List (String × Json)
deriving Inhabited

namespace ObjectHeader

/-- The metadata with nothing set. -/
def unset : ObjectHeader := ⟨none, none, none, none, none, none, none, none⟩

def encode (header : ObjectHeader) : Json :=
  .ofFields [
    ("annotations", header.annotations.map Json.ofStringMap),
    ("generateName", header.generateName.map .str),
    ("labels", header.labels.map Json.ofStringMap),
    ("name", header.name.map .str),
    ("namespace", header.ns.map .str),
    ("ownerReferences", header.ownerReferences.map fun owners =>
      .arr (owners.map OwnerReference.encode)),
    ("resourceVersion", header.resourceVersion.map .str),
    ("uid", header.uid.map .str)]

end ObjectHeader

namespace Document

/-- Takes the version and the kind out of members, with what has been found of them so far. Where
one of them is written twice or is no text, neither counts as found, and what comes after it is
left where it is. -/
def takeType (version kind : Option String) :
    List (String × Json) → Option (String × String) × List (String × Json)
  | [] => (version.bind fun version => kind.map (version, ·), [])
  | (key, value) :: rest =>
    if key = "apiVersion" then
      match version, value with
      | none, .str s => takeType (some s) kind rest
      | _, _ => (none, rest)
    else if key = "kind" then
      match kind, value with
      | none, .str s => takeType version (some s) rest
      | _, _ => (none, rest)
    else
      let (type, others) := takeType version kind rest
      (type, (key, value) :: others)

def decode? (value : Json) : Option Document := do
  guard (value.othersReadable ["metadata"])
  let fields ← value.fieldsByName? ["metadata"]
  let header ← fields.defaulted "metadata" .unset ObjectHeader.decode?
  let members ← value.asMembers?
  let (type, others) := takeType none none (members.filter (·.1 ≠ "metadata"))
  let typeMembers := type.toList.flatMap fun (version, kind) =>
    [("apiVersion", .str version), ("kind", .str kind)]
  return ⟨header, typeMembers ++ Json.dropShadowed (Json.lastWinsMembers others)⟩

def encode (document : Document) : Json :=
  .obj (document.others ++ [("metadata", document.header.encode)])

/-- The stateful set that a document is. -/
def toWorkload (document : Document) : Except OperatorError StatefulSet :=
  match StatefulSet.decode? document.encode with
  | some workload => .ok workload
  | none => .error (.serialization "not a stateful set" (some "StatefulSet"))

end Document

/-- A value that is left out when it is empty. -/
def unlessEmpty {α : Type} (isEmpty : α → Bool) (value : α) : Option α :=
  if isEmpty value then none else some value

/-- The document that a stateful set travels as. -/
def StatefulSet.toDocument (workload : StatefulSet) : Document where
  header := { ObjectHeader.unset with
    name := some workload.name
    ns := some workload.ns
    labels := unlessEmpty SortedMap.isEmpty workload.metadata.labels
    annotations := unlessEmpty SortedMap.isEmpty workload.metadata.annotations
    ownerReferences := unlessEmpty List.isEmpty workload.metadata.ownerReferences
    resourceVersion := workload.metadata.resourceVersion }
  others := [
    ("apiVersion", .str workload.apiVersion),
    ("kind", .str workload.kind),
    ("spec", workload.spec.encode)]

/-- One text and no other. -/
def asExpectedText? (expected : String) (value : Json) : Option Unit :=
  if value.asString? = some expected then some () else none

/-- The bytes of a secret under a key; null stands for none. -/
def secretBytes? : Json → Option (List UInt8)
  | .null => some []
  | value => value.asString?.bind Text.Base64.decode?

/-- The payload of a secret. -/
def SecretData.decode? (value : Json) : Option SecretData := do
  let fields ← value.repeatedFields?
  let _ ← fields.last? "apiVersion" (asExpectedText? "v1")
  let _ ← fields.last? "kind" (asExpectedText? "Secret")
  let _ ← fields.optional "immutable" Json.asBool?
  let _ ← fields.optional "metadata" ObjectHeader.decode?
  let _ ← fields.optional "stringData" Json.asStringMap?
  let _ ← fields.optional "type" Json.asString?
  let data ← fields.optional "data" fun data => do
    (← data.asMembers?).mapM fun (key, bytes) => (secretBytes? bytes).map (key, ·)
  return .ofList (data.getD [])

/-- The version of a cluster in what the API server says about itself. -/
def ServerVersion.decode? (value : Json) : Option ServerVersion := do
  let names := ["buildDate", "compiler", "gitCommit", "gitTreeState", "gitVersion", "goVersion",
    "major", "minor", "platform"]
  let fields ← value.repeatedFields?
  let _ ← names.mapM fun name => fields.optional name Json.asString?
  return {
    major := (← fields.optional "major" Json.asString?).getD ""
    minor := (← fields.optional "minor" Json.asString?).getD "" }

end FleetOperator
