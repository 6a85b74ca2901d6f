import FleetOperator.Json.Record
import FleetOperator.Object.Timestamp

/-!
# The header of a cluster object

Every object of the cluster carries the same metadata. The API server may leave any of it out or
write null for it, which both mean that it is not set; what it does write has to be of the right
type, also where the operator makes no use of it. Of a part that is written more than once the last
counts.
-/

namespace FleetOperator

/-- The object that another one belongs to and is collected with. -/
structure OwnerReference where
  apiVersion : String
  kind : String
  name : String
  uid : String
  controller : Option Bool
  blockOwnerDeletion : Option Bool
deriving DecidableEq, Repr, Inhabited

/-- The metadata of an object as the cluster gives it. -/
structure ObjectHeader where
  name : Option String
  generateName : Option String
  ns : Option String
  uid : Option String
  labels : Option (SortedMap String String)
  annotations : Option (SortedMap String String)
  ownerReferences : Option (List OwnerReference)
  resourceVersion : Option String
deriving DecidableEq, Inhabited

namespace OwnerReference

def encode (owner : OwnerReference) : Json :=
  .ofFields [
    ("apiVersion", some (.str owner.apiVersion)),
    ("blockOwnerDeletion", owner.blockOwnerDeletion.map .bool),
    ("controller", owner.controller.map .bool),
    ("kind", some (.str owner.kind)),
    ("name", some (.str owner.name)),
    ("uid", some (.str owner.uid))]

def decode? (value : Json) : Option OwnerReference := do
  let fields ← value.repeatedFields?
  return {
    apiVersion := (← fields.optional "apiVersion" Json.asString?).getD ""
    kind := (← fields.optional "kind" Json.asString?).getD ""
    name := (← fields.optional "name" Json.asString?).getD ""
    uid := (← fields.optional "uid" Json.asString?).getD ""
    controller := ← fields.optional "controller" Json.asBool?
    blockOwnerDeletion := ← fields.optional "blockOwnerDeletion" Json.asBool? }

end OwnerReference

namespace ObjectHeader

/-- A text that is a timestamp. -/
def asTimestamp? (value : Json) : Option Unit :=
  value.asString?.bind fun s => if Timestamp.isValid s then some () else none

/-- The record of who manages which fields, of which nothing is kept. -/
def asManagedFields? (value : Json) : Option Unit := do
  let fields ← value.repeatedFields?
  let _ ← fields.optional "apiVersion" Json.asString?
  let _ ← fields.optional "fieldsType" Json.asString?
  let _ ← fields.optional "fieldsV1" Json.asAny?
  let _ ← fields.optional "manager" Json.asString?
  let _ ← fields.optional "operation" Json.asString?
  let _ ← fields.optional "subresource" Json.asString?
  let _ ← fields.optional "time" asTimestamp?
  return ()

def decode? (value : Json) : Option ObjectHeader := do
  let fields ← value.repeatedFields?
  let _ ← fields.optional "creationTimestamp" asTimestamp?
  let _ ← fields.optional "deletionGracePeriodSeconds" Json.asInt64?
  let _ ← fields.optional "deletionTimestamp" asTimestamp?
  let _ ← fields.optional "finalizers" (Json.asListOf? Json.asString?)
  let _ ← fields.optional "generation" Json.asInt64?
  let _ ← fields.optional "managedFields" (Json.asListOf? asManagedFields?)
  let _ ← fields.optional "selfLink" Json.asString?
  return {
    name := ← fields.optional "name" Json.asString?
    generateName := ← fields.optional "generateName" Json.asString?
    ns := ← fields.optional "namespace" Json.asString?
    uid := ← fields.optional "uid" Json.asString?
    labels := ← fields.optional "labels" Json.asStringMap?
    annotations := ← fields.optional "annotations" Json.asStringMap?
    ownerReferences := ← fields.optional "ownerReferences" (Json.asListOf? OwnerReference.decode?)
    resourceVersion := ← fields.optional "resourceVersion" Json.asString? }

/-- The name of the object, or what its name was to be generated from. -/
def nameOrGenerated (header : ObjectHeader) : String :=
  (header.name.or header.generateName).getD ""

end ObjectHeader

end FleetOperator
