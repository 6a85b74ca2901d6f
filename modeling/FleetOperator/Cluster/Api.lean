import FleetOperator.Cluster.Document
import FleetOperator.Cluster.Request
import FleetOperator.Cluster.Resource

/-!
# Calls to the API server

Each call is one request, and its answer is read for what the call asked for. No request is made
for an object without a name, or where the name cannot stand in a target; that is a fault like any
other. To find no object is an answer when one is looked up, and none is left to delete when one
is deleted.
-/

namespace FleetOperator.Cluster

variable {α : Type}

/-- The selector of the objects that the operator manages, as it is written in a query. -/
def managedSelector : String := "labelSelector=app.kubernetes.io%2Fmanaged-by%3Dmeridian-operator"

/-- The content type of objects that are written as they are. -/
def jsonContent : String := "application/json"

/-- The content type of the fields that the operator applies. -/
def applyContent : String := "application/apply-patch+yaml"

/-- Makes a request, if it is one, and reads the answer. -/
def exchange (request : Option ApiRequest) (decode : Json → Option α) :
    Dialogue clusterInterface (Except ClusterFault α) :=
  match request with
  | none => return .error (.unreachable "request cannot be sent")
  | some request => do
    let answer ← Dialogue.call (I := clusterInterface) request
    return ApiResponse.read decode answer

/-- The request for an object, with more text behind its name. -/
def objectRequest (verb : Verb) (resource : Resource) (ns name rest : String) :
    Option ApiRequest :=
  if name.isEmpty then none
  else ApiRequest.ofTarget? verb (resource.collection (some ns) ++ "/" ++ name ++ rest)

/-- Looks up an object. -/
def get? (resource : Resource) (ns name : String) (decode : Json → Option α) :
    Dialogue clusterInterface (Except ClusterFault (Option α)) := do
  match ← exchange (objectRequest .get resource ns name "") decode with
  | .ok found => return .ok (some found)
  | .error (.refused _ "NotFound" _) => return .ok none
  | .error fault => return .error fault

/-- The part of a request that says to write an object as it is. -/
def writing (request : Option ApiRequest) (document : Document) : Option ApiRequest :=
  request.map fun request => request.carrying jsonContent document.encode

/-- Writes an object that is not there. -/
def create (resource : Resource) (ns : String) (document : Document) :
    Dialogue clusterInterface (Except ClusterFault Document) :=
  exchange (writing (ApiRequest.ofTarget? .post (resource.collection (some ns) ++ "?")) document)
    Document.decode?

/-- Writes an object in place of the one that is there. -/
def replace (resource : Resource) (ns name : String) (document : Document) :
    Dialogue clusterInterface (Except ClusterFault Document) :=
  exchange (writing (objectRequest .put resource ns name "?") document) Document.decode?

/-- What answers a deletion: a report that says how it went, or the object that is to go. -/
def deletionReport? (value : Json) : Option Unit :=
  if !value.isReadable then none
  else if value.lastWins.member? "kind" == some (.str "Status") then do
    let fields ← value.fields? ["status", "code", "message", "reason", "details"]
    let _ ← fields.optional "status" deletionOutcome?
    let _ ← fields.defaulted "code" 0 Json.asUInt16?
    let _ ← fields.defaulted "message" "" Json.asString?
    let _ ← fields.defaulted "reason" "" Json.asString?
    let _ ← fields.optional "details" deletionDetails?
    return ()
  else (Document.decode? value).map fun _ => ()
where
  /-- How it went: a name, or an object whose one key is the name. -/
  deletionOutcome? : Json → Option Unit
    | .str name => if name = "Success" ∨ name = "Failure" then some () else none
    | .obj [(name, .null)] => deletionOutcome? (.str name)
    | _ => none
  /-- What a report adds about the object. -/
  deletionDetails? (value : Json) : Option Unit := do
    let fields ← value.fields? ["name", "group", "kind", "uid", "causes", "retryAfterSeconds"]
    let _ ← fields.defaulted "name" "" Json.asString?
    let _ ← fields.defaulted "group" "" Json.asString?
    let _ ← fields.defaulted "kind" "" Json.asString?
    let _ ← fields.defaulted "uid" "" Json.asString?
    let _ ← fields.defaulted "causes" [] (Json.asListOf? deletionCause?)
    let _ ← fields.defaulted "retryAfterSeconds" 0 fun seconds =>
      seconds.asInt?.bind fun n => if 0 ≤ n ∧ n < UInt32.size then some n else none
    return ()
  /-- One of the causes that a report names. -/
  deletionCause? (value : Json) : Option Unit := do
    let fields ← value.fields? ["reason", "message", "field"]
    let _ ← fields.defaulted "reason" "" Json.asString?
    let _ ← fields.defaulted "message" "" Json.asString?
    let _ ← fields.defaulted "field" "" Json.asString?
    return ()

/-- Deletes an object, whatever its version, and what belongs to it later on. -/
def delete (resource : Resource) (ns name : String) :
    Dialogue clusterInterface (Except ClusterFault Unit) := do
  let options : Json := .obj [("propagationPolicy", .str "Background")]
  let request := (objectRequest .delete resource ns name "?").map (·.carrying jsonContent options)
  match ← exchange request deletionReport? with
  | .error (.refused 404 _ _) => return .ok ()
  | outcome => return outcome

/-- An answer to a listing. -/
structure Listing (α : Type) where
  items : List α
  /-- The version of the collection. -/
  version : Option String
  /-- What to ask with for the objects that did not fit into the answer. -/
  continuation : Option String
deriving Inhabited

/-- The answer to a listing that a document is. A text that is empty counts as not set. -/
def listing? (decode : Json → Option α) (value : Json) : Option (Listing α) := do
  let names := ["metadata", "items"]
  guard (value.othersReadable names)
  let fields ← value.fieldsByName? names
  let (version, continuation) ← fields.defaulted "metadata" (none, none) fun header => do
    let fields ← header.repeatedFields?
    let _ ← fields.optional "remainingItemCount" Json.asInt64?
    let _ ← fields.optional "selfLink" Json.asString?
    let version ← fields.optional "resourceVersion" Json.asString?
    let continuation ← fields.optional "continue" Json.asString?
    return (version.filter (!·.isEmpty), continuation.filter (!·.isEmpty))
  let items ← fields.required "items" (Json.nullable (Json.asListOf? decode))
  return ⟨items.getD [], version, continuation⟩

/-- The objects of a namespace that the operator manages. -/
def listManaged (resource : Resource) (ns : String) :
    Dialogue clusterInterface (Except ClusterFault (List Document)) := do
  let target := resource.collection (some ns) ++ "?&" ++ managedSelector
  let answer ← exchange (ApiRequest.ofTarget? .get target) (listing? Document.decode?)
  return answer.map (·.items)

/-- Applies a secret: its fields become those of the object, whoever set them before. -/
def applySecret (secret : Secret) : Dialogue clusterInterface (Except ClusterFault SecretData) :=
  let query := "?&force=true&fieldManager=" ++ fieldManager
  let request := objectRequest .patch .secrets secret.ns secret.name query
  exchange (request.map (·.carrying applyContent secret.encode)) SecretData.decode?

/-- Asks the API server for its version. -/
def serverVersion : Dialogue clusterInterface (Except ClusterFault ServerVersion) :=
  exchange (ApiRequest.ofTarget? .get "/version") ServerVersion.decode?

end FleetOperator.Cluster
