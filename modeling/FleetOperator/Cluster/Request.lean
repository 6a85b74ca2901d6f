import FleetOperator.Dialogue
import FleetOperator.Error
import FleetOperator.Json.Parser
import FleetOperator.Json.Record

/-!
# Requests to the API server

A request goes to a target, which is written as one text: a path, and a query behind a question
mark. What stands behind a hash is not sent. The server answers with a status and a body, or the
connection breaks and there is no answer.

An answer with a status from 400 on is a refusal. If its body says in the form of the API what is
wrong, then that counts, also where it contradicts the status.
-/

namespace FleetOperator

/-- What is to be done with what a request names. -/
inductive Verb where
  | get
  | post
  | put
  | patch
  | delete
deriving DecidableEq, Repr, Inhabited

structure ApiRequest where
  verb : Verb
  path : String
  query : String
  contentType : Option String
  body : Option Json
  /-- Whether the answer is a stream of changes, which stays open, instead of a document. -/
  watch : Bool
deriving Inhabited

structure ApiResponse where
  status : Nat
  body : String
deriving DecidableEq, Repr, Inhabited

/-- The exchange of requests for responses, where there may be none. -/
def clusterInterface : Interface where
  Call := ApiRequest
  Answer _ := Option ApiResponse

namespace ApiRequest

/-- Whether a character may stand in a path. -/
def isPathChar (c : Char) : Bool :=
  0x20 < c.toNat && c.toNat ≠ 0x7F && !(['<', '>', '\x60'].contains c)

/-- Whether a character may stand in a query. -/
def isQueryChar (c : Char) : Bool :=
  0x20 < c.toNat && c.toNat ≠ 0x7F && !(['"', '<', '>'].contains c)

/-- How many bytes a target may have. -/
def longestTarget : Nat := 65534

/-- The path and the query of a target; none where a character has no place in it. -/
def splitTarget? (target : String) : Option (String × String) :=
  let sent := target.toList.takeWhile (· ≠ '#')
  let path := sent.takeWhile (· ≠ '?')
  let query := sent.drop (path.length + 1)
  if target.utf8ByteSize ≤ longestTarget ∧ path.all isPathChar ∧ query.all isQueryChar then
    some (String.ofList path, String.ofList (if query.head? = some '&' then query.tail else query))
  else none

/-- The request without a body for a target. -/
def ofTarget? (verb : Verb) (target : String) : Option ApiRequest :=
  (splitTarget? target).map fun (path, query) => ⟨verb, path, query, none, none, false⟩

/-- The request with a body of its own. -/
def carrying (request : ApiRequest) (contentType : String) (body : Json) : ApiRequest :=
  { request with contentType := some contentType, body := some body }

end ApiRequest

/-- What the API server says about a request that it refuses. -/
def ClusterFault.decode? (value : Json) : Option ClusterFault := do
  let fields ← value.fields? ["status", "message", "reason", "code"]
  let _ ← fields.required "status" Json.asString?
  let message ← fields.defaulted "message" "" Json.asString?
  let reason ← fields.defaulted "reason" "" Json.asString?
  let code ← fields.required "code" Json.asUInt16?
  return .refused code.toNat reason message

namespace ApiResponse

def isRefusal (response : ApiResponse) : Bool := 400 ≤ response.status && response.status < 600

/-- The fault that a refusal stands for. -/
def fault (response : ApiResponse) : ClusterFault :=
  ((Json.parseRaw? response.body).bind ClusterFault.decode?).getD
    (.refused response.status "Unknown" response.body)

/-- What there is to be read in an answer. -/
def read {α : Type} (decode : Json → Option α) : Option ApiResponse → Except ClusterFault α
  | none => .error (.unreachable "no answer")
  | some response =>
    if response.isRefusal then .error response.fault
    else match (Json.parseRaw? response.body).bind decode with
      | some value => .ok value
      | none => .error (.unreachable "answer cannot be read")

end ApiResponse

end FleetOperator
