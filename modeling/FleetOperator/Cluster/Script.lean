import FleetOperator.Cluster.Request
import FleetOperator.Json.Printer

/-!
# A scripted API server

A server whose answers are written down beforehand. Each route has a list of replies, of which
every request takes one; the last one stays. What has no route is not found. A request for a
stream of changes is never answered and takes no reply. Every request is on record with the time
at which it came.
-/

namespace FleetOperator

/-- What comes back for a request. -/
inductive Reply where
  | response (answer : ApiResponse)
  /-- The connection breaks. -/
  | refuse
deriving DecidableEq, Repr, Inhabited

/-- What the replies of a script are for. -/
structure Route where
  verb : Verb
  path : String
deriving DecidableEq, Repr, Inhabited

structure ScriptedServer where
  replies : List (Route × List Reply)
  /-- Seconds since the start. -/
  clock : Nat
  /-- The requests so far with their times, the latest first. -/
  requests : List (Nat × ApiRequest)
deriving Inhabited

namespace Reply

def toAnswer : Reply → Option ApiResponse
  | .response answer => some answer
  | .refuse => none

/-- The reply to a request that has no route. -/
def missing : Reply :=
  let report : Json := .obj [("kind", .str "Status"), ("status", .str "Failure"),
    ("reason", .str "NotFound"), ("code", .int 404)]
  .response ⟨404, report.text⟩

end Reply

namespace ScriptedServer

/-- A server at the start of a script. -/
def start (replies : List (Route × List Reply)) : ScriptedServer := ⟨replies, 0, []⟩

/-- The script of a route without the reply that has been taken. -/
def advance : List Reply → List Reply
  | _ :: next :: rest => next :: rest
  | replies => replies

/-- Takes the next reply for a route. -/
def take (server : ScriptedServer) (route : Route) : Reply × ScriptedServer :=
  match server.replies.lookup route with
  | some (reply :: rest) =>
    let replies := server.replies.map fun entry =>
      if entry.1 = route then (entry.1, advance (reply :: rest)) else entry
    (reply, { server with replies })
  | _ => (.missing, server)

/-- Puts a request on record and answers it. -/
def answer (request : ApiRequest) (server : ScriptedServer) :
    Option ApiResponse × ScriptedServer :=
  let server := { server with requests := (server.clock, request) :: server.requests }
  if request.watch then (none, server)
  else
    let (reply, server) := server.take ⟨request.verb, request.path⟩
    (reply.toAnswer, server)

/-- Runs a program of requests against the server. -/
def run {α : Type} (program : Dialogue clusterInterface α) (server : ScriptedServer) :
    α × ScriptedServer :=
  Dialogue.run (I := clusterInterface) answer program server

end ScriptedServer

end FleetOperator
