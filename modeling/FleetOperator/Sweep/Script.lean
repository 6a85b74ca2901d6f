import FleetOperator.Cluster.Script
import FleetOperator.Disk.Linked
import FleetOperator.Sweep.Node

/-!
# A scripted node

A node whose API server and distribution service answer what is written down beforehand. The
service takes one connection for each answer that is left, and none after that. No proxy of it
opens tunnels.
-/

namespace FleetOperator

structure ScriptedNode where
  server : ScriptedServer
  /-- What the service still has to answer; it breaks a connection where there is nothing. -/
  answers : List (Option ServiceResponse)
  /-- The requests that the service has seen, the latest first. -/
  served : List ServiceRequest
  disk : LinkedDisk
deriving Inhabited

namespace ScriptedNode

/-- A node with an empty disk. -/
def start (replies : List (Route × List Reply)) : ScriptedNode :=
  ⟨.start replies, [], [], .dir []⟩

/-- Answers a call. -/
def answer (call : NodeCall) (node : ScriptedNode) : call.Answer × ScriptedNode :=
  match call with
  | .cluster request =>
    let (answer, server) := node.server.answer request
    (answer, { node with server })
  | .service request =>
    match request.passage, node.answers with
    | .tunnelled, _ | _, [] => (none, node)
    | _, answer :: answers => (answer, { node with answers, served := request :: node.served })
  | .disk call =>
    let (answer, disk) := LinkedDisk.answer call node.disk
    (answer, { node with disk })

/-- Runs a program on the node. -/
def run {α : Type} (program : Dialogue nodeInterface α) (node : ScriptedNode) :
    α × ScriptedNode :=
  Dialogue.run (I := nodeInterface) answer program node

/-- The node at another time. -/
def atTime (seconds : Nat) (node : ScriptedNode) : ScriptedNode :=
  { node with server := { node.server with clock := seconds } }

end ScriptedNode

end FleetOperator
