import FleetOperator.Disk.Memory
import FleetOperator.Object.Key
import FleetOperator.Sweep.Controller

/-!
# A node in memory

The collaborators of a sweep with their answers given beforehand, over a disk in memory.
-/

namespace FleetOperator

structure SimulatedNode (Content : Type) where
  secrets : SortedMap ObjectKey SecretData
  /-- What every reading of a secret fails with, if it is to fail. -/
  secretFailure : Option String
  client : Except SweepError Unit
  connection : Except SweepError ConnectionInfo
  latest : Except SweepError String
  disk : MemoryDisk Content
  /-- The calls so far but those to the disk, the latest first. -/
  calls : List SweepCall

namespace SimulatedNode

variable {Content : Type}

/-- What a secret reads as. -/
def readSecret (node : SimulatedNode Content) (ns name : String) :
    Except OperatorError (Option SecretData) :=
  match node.secretFailure with
  | some message => .error (.backendUnavailable s!"get secret {ns}/{name}" message)
  | none => .ok (node.secrets.get? ⟨ns, name⟩)

/-- Puts a call on record and answers it. -/
def answer (call : SweepCall) (node : SimulatedNode Content) :
    call.Answer × SimulatedNode Content :=
  let recorded := { node with calls := call :: node.calls }
  match call with
  | .readSecret ns name => (node.readSecret ns name, recorded)
  | .buildClient _ => (node.client, recorded)
  | .connectionInfo _ => (node.connection, recorded)
  | .latestVersion .. => (node.latest, recorded)
  | .disk call =>
    let (answer, disk) := node.disk.answer call
    (answer, { node with disk })

/-- Runs a program of sweep calls on the node. -/
def run {α : Type} (program : Dialogue sweepInterface α) (node : SimulatedNode Content) :
    α × SimulatedNode Content :=
  Dialogue.run (I := sweepInterface) answer program node

end SimulatedNode

end FleetOperator
