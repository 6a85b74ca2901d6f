import FleetOperator.Disk.Interface
import FleetOperator.Disk.Path
import FleetOperator.Disk.Tree

/-!
# A disk in memory

A tree without links behind the calls of a sweep. Directories are listed in the order of their
names, or in the reverse of it, and chosen calls can be made to fail; a call that fails changes
nothing, and is on record like any other.
-/

namespace FleetOperator

/-- What a call does, whatever its path. -/
inductive DiskOperation where
  | read
  | remove
deriving DecidableEq, Repr, Inhabited

def DiskCall.operation : DiskCall → DiskOperation
  | .readDir _ => .read
  | .removeAll _ => .remove

/-- A call that is to fail; its path is told apart by its components. -/
structure DiskFault where
  operation : DiskOperation
  path : String
  error : DiskError
deriving DecidableEq, Repr, Inhabited

structure MemoryDisk (Content : Type) where
  tree : Tree String Content
  descending : Bool
  faults : List DiskFault
  /-- The calls so far, the latest first. -/
  calls : List DiskCall
deriving Inhabited

namespace MemoryDisk

variable {Content : Type}

/-- What is found by names; a file on the way is no directory. -/
def find : List String → Tree String Content → Except DiskError (Tree String Content)
  | [], tree => .ok tree
  | name :: rest, .dir entries =>
    match entries.lookup name with
    | some entry => find rest entry
    | none => .error .notFound
  | _ :: _, _ => .error .notADirectory

/-- The names of the entries of a directory, in order. -/
def list (disk : MemoryDisk Content) (path : String) : Except DiskError (List String) :=
  match Path.names? path with
  | none => .error .notFound
  | some names => do
    match ← find names disk.tree with
    | .dir entries =>
      let sorted := (entries.map (·.1)).mergeSort fun a b => a ≤ b
      return if disk.descending then sorted.reverse else sorted
    | _ => .error .notADirectory

/-- The tree without what is found under a path. -/
def removed (disk : MemoryDisk Content) (path : String) :
    Except DiskError (Tree String Content) :=
  match Path.names? path with
  | none => .ok disk.tree
  | some names =>
    match find names disk.tree with
    | .ok _ => .ok (disk.tree.prune names)
    | .error .notFound => .ok disk.tree
    | .error e => .error e

/-- The failure that is set for a call. -/
def fault? (disk : MemoryDisk Content) (call : DiskCall) : Option DiskError :=
  (disk.faults.find? fun fault =>
    fault.operation = call.operation ∧
      Path.components fault.path = Path.components call.path).map (·.error)

/-- What a call that is not made to fail gives, and the disk after it. -/
def serve (disk : MemoryDisk Content) :
    (call : DiskCall) → Except DiskError call.Result × MemoryDisk Content
  | .readDir path => (disk.list path, disk)
  | .removeAll path =>
    match disk.removed path with
    | .ok tree => (.ok (), { disk with tree })
    | .error e => (.error e, disk)

/-- Puts a call on record and answers it. -/
def answer (call : DiskCall) (disk : MemoryDisk Content) :
    Except DiskError call.Result × MemoryDisk Content :=
  let disk := { disk with calls := call :: disk.calls }
  match disk.fault? call with
  | some e => (.error e, disk)
  | none => disk.serve call

/-- Runs a program of disk calls. -/
def run {α : Type} (program : Dialogue diskInterface α) (disk : MemoryDisk Content) :
    α × MemoryDisk Content :=
  Dialogue.run (I := diskInterface) answer program disk

end MemoryDisk

end FleetOperator
