import FleetOperator.Dialogue

/-!
# Calls to a disk

What a sweep asks of a disk, and why a disk refuses.
-/

namespace FleetOperator

inductive DiskError where
  | notFound
  | permissionDenied
  | interrupted
  | alreadyExists
  | notADirectory
  | isADirectory
  | invalidInput
  | invalidFilename
  | filesystemLoop
deriving DecidableEq, Repr, Inhabited

inductive DiskCall where
  /-- The names of the entries of a directory. -/
  | readDir (path : String)
  /-- Removes a file, or a directory with all that is in it. It is no failure if there is none. -/
  | removeAll (path : String)
deriving DecidableEq, Repr, Inhabited

def DiskCall.Result : DiskCall → Type
  | .readDir _ => List String
  | .removeAll _ => Unit

def DiskCall.path : DiskCall → String
  | .readDir path => path
  | .removeAll path => path

/-- The calls to a disk, each of which may fail. -/
def diskInterface : Interface where
  Call := DiskCall
  Answer call := Except DiskError call.Result

namespace Disk

def readDir (path : String) : Dialogue diskInterface (Except DiskError (List String)) :=
  .call (I := diskInterface) (.readDir path)

def removeAll (path : String) : Dialogue diskInterface (Except DiskError Unit) :=
  .call (I := diskInterface) (.removeAll path)

end Disk

end FleetOperator
