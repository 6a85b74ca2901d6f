import FleetOperator.Disk.Interface
import FleetOperator.Disk.Tree
import FleetOperator.Text.Utf8

/-!
# Disks with links

The disk of a node: a tree whose names and contents are bytes and in which a link stands for the
path that it holds. A path is walked segment by segment from the root. A dot stays, two dots go
up, a link on the way is replaced by its path, and only so many links are followed on one walk. A
slash at the end of a path asks for a directory, just as a dot behind it would; a file to write
cannot be asked for in that way.

What a walk ends at is an entry or a place where an entry could be. Reading, writing and removing
are then changes of the tree at that place.
-/

namespace FleetOperator

/-- The name of an entry of a disk. -/
abbrev EntryName := List UInt8

/-- A tree of bytes under names of bytes. -/
abbrev LinkedDisk := Tree EntryName (List UInt8)

namespace LinkedDisk

/-! ## Paths -/

def slash : UInt8 := 0x2F

/-- The segment that stays where it is. -/
def dot : EntryName := [0x2E]

/-- The segment that goes up. -/
def dotDot : EntryName := [0x2E, 0x2E]

/-- What stands between slashes. -/
def splitSlashes : List UInt8 → List EntryName
  | [] => [[]]
  | b :: rest =>
    if b = slash then [] :: splitSlashes rest
    else match splitSlashes rest with
      | [] => [[b]]
      | first :: others => (b :: first) :: others

/-- The segments of a path. -/
def segments (path : List UInt8) : List EntryName := (splitSlashes path).filter (· ≠ [])

/-- Whether a path asks for a directory by a slash at its end. -/
def endsInSlash (path : List UInt8) : Bool := path.getLast? == some slash

/-- The step behind a slash at the end, which stays in the directory before it. -/
def endSlash : EntryName := []

/-- The steps that a path is walked by. -/
def steps (path : List UInt8) : List EntryName :=
  segments path ++ if endsInSlash path then [endSlash] else []

/-- How many bytes a name may have. -/
def longestName : Nat := 255

/-- How many bytes a path may have. -/
def longestPath : Nat := 4095

/-- How many links are followed on one walk. -/
def mostLinks : Nat := 40

/-! ## Walks -/

/-- What a walk ends at. -/
inductive Place where
  /-- The entry that is reached from the root by names alone. -/
  | found (names : List EntryName)
  /-- No entry, in a directory that could hold one. -/
  | vacant (dir : List EntryName) (name : EntryName)
deriving DecidableEq, Repr, Inhabited

/-- What is looked for at the end of a walk. -/
inductive Aim where
  /-- The entry itself, even where it is a link. -/
  | itself
  /-- What a link at the end stands for. -/
  | content
  /-- A file to write, which a slash at the end of a path rules out before one looks. -/
  | file
deriving DecidableEq, Repr, Inhabited

/-- Walks on from the directory `here`. -/
def walk (disk : LinkedDisk) (aim : Aim) (links : Nat) (here : List EntryName) :
    List EntryName → Except DiskError Place
  | [] => .ok (.found here)
  | segment :: rest =>
    let next := here ++ [segment]
    if segment = dot ∨ segment = endSlash then walk disk aim links here rest
    else if segment = dotDot then walk disk aim links here.dropLast rest
    else if aim = .file ∧ rest = [endSlash] then .error .isADirectory
    else if longestName < segment.length then .error .invalidFilename
    else match disk.at? next with
      | none => if rest.isEmpty then .ok (.vacant here segment) else .error .notFound
      | some (.dir _) => walk disk aim links next rest
      | some (.file _) => if rest.isEmpty then .ok (.found next) else .error .notADirectory
      | some (.link target) =>
        if rest.isEmpty ∧ aim = .itself then .ok (.found next)
        else match links with
          | 0 => .error .filesystemLoop
          | links + 1 =>
            let start := if target.head? = some slash then [] else here
            walk disk aim links start (steps target ++ rest)
termination_by segments => (links, segments.length)

/-- Walks a path from the root. A path cannot hold a zero byte. -/
def locate (disk : LinkedDisk) (aim : Aim) (path : List UInt8) (steps : List EntryName) :
    Except DiskError Place :=
  if path.contains 0 then .error .invalidInput
  else if longestPath < path.length then .error .invalidFilename
  else walk disk aim mostLinks [] steps

/-- The entry under a path, with the names that lead to it. -/
def entry (disk : LinkedDisk) (aim : Aim) (path : List UInt8) :
    Except DiskError (List EntryName × LinkedDisk) := do
  match ← disk.locate aim path (steps path) with
  | .found names =>
    match disk.at? names with
    | some entry => return (names, entry)
    | none => throw .notFound
  | .vacant .. => throw .notFound

/-! ## Reading and removing -/

/-- The names of the entries of a directory. -/
def readDir (disk : LinkedDisk) (path : List UInt8) : Except DiskError (List EntryName) := do
  match ← disk.entry .content path with
  | (_, .dir entries) => return entries.map (·.1)
  | _ => throw .notADirectory

/-- Removes the directory under a path, with whatever is in it. The directory cannot be named by a
dot, or by a slash behind a link. -/
def removeDir (disk : LinkedDisk) (path : List UInt8) : Except DiskError LinkedDisk := do
  match ← disk.locate .itself path (segments path) with
  | .vacant .. => throw .notFound
  | .found names =>
    if (segments path).getLast? = some dot then throw .invalidInput
    if (disk.at? names).any Tree.isDir then return disk.prune names else throw .notADirectory

/-- Removes a file or a link, or a directory after all that is in it. What is gone then, such as
a link in the directory that its path leads through, is no failure. -/
def removeAll (disk : LinkedDisk) (path : List UInt8) : Except DiskError Unit × LinkedDisk :=
  match disk.entry .itself path with
  | .error .notFound => (.ok (), disk)
  | .error e => (.error e, disk)
  | .ok (names, .dir _) =>
    let emptied : LinkedDisk := disk.mapEntries (fun _ => []) names
    match emptied.removeDir path with
    | .ok disk => (.ok (), disk)
    | .error .notFound => (.ok (), emptied)
    | .error e => (.error e, emptied)
  | .ok (names, _) => (.ok (), disk.prune names)

/-! ## Creating and writing -/

/-- Puts an entry where there is none. -/
def create (disk : LinkedDisk) (path : List UInt8) (segments : List EntryName)
    (entry : LinkedDisk) : Except DiskError LinkedDisk := do
  match ← disk.locate .itself path segments with
  | .found _ => throw .alreadyExists
  | .vacant dir name => return disk.place dir name entry

/-- Whether a walk ends at a directory. -/
def isDirAt (disk : LinkedDisk) (path : List UInt8) (segments : List EntryName) : Bool :=
  match disk.locate .content path segments with
  | .ok (.found names) => (disk.at? names).any Tree.isDir
  | _ => false

/-- Creates a directory where the first of some paths says, and before it those that the others
name, each above the one in front of it. -/
def createDirs (disk : LinkedDisk) (path : List UInt8) :
    List (List EntryName) → Except DiskError Unit × LinkedDisk
  | [] => (.ok (), disk)
  | segments :: above =>
    let create (disk : LinkedDisk) : Except DiskError Unit × LinkedDisk :=
      match disk.create path segments (.dir []) with
      | .ok disk => (.ok (), disk)
      | .error e => (if disk.isDirAt path segments then .ok () else .error e, disk)
    match create disk with
    | (.error .notFound, _) =>
      match createDirs disk path above with
      | (.ok (), disk) => create disk
      | failed => failed
    | outcome => outcome

/-- Creates a directory with all those above it that are not there. -/
def createDirAll (disk : LinkedDisk) (path : List UInt8) : Except DiskError Unit × LinkedDisk :=
  let names := (segments path).filter (· ≠ dot)
  disk.createDirs path
    (segments path :: (List.range names.length).reverse.map fun n => names.take n)

/-- Creates a link that stands for the path `target`. -/
def createLink (disk : LinkedDisk) (path target : List UInt8) : Except DiskError LinkedDisk :=
  if target.contains 0 then .error .invalidInput
  else if target.isEmpty then .error .notFound
  else if longestPath < target.length then .error .invalidFilename
  else do
    let linked ← disk.create path (segments path) (.link target)
    if endsInSlash path then throw .notFound
    return linked

/-- Writes a file, in place of an older one; what a link stands for is written, not the link. -/
def writeFile (disk : LinkedDisk) (path content : List UInt8) : Except DiskError LinkedDisk := do
  match ← disk.locate .file path (steps path) with
  | .vacant dir name => return disk.place dir name (.file content)
  | .found names =>
    match names.getLast?, disk.at? names with
    | some name, some (.file _) => return disk.place names.dropLast name (.file content)
    | _, _ => throw .isADirectory

/-- Answers the calls of a sweep. -/
def answer (call : DiskCall) (disk : LinkedDisk) : Except DiskError call.Result × LinkedDisk :=
  match call with
  | .readDir path =>
    ((disk.readDir (Text.bytes path)).map (·.map Text.ofBytesLossy), disk)
  | .removeAll path => disk.removeAll (Text.bytes path)

/-- Runs a program of disk calls. -/
def run {α : Type} (program : Dialogue diskInterface α) (disk : LinkedDisk) : α × LinkedDisk :=
  Dialogue.run (I := diskInterface) answer program disk

end LinkedDisk

end FleetOperator
