/-!
# Directory trees

A directory holds entries by name; an entry is a file, a link or another directory. Names and
contents are parameters: a tree of a test has texts for names, a disk has bytes.
-/

namespace FleetOperator

inductive Tree (Name Content : Type) where
  | file (content : Content)
  /-- An entry that stands for what is found under the path `target`. -/
  | link (target : Content)
  | dir (entries : List (Name × Tree Name Content))
deriving Inhabited

namespace Tree

variable {Name Content : Type} [BEq Name]

def isDir : Tree Name Content → Bool
  | .dir _ => true
  | _ => false

/-- The entry of a directory under a name. -/
def child? (name : Name) : Tree Name Content → Option (Tree Name Content)
  | .dir entries => entries.lookup name
  | _ => none

/-- The entry that is reached by names, without going through links. -/
def at? : List Name → Tree Name Content → Option (Tree Name Content)
  | [], tree => some tree
  | name :: rest, tree => (tree.child? name).bind (at? rest)

/-- The names of the entries of a directory. -/
def entryNames : Tree Name Content → List Name
  | .dir entries => entries.map (·.1)
  | _ => []

/-- Changes the entries of the directory that is reached by names. -/
def mapEntries (f : List (Name × Tree Name Content) → List (Name × Tree Name Content)) :
    List Name → Tree Name Content → Tree Name Content
  | [], .dir entries => .dir (f entries)
  | name :: rest, .dir entries =>
    .dir (entries.map fun e => if e.1 == name then (e.1, mapEntries f rest e.2) else e)
  | _, tree => tree

/-- The tree without the entry that is reached by names. The tree itself is never removed. -/
def prune : List Name → Tree Name Content → Tree Name Content
  | [name], .dir entries => .dir (entries.filter fun e => !(e.1 == name))
  | name :: rest, .dir entries =>
    .dir (entries.map fun e => if e.1 == name then (e.1, prune rest e.2) else e)
  | _, tree => tree

/-- The tree with an entry in the directory that is reached by names, in place of an older one. -/
def place (tree : Tree Name Content) (dir : List Name) (name : Name)
    (entry : Tree Name Content) : Tree Name Content :=
  tree.mapEntries (fun entries => entries.filter (fun e => !(e.1 == name)) ++ [(name, entry)]) dir

end Tree

end FleetOperator
