/-!
# Paths

A path is a text, and joining works on the text: the right side goes behind a slash, unless it is
absolute, when it replaces the left side. What a path means is its components. A slash in front is
the root; a dot counts only in front of a relative path; repeated slashes, slashes at the end and
all other dots count for nothing.
-/

namespace FleetOperator.Path

/-- One step of a path. -/
inductive Component where
  | root
  | current
  | parent
  | normal (name : String)
deriving DecidableEq, Repr, Inhabited

/-- The text of a path with another one joined to it. -/
def join (left right : String) : String :=
  if right.startsWith "/" then right
  else if left.isEmpty ∨ left.endsWith "/" then left ++ right
  else left ++ "/" ++ right

/-- The segments between the slashes of a path. -/
def segments (path : String) : List String := (path.toList.splitOn '/').map String.ofList

/-- The component that a segment stands for, if it stands for any. -/
def ofSegment? (segment : String) : Option Component :=
  if segment = "" ∨ segment = "." then none
  else if segment = ".." then some .parent
  else some (.normal segment)

/-- The components of a path. -/
def components (path : String) : List Component :=
  let found := (segments path).filterMap ofSegment?
  match segments path with
  | "" :: _ :: _ => .root :: found
  | "." :: _ => .current :: found
  | _ => found

/-- Whether a path names one entry of the directory that it is joined to. -/
def isPlainName (path : String) : Bool :=
  match components path with
  | [.normal _] => true
  | _ => false

/-- The names that lead from the root to a path; none where it goes up. -/
def names? (path : String) : Option (List String) :=
  ((components path).filter fun c => c ≠ .root ∧ c ≠ .current).mapM fun
    | .normal name => some name
    | _ => none

end FleetOperator.Path
