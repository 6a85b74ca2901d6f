import FleetOperator.Json.Basic

/-!
# Merge patches

A patch that is an object changes an object member by member: a null removes the member, any
other value is merged into the old one. A patch that is no object replaces what was there. A
changed member keeps its place, a new one goes to the end.
-/

namespace FleetOperator.Json

/-- The members without one key. -/
def eraseMember (key : String) (members : List (String × Json)) : List (String × Json) :=
  members.filter (·.1 != key)

/-- The members with one key bound to a value. -/
def setMember (key : String) (value : Json) : List (String × Json) → List (String × Json)
  | [] => [(key, value)]
  | (k, v) :: rest =>
    if k = key then (k, value) :: rest else (k, v) :: setMember key value rest

mutual

/-- The value that a patch makes of `target`. -/
def mergePatch (target : Json) : Json → Json
  | .obj changes => .obj (mergeMembers (target.asMembers?.getD []) changes)
  | .null => .null
  | .bool b => .bool b
  | .int n => .int n
  | .real lexeme => .real lexeme
  | .str s => .str s
  | .arr items => .arr items
  | .unreadable => .unreadable

def mergeMembers (members : List (String × Json)) : List (String × Json) → List (String × Json)
  | [] => members
  | (key, .null) :: rest => mergeMembers (eraseMember key members) rest
  | (key, change) :: rest =>
    mergeMembers (setMember key (mergePatch ((members.lookup key).getD .null) change) members) rest

end

end FleetOperator.Json
