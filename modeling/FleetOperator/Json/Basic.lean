/-!
# JSON values

The documents that the operator reads and writes. An object is the list of its members, in the
order in which they are written; a reader that finds a key twice keeps both members, and what to
make of them is up to the caller (`Json.lastWins`, `Json.member?`).

Whole numbers are kept as such. Any other number is kept as the text it was written with: no
answer of the operator computes with one.

Text may spell a value by the rules that no program can hold, such as half of a surrogate pair. Such
a value can be skipped but not read, and so can whatever holds it as a whole (`Json.isReadable`).
-/

namespace FleetOperator

/-- A JSON value. -/
inductive Json where
  | null
  | bool (b : Bool)
  | int (n : Int)
  | real (lexeme : String)
  | str (s : String)
  | arr (items : List Json)
  | obj (members : List (String × Json))
  /-- A value that is written by the rules but cannot be held. -/
  | unreadable
deriving Inhabited, Repr, BEq

namespace Json

/-- The member of an object under a key. -/
def member? (key : String) : Json → Option Json
  | .obj members => members.lookup key
  | _ => none

def asString? : Json → Option String
  | .str s => some s
  | _ => none

def asBool? : Json → Option Bool
  | .bool b => some b
  | _ => none

def asInt? : Json → Option Int
  | .int n => some n
  | _ => none

def asList? : Json → Option (List Json)
  | .arr items => some items
  | _ => none

def asMembers? : Json → Option (List (String × Json))
  | .obj members => some members
  | _ => none

/-- Keeps, of several members with one key, only the last. -/
def dropShadowed {α : Type} : List (String × α) → List (String × α)
  | [] => []
  | (k, v) :: rest =>
    if rest.any (·.1 == k) then dropShadowed rest else (k, v) :: dropShadowed rest

mutual

/-- The value in which every object keeps only the last of several members with one key. -/
def lastWins : Json → Json
  | .arr items => .arr (lastWinsItems items)
  | .obj members => .obj (dropShadowed (lastWinsMembers members))
  | .null => .null
  | .bool b => .bool b
  | .int n => .int n
  | .real lexeme => .real lexeme
  | .str s => .str s
  | .unreadable => .unreadable

def lastWinsItems : List Json → List Json
  | [] => []
  | item :: rest => item.lastWins :: lastWinsItems rest

def lastWinsMembers : List (String × Json) → List (String × Json)
  | [] => []
  | (key, value) :: rest => (key, value.lastWins) :: lastWinsMembers rest

end

mutual

/-- Whether a value can be read as a whole. -/
def isReadable : Json → Bool
  | .unreadable => false
  | .arr items => itemsReadable items
  | .obj members => membersReadable members
  | _ => true

def itemsReadable : List Json → Bool
  | [] => true
  | item :: rest => item.isReadable && itemsReadable rest

def membersReadable : List (String × Json) → Bool
  | [] => true
  | (_, value) :: rest => value.isReadable && membersReadable rest

end

/-- A value of any kind, which is read as a whole. -/
def asAny? (value : Json) : Option Json := if value.isReadable then some value else none

end Json

end FleetOperator
