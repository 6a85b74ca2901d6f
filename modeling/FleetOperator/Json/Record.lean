import FleetOperator.Json.Basic
import FleetOperator.SortedMap

/-!
# Structures as JSON

A structure is written as an object with its fields in order of declaration; a field without a
value is left out. It is read back from an object by name, whatever the order of the members and
whatever other members there are, or from an array by position.

A field is judged by its kind. A required field has to be there. A field with a default may be
absent, but a written null counts as a value. An optional field may be absent or null. Most
structures refuse a field that is written twice; in the others the last value counts, and each has
to be of the right kind.
-/

namespace FleetOperator

namespace Json

/-- The object of the fields that have a value. -/
def ofFields (fields : List (String × Option Json)) : Json :=
  .obj (fields.filterMap fun (name, value) => value.map (name, ·))

/-- A value that is left out when it is the empty text. -/
def unlessEmpty (s : String) : Option Json := if s.isEmpty then none else some (.str s)

/-- A list that is left out when it has no items. -/
def listUnlessEmpty {α : Type} (encode : α → Json) (items : List α) : Option Json :=
  if items.isEmpty then none else some (.arr (items.map encode))

/-- A map of texts. -/
def ofStringMap (m : SortedMap String String) : Json :=
  .obj (m.toList.map fun (key, value) => (key, .str value))

/-- A map of texts that is left out when it has no entries. -/
def mapUnlessEmpty (m : SortedMap String String) : Option Json :=
  if m.isEmpty then none else some (ofStringMap m)

/-- Every item of a list, read one by one. -/
def asListOf? {α : Type} (decode : Json → Option α) (value : Json) : Option (List α) :=
  value.asList?.bind (·.mapM decode)

/-- A map of texts. -/
def asStringMap? (value : Json) : Option (SortedMap String String) := do
  let members ← value.asMembers?
  let bindings ← members.mapM fun (key, item) => item.asString?.map (key, ·)
  return .ofList bindings

/-- A whole number of 32 bits with a sign. -/
def asInt32? (value : Json) : Option Int32 :=
  value.asInt?.bind fun n => if -2147483648 ≤ n ∧ n ≤ 2147483647 then some (.ofInt n) else none

/-- A whole number of 64 bits with a sign. -/
def asInt64? (value : Json) : Option Int64 :=
  value.asInt?.bind fun n =>
    if -9223372036854775808 ≤ n ∧ n ≤ 9223372036854775807 then some (.ofInt n) else none

/-- A whole number of 16 bits without a sign. -/
def asUInt16? (value : Json) : Option UInt16 :=
  value.asInt?.bind fun n => if 0 ≤ n ∧ n < UInt16.size then some (.ofNat n.toNat) else none

/-- The fields of a written structure: all values that are written for a name. -/
structure Fields where
  written : String → List Json

/-- The values under a name. -/
def valuesOf (members : List (String × Json)) (name : String) : List Json :=
  members.filterMap fun (key, value) => if key = name then some value else none

/-- The fields of a structure written as an object. A field may be written more than once. -/
def repeatedFields? : Json → Option Fields
  | .obj members => some ⟨valuesOf members⟩
  | _ => none

/-- The fields of a structure written as an object. A field that is written twice is refused. -/
def fieldsByName? (names : List String) (value : Json) : Option Fields :=
  value.repeatedFields?.filter fun fields => names.all fun name => (fields.written name).length ≤ 1

/-- The fields of a structure written as an object, or as an array that may break off early. -/
def fields? (names : List String) : Json → Option Fields
  | .arr items => if items.length ≤ names.length then some ⟨valuesOf (names.zip items)⟩ else none
  | value => fieldsByName? names value

/-- Whether all members of an object but those with these names can be read. -/
def othersReadable (names : List String) : Json → Bool
  | .obj members => membersReadable (members.filter fun member => !(names.contains member.1))
  | _ => false

/-- A value that may be null. -/
def nullable {α : Type} (decode : Json → Option α) : Json → Option (Option α)
  | .null => some none
  | value => (decode value).map some

namespace Fields

variable {α : Type} (fields : Fields) (name : String)

/-- The value of a field if there is one: the last, where all that are written are of its kind. -/
def last? (decode : Json → Option α) : Option (Option α) :=
  ((fields.written name).mapM decode).map List.getLast?

/-- A field that has to be there. -/
def required (decode : Json → Option α) : Option α := (fields.last? name decode).join

/-- A field that takes a value of its own when it is absent. -/
def defaulted (default : α) (decode : Json → Option α) : Option α :=
  (fields.last? name decode).map (·.getD default)

/-- A field that may be absent or null. -/
def optional (decode : Json → Option α) : Option (Option α) :=
  (fields.last? name (nullable decode)).map Option.join

end Fields

end Json

end FleetOperator
