import FleetOperator.Json.Record

/-!
# Resources and tolerations

What a fleet asks for its pods and a pod spec says in the same words.
-/

namespace FleetOperator

/-- Amounts of processor time and memory. -/
structure ResourceQuantity where
  cpu : Option String
  memory : Option String
deriving DecidableEq, Repr, Inhabited

/-- What a container is promised and what it may use at most. -/
structure ResourceRequirements where
  requests : Option ResourceQuantity
  limits : Option ResourceQuantity
deriving DecidableEq, Repr, Inhabited

/-- A taint that a pod puts up with. -/
structure Toleration where
  key : Option String
  operator : Option String
  value : Option String
  effect : Option String
deriving DecidableEq, Repr, Inhabited

namespace ResourceQuantity

def encode (quantity : ResourceQuantity) : Json :=
  .ofFields [("cpu", quantity.cpu.map .str), ("memory", quantity.memory.map .str)]

def decode? (value : Json) : Option ResourceQuantity := do
  let fields ← value.fields? ["cpu", "memory"]
  return {
    cpu := ← fields.optional "cpu" Json.asString?
    memory := ← fields.optional "memory" Json.asString? }

end ResourceQuantity

namespace ResourceRequirements

def encode (resources : ResourceRequirements) : Json :=
  .ofFields [
    ("requests", resources.requests.map ResourceQuantity.encode),
    ("limits", resources.limits.map ResourceQuantity.encode)]

def decode? (value : Json) : Option ResourceRequirements := do
  let fields ← value.fields? ["requests", "limits"]
  return {
    requests := ← fields.optional "requests" ResourceQuantity.decode?
    limits := ← fields.optional "limits" ResourceQuantity.decode? }

end ResourceRequirements

namespace Toleration

def encode (toleration : Toleration) : Json :=
  .ofFields [
    ("key", toleration.key.map .str),
    ("operator", toleration.operator.map .str),
    ("value", toleration.value.map .str),
    ("effect", toleration.effect.map .str)]

def decode? (value : Json) : Option Toleration := do
  let fields ← value.fields? ["key", "operator", "value", "effect"]
  return {
    key := ← fields.optional "key" Json.asString?
    operator := ← fields.optional "operator" Json.asString?
    value := ← fields.optional "value" Json.asString?
    effect := ← fields.optional "effect" Json.asString? }

end Toleration

end FleetOperator
