/-!
# Resources

The kinds of objects that the operator asks the API server for, and the paths under which it
keeps them.
-/

namespace FleetOperator

/-- A kind of objects. -/
structure Resource where
  /-- The path of the group and version that the kind belongs to. -/
  group : String
  plural : String
deriving DecidableEq, Repr, Inhabited

namespace Resource

def agentFleets : Resource := ⟨"/apis/meridian.dev/v1", "agentfleets"⟩

def statefulSets : Resource := ⟨"/apis/apps/v1", "statefulsets"⟩

def secrets : Resource := ⟨"/api/v1", "secrets"⟩

/-- The path of the objects of a kind, in one namespace or in all. -/
def collection (resource : Resource) : Option String → String
  | some ns => resource.group ++ "/namespaces/" ++ ns ++ "/" ++ resource.plural
  | none => resource.group ++ "/" ++ resource.plural

end Resource

end FleetOperator
