import FleetOperator.Fleet.Schema
import FleetOperator.Json.Yaml

/-!
# The manifest of the fleet resource

The document that makes a cluster know about fleets: what they are called, what a listing shows of
them, and the form that they have.
-/

namespace FleetOperator.Manifest

/-- A column of a listing of fleets. -/
def column (name type path : String) : Json :=
  .obj [("jsonPath", .str path), ("name", .str name), ("type", .str type)]

/-- The one version of the resource. -/
def version : Json := .obj [
  ("additionalPrinterColumns", .arr [
    column "ApiUrl" "string" ".spec.apiUrl",
    column "Gateway" "string" ".status.activeGate.version",
    column "Age" "date" ".metadata.creationTimestamp"]),
  ("name", .str "v1"),
  ("schema", .obj [("openAPIV3Schema", FleetSchema.fleet)]),
  ("served", .bool true),
  ("storage", .bool true),
  ("subresources", .obj [("status", .obj [])])]

/-- The names of the resource. -/
def names : Json := .obj [
  ("categories", .arr []),
  ("kind", .str "AgentFleet"),
  ("plural", .str "agentfleets"),
  ("shortNames", .arr [.str "af"]),
  ("singular", .str "agentfleet")]

/-- The whole document. -/
def document : Json := .obj [
  ("apiVersion", .str "apiextensions.k8s.io/v1"),
  ("kind", .str "CustomResourceDefinition"),
  ("metadata", .obj [("name", .str "agentfleets.meridian.dev")]),
  ("spec", .obj [
    ("group", .str "meridian.dev"),
    ("names", names),
    ("scope", .str "Namespaced"),
    ("versions", .arr [version])])]

/-- The lines of the document. -/
def lines : List String := Json.Yaml.lines document

end FleetOperator.Manifest
