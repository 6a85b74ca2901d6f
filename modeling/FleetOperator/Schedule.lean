import FleetOperator.Text.Percent
import FleetOperator.Sweep.Node

/-!
# Controllers on a schedule

A controller is told about objects by the API server: it lists them once and then asks for a
stream of their changes. Each fleet gets a cycle at once and another one whenever the time has
passed that the last cycle asked for. Time is counted in whole seconds; the cycles themselves take
none.
-/

namespace FleetOperator

/-- The version of the operator. -/
def operatorVersion : String := "0.1.0"

/-- Seconds after which the API server ends a stream of changes. -/
def watchTimeout : Nat := 25

/-- How many objects are listed at once. -/
def pageSize : Nat := 500

/-- How many pages a list may have. -/
def mostPages : Nat := 10000

/-- Objects that a controller is told about. -/
structure Watch where
  resource : Resource
  /-- The part of a query that selects some of the objects. -/
  selector : Option String
  /-- Whether only the metadata of the objects is of interest. -/
  metadataOnly : Bool
deriving DecidableEq, Repr, Inhabited

namespace Watch

/-- The request for the objects with more parts of a query. -/
def request? (watch : Watch) (ns : Option String) (parts : List String) : Option ApiRequest :=
  let target := watch.resource.collection ns ++ "?" ++ "&".intercalate parts
  (ApiRequest.ofTarget? .get target).map fun request =>
    if watch.metadataOnly then { request with contentType := some Cluster.jsonContent }
    else request

/-- The request for the objects that there are, or for those behind an answer that did not hold
all. -/
def listRequest? (watch : Watch) (ns continuation : Option String) : Option ApiRequest :=
  watch.request? ns (watch.selector.toList ++ [s!"limit={pageSize}"] ++
    continuation.toList.map fun token => "continue=" ++ Text.formEncode token)

/-- The request for the changes from a version on. -/
def streamRequest? (watch : Watch) (ns : Option String) (version : String) : Option ApiRequest :=
  let parts := ["watch=true", s!"timeoutSeconds={watchTimeout}"] ++ watch.selector.toList ++
    ["allowWatchBookmarks=true", "resourceVersion=" ++ Text.formEncode version]
  (watch.request? ns parts).map ({ · with watch := true })

/-- Lists the objects, page by page, with the version of the last page. There is no list where a
page cannot be read or the last one has no version, or where the pages do not end. -/
def list? {α : Type} (watch : Watch) (ns : Option String) (decode : Json → Option α) :
    Nat → Option String → Dialogue clusterInterface (Option (List α × String))
  | 0, _ => return none
  | pages + 1, continuation => do
    match ← Cluster.exchange (watch.listRequest? ns continuation) (Cluster.listing? decode) with
    | .error _ => return none
    | .ok ⟨items, version, none⟩ => return version.map (items, ·)
    | .ok ⟨items, _, some token⟩ =>
      let others ← watch.list? ns decode pages (some token)
      return others.map fun (found, version) => (items ++ found, version)

/-- Lists the objects and asks for their changes. -/
def open? {α : Type} (watch : Watch) (ns : Option String) (decode : Json → Option α) :
    Dialogue clusterInterface (List α) := do
  match ← watch.list? ns decode mostPages none with
  | none => return []
  | some (items, version) =>
    let _ ← Cluster.exchange (watch.streamRequest? ns version) some
    return items

end Watch

/-- What is done for the fleets of a cluster or of one namespace. -/
structure Controller where
  ns : Option String
  /-- The objects besides the fleets that bear on the cycles. -/
  owned : List Watch
  /-- The cycle of a fleet, with the seconds until the next one. -/
  cycle : Fleet → Dialogue nodeInterface Nat

namespace Controller

/-- The fleets of a cluster. -/
def fleets : Watch := ⟨.agentFleets, none, false⟩

/-- The controllers that keep the gateways. -/
def gateways (ns : Option String) : List Controller := [{
  ns := ns
  owned := [⟨.statefulSets, some Cluster.managedSelector, true⟩]
  cycle := fun fleet => do
    let program := reconcileFleet .builtin operatorVersion [] fleet
    match ← Node.onCluster (Cluster.gatewayProgram program) with
    | .ok seconds => return seconds
    | .error _ => return failedRequeue }]

/-- The controllers that sweep a node. -/
def sweeps (ns : Option String) (root : String) : List Controller := [{
  ns := ns
  owned := []
  cycle := Node.reconcileSweep root }]

/-- Opens the watches of a controller, with the fleets that there are. -/
def start (controller : Controller) : Dialogue nodeInterface (List Fleet) := Node.onCluster do
  let found ← fleets.open? controller.ns Fleet.decode?
  for watch in controller.owned do
    let _ ← watch.open? controller.ns Document.decode?
  return found

variable {σ : Type}

/-- The cycles of a fleet from `now` on, as long as the time is before `horizon`. A cycle that
asks for no time is the last one. -/
def repeatCycle (partner : (call : NodeCall) → σ → call.Answer × σ) (setClock : Nat → σ → σ)
    (cycle : Dialogue nodeInterface Nat) (horizon now : Nat) (state : σ) : σ :=
  if now < horizon then
    let (wait, state) := Dialogue.run (I := nodeInterface) partner cycle (setClock now state)
    if 0 < wait then repeatCycle partner setClock cycle horizon (now + wait) state else state
  else state
termination_by horizon - now

/-- Runs a controller until `horizon`, one fleet after the other. -/
def run (controller : Controller)
    (partner : (call : NodeCall) → σ → call.Answer × σ) (setClock : Nat → σ → σ)
    (horizon : Nat) (state : σ) : σ :=
  if 0 < horizon then
    let (fleets, state) := Dialogue.run (I := nodeInterface) partner controller.start state
    fleets.foldl (fun state fleet =>
      repeatCycle partner setClock (controller.cycle fleet) horizon 0 state) state
  else state

end Controller

end FleetOperator
