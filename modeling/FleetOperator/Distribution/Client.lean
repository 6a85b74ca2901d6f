import FleetOperator.Dialogue
import FleetOperator.Distribution.Proxy
import FleetOperator.Json.Parser
import FleetOperator.Json.Record
import FleetOperator.Sweep.Error

/-!
# The client of the distribution service

The service knows which tenant a token belongs to and which agent version is the latest. Each is
asked for with one request, and an answer counts only if its status says so and its body is what
was asked for.
-/

namespace FleetOperator

/-- How a fleet reaches the distribution service. -/
structure ClientSettings where
  apiUrl : String
  paasToken : String
  proxy : Option String
  networkZone : String
  skipCertCheck : Bool
deriving DecidableEq, Repr, Inhabited

/-- What the service says about the tenant of a token. -/
structure ConnectionInfo where
  tenantUuid : String
  tenantToken : String
  communicationEndpoints : List String
deriving DecidableEq, Repr, Inhabited

/-- A request for a document. -/
structure ServiceRequest where
  url : Url
  passage : Passage
  authorization : String
deriving DecidableEq, Repr, Inhabited

structure ServiceResponse where
  status : Nat
  body : String
deriving DecidableEq, Repr, Inhabited

namespace ServiceRequest

/-- The first line of a request: who passes it on is told the whole address. -/
def line (request : ServiceRequest) : String :=
  let target := match request.passage with
    | .relayed => request.url.absoluteForm
    | .direct | .tunnelled => request.url.originForm
  "GET " ++ target ++ " HTTP/1.1"

end ServiceRequest

namespace ServiceResponse

/-- Whether a response ends the exchange: one that only says how it goes on is followed by nothing
here, and a status of fewer or more than three digits is none. -/
def isFinal (response : ServiceResponse) : Bool :=
  response.status = 101 || (200 ≤ response.status && response.status < 1000)

def isSuccess (response : ServiceResponse) : Bool := 200 ≤ response.status && response.status < 300

/-- What a response carries; one that says so carries nothing. -/
def content (response : ServiceResponse) : String :=
  if response.status = 204 then "" else response.body

end ServiceResponse

/-- The exchange of requests for responses, where there may be none. -/
def serviceInterface : Interface where
  Call := ServiceRequest
  Answer _ := Option ServiceResponse

namespace ConnectionInfo

def decode? (value : Json) : Option ConnectionInfo := do
  let fields ← value.fields? ["tenantUUID", "tenantToken", "communicationEndpoints"]
  return {
    tenantUuid := ← fields.required "tenantUUID" Json.asString?
    tenantToken := ← fields.defaulted "tenantToken" "" Json.asString?
    communicationEndpoints := ← fields.defaulted "communicationEndpoints" []
      (Json.asListOf? Json.asString?) }

end ConnectionInfo

/-- The version in an answer to the question for the latest one. -/
def decodeLatestVersion? (value : Json) : Option String := do
  let fields ← value.fields? ["latestAgentVersion"]
  fields.required "latestAgentVersion" Json.asString?

namespace ClientSettings

/-- The proxy that requests are sent through. -/
def proxy? (settings : ClientSettings) : Option String := settings.proxy.filter (!·.isEmpty)

/-- Whether a client can be set up: a proxy needs to have an address. -/
def check (settings : ClientSettings) : Except SweepError Unit :=
  match settings.proxy? with
  | none => .ok ()
  | some proxy =>
    match Proxy.ofText? proxy with
    | some _ => .ok ()
    | none => .error (.client "invalid proxy")

/-- The address of a document, as it is named in failures. -/
def address (settings : ClientSettings) (path : String) : String :=
  String.ofList (settings.apiUrl.toList.reverse.dropWhile (· = '/')).reverse ++ path

/-- Whether a text may be sent as the value of a header. -/
def isHeaderValue (s : String) : Bool :=
  s.toList.all fun c => (0x20 ≤ c.toNat && c.toNat ≠ 0x7F) || c = '\t'

/-- The way that requests go. -/
def passage (settings : ClientSettings) : Passage :=
  match settings.proxy?.bind Proxy.ofText? with
  | none => .direct
  | some proxy => Proxy.passage proxy

/-- The request for an address; none can be made of a text that is no address of a document, or
with a token that cannot be sent. Credentials in the address take the place of the token and are
not sent with the address. -/
def request? (settings : ClientSettings) (address : String) (query : List (String × String)) :
    Option ServiceRequest :=
  let token := "Api-Token " ++ settings.paasToken
  match Url.parse address with
  | .error _ => none
  | .ok url =>
    let (url, authorization) := match url.credentials? with
      | none => (url, token)
      | some credentials => (url.withoutUser, credentials.header)
    let url := url.withQuery query
    if url.isHypertext ∧ url.canBeSent ∧ isHeaderValue token then
      some ⟨url, settings.passage, authorization⟩
    else none

/-- Asks for a document and reads it. -/
def fetch {α : Type} (settings : ClientSettings) (path : String) (query : List (String × String))
    (decode : Json → Option α) : Dialogue serviceInterface (Except SweepError α) :=
  let address := settings.address path
  match settings.request? address query with
  | none => return .error (.http address "request cannot be sent")
  | some request => do
    match ← Dialogue.call (I := serviceInterface) request with
    | none => return .error (.http address "no response")
    | some response =>
      if !response.isFinal then return .error (.http address "no final response")
      else if response.isSuccess then
        match (Json.parseRaw? response.content).bind decode with
        | some value => return .ok value
        | none => return .error (.invalidResponse address "unexpected body")
      else return .error (.status address response.status)

/-- Asks which tenant the token belongs to. -/
def fetchConnectionInfo (settings : ClientSettings) :
    Dialogue serviceInterface (Except SweepError ConnectionInfo) :=
  let query :=
    if settings.networkZone.isEmpty then [] else [("networkZone", settings.networkZone)]
  settings.fetch "/v1/deployment/installer/agent/connectioninfo" query ConnectionInfo.decode?

/-- Asks for the latest version of an agent. -/
def fetchLatestVersion (settings : ClientSettings) (os installer : String) :
    Dialogue serviceInterface (Except SweepError String) :=
  settings.fetch
    ("/v1/deployment/installer/agent/" ++ os ++ "/" ++ installer ++ "/latest/metainfo") []
    decodeLatestVersion?

end ClientSettings

end FleetOperator
