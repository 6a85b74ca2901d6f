import FleetOperator.Proofs.Dialogue
import FleetOperator.Sweep.Node

/-!
# What is found out before a sweep

A sweep with a wrong idea of the latest version removes binaries in use, so
nothing may be swept unless everything was found out. `Inquiry` says, without
the program, how finding out goes: which calls are made up to the first that
comes to nothing, and what is known in the end, if anything is. It is built up
in the order of the questions: a secret (`SecretRead`), the proxy
(`ProxyKnown`), the settings of the client (`SettingsKnown`), and for each of
the two requests what the service answers (`Fetched`).

Every inquiry of the program goes like that, and leaves the disk alone
(`asks_inquire`). Such programs can be put one after the other, where the
second is come to only if the first has found something (`Asks.bind`). So a
cycle ends with an inquiry, or goes on with the sweep for what it has found
(`sweeps_only_on_complete_information`).
-/

namespace FleetOperator

open Dialogue (Performs)

variable {α β σ δ : Type}

/-- What a sweep has to do with: secrets and a service, which may be different at every question,
and a disk. -/
structure SweepWorld (σ δ : Type) where
  readSecret (ns name : String) : σ → Except OperatorError (Option SecretData) × σ
  respond : ServiceRequest → σ → Option ServiceResponse × σ
  disk : (call : DiskCall) → δ → Except DiskError call.Result × δ

namespace SweepWorld

/-- An exchange with the service. -/
def consult (world : SweepWorld σ δ) (program : Dialogue serviceInterface α) (outside : σ) :
    α × σ :=
  Dialogue.run (I := serviceInterface) world.respond program outside

theorem consult_ask (world : SweepWorld σ δ) (request : ServiceRequest)
    (next : Option ServiceResponse → Dialogue serviceInterface α) (outside : σ) :
    world.consult (Dialogue.ask (I := serviceInterface) request next) outside =
      world.consult (next (world.respond request outside).1) (world.respond request outside).2 :=
  rfl

/-- What the calls of a sweep come to. -/
def answer (world : SweepWorld σ δ) : (call : SweepCall) → σ × δ → call.Answer × σ × δ
  | .readSecret ns name, (outside, disk) =>
    ((world.readSecret ns name outside).1, (world.readSecret ns name outside).2, disk)
  | .buildClient settings, state => (settings.check, state)
  | .connectionInfo settings, (outside, disk) =>
    ((world.consult settings.fetchConnectionInfo outside).1,
      (world.consult settings.fetchConnectionInfo outside).2, disk)
  | .latestVersion settings os installer, (outside, disk) =>
    ((world.consult (settings.fetchLatestVersion os installer) outside).1,
      (world.consult (settings.fetchLatestVersion os installer) outside).2, disk)
  | .disk call, (outside, disk) => ((world.disk call disk).1, outside, (world.disk call disk).2)

end SweepWorld

/-! ## What can be found out -/

section

variable (world : SweepWorld σ δ) (fleet : Fleet) (before : σ)

/-- What a key of a secret is read as, if the secret can be read, is there and has the key. -/
inductive SecretRead (ns name key : String) : Option String → σ → Prop
  | failed {e after} :
    world.readSecret ns name before = (.error e, after) → SecretRead ns name key none after
  | noSecret {after} :
    world.readSecret ns name before = (.ok none, after) → SecretRead ns name key none after
  | noKey {data after} :
    world.readSecret ns name before = (.ok (some data), after) → data.get? key = none →
    SecretRead ns name key none after
  | text {data bytes after} :
    world.readSecret ns name before = (.ok (some data), after) → data.get? key = some bytes →
    SecretRead ns name key (some (Text.trimBlanks (Text.ofBytesLossy bytes))) after

/-- What a request brings, if it can be made and has a response with a status of success and with
a body that can be read. -/
inductive Fetched (settings : ClientSettings) (path : String) (query : List (String × String))
    (decode : Json → Option α) : Option α → σ → Prop
  | unsent :
    settings.request? (settings.address path) query = none →
    Fetched settings path query decode none before
  | unanswered {request after} :
    settings.request? (settings.address path) query = some request →
    world.respond request before = (none, after) →
    Fetched settings path query decode none after
  | refused {request response after} :
    settings.request? (settings.address path) query = some request →
    world.respond request before = (some response, after) → response.isSuccess = false →
    Fetched settings path query decode none after
  | unreadable {request response after} :
    settings.request? (settings.address path) query = some request →
    world.respond request before = (some response, after) → response.isSuccess = true →
    (Json.parseRaw? response.content).bind decode = none →
    Fetched settings path query decode none after
  | answered {request response value after} :
    settings.request? (settings.address path) query = some request →
    world.respond request before = (some response, after) → response.isSuccess = true →
    (Json.parseRaw? response.content).bind decode = some value →
    Fetched settings path query decode (some value) after

/-- The proxy of a fleet: none, the one that is written out, or the one in a secret, if that can be
read. -/
inductive ProxyKnown (ns : String) : List SweepCall → Option (Option String) → σ → Prop
  | absent : fleet.proxy? = none → ProxyKnown ns [] (some none) before
  | written {proxy} :
    fleet.proxy? = some proxy → proxy.reference? = none →
    ProxyKnown ns [] (some (some proxy.value)) before
  | referred {proxy secret text? after} :
    fleet.proxy? = some proxy → proxy.reference? = some secret →
    SecretRead world before ns secret proxyKey text? after →
    ProxyKnown ns [.readSecret ns secret] (text?.map some) after

/-- The settings of a client for a fleet. -/
def Fleet.clientSettings (fleet : Fleet) (token : String) (proxy : Option String) :
    ClientSettings where
  apiUrl := fleet.spec.apiUrl
  paasToken := token
  proxy := proxy
  networkZone := fleet.spec.networkZone
  skipCertCheck := fleet.spec.skipCertCheck

/-- The settings of the client, if the fleet has a namespace and its token and its proxy are
known. -/
inductive SettingsKnown : List SweepCall → Option ClientSettings → σ → Prop
  | noNamespace : fleet.ns? = none → SettingsKnown [] none before
  | noToken {ns after} :
    fleet.ns? = some ns →
    SecretRead world before ns fleet.tokensSecret paasTokenKey none after →
    SettingsKnown [.readSecret ns fleet.tokensSecret] none after
  | noProxy {ns token calls middle after} :
    fleet.ns? = some ns →
    SecretRead world before ns fleet.tokensSecret paasTokenKey (some token) middle →
    ProxyKnown world fleet middle ns calls none after →
    SettingsKnown (.readSecret ns fleet.tokensSecret :: calls) none after
  | known {ns token calls proxy middle after} :
    fleet.ns? = some ns →
    SecretRead world before ns fleet.tokensSecret paasTokenKey (some token) middle →
    ProxyKnown world fleet middle ns calls (some proxy) after →
    SettingsKnown (.readSecret ns fleet.tokensSecret :: calls)
      (some (fleet.clientSettings token proxy)) after

/-- What the service says about the tenant. -/
def ConnectionFetched (settings : ClientSettings) : Option ConnectionInfo → σ → Prop :=
  Fetched world before settings "/v1/deployment/installer/agent/connectioninfo"
    (if settings.networkZone.isEmpty then [] else [("networkZone", settings.networkZone)])
    ConnectionInfo.decode?

/-- What the service says about the latest version. -/
def LatestFetched (settings : ClientSettings) : Option String → σ → Prop :=
  Fetched world before settings "/v1/deployment/installer/agent/unix/paas/latest/metainfo" []
    decodeLatestVersion?

/-- How finding out goes: the calls that are made, up to the first that comes to nothing, and what
is known in the end. -/
inductive Inquiry : List SweepCall → Option (ConnectionInfo × String) → σ → Prop
  | noSettings {calls after} :
    SettingsKnown world fleet before calls none after → Inquiry calls none after
  | noClient {calls settings e after} :
    SettingsKnown world fleet before calls (some settings) after → settings.check = .error e →
    Inquiry (calls ++ [.buildClient settings]) none after
  | noConnection {calls settings middle after} :
    SettingsKnown world fleet before calls (some settings) middle → settings.check = .ok () →
    ConnectionFetched world middle settings none after →
    Inquiry (calls ++ [.buildClient settings, .connectionInfo settings]) none after
  | noLatest {calls settings connection middle asked after} :
    SettingsKnown world fleet before calls (some settings) middle → settings.check = .ok () →
    ConnectionFetched world middle settings (some connection) asked →
    LatestFetched world asked settings none after →
    Inquiry (calls ++ [.buildClient settings, .connectionInfo settings,
      .latestVersion settings "unix" "paas"]) none after
  | informed {calls settings connection latest middle asked after} :
    SettingsKnown world fleet before calls (some settings) middle → settings.check = .ok () →
    ConnectionFetched world middle settings (some connection) asked →
    LatestFetched world asked settings (some latest) after →
    Inquiry (calls ++ [.buildClient settings, .connectionInfo settings,
      .latestVersion settings "unix" "paas"]) (some (connection, latest)) after

end

/-! ## Programs that find out -/

section

variable {world : SweepWorld σ δ} {fleet : Fleet} {before middle after : σ}

/-- A program that leaves the disk alone, with the calls that it makes and what it comes to. -/
def Asks (world : SweepWorld σ δ) (program : SweepProgram α) (before : σ)
    (outcome : List SweepCall → Option α → σ → Prop) : Prop :=
  ∃ calls result after, outcome calls result.toOption after ∧
    ∀ disk, Performs world.answer (ExceptT.run program) (before, disk) calls result (after, disk)

theorem Asks.pure {value : α} {outcome : List SweepCall → Option α → σ → Prop}
    (h : outcome [] (some value) before) : Asks world (Pure.pure value) before outcome :=
  ⟨[], .ok value, before, h, fun _ => ⟨rfl, rfl⟩⟩

theorem Asks.throw {e : SweepError} {outcome : List SweepCall → Option α → σ → Prop}
    (h : outcome [] none before) : Asks world (MonadExcept.throw e) before outcome :=
  ⟨[], .error e, before, h, fun _ => ⟨rfl, rfl⟩⟩

theorem Asks.bind {program : SweepProgram α} {next : α → SweepProgram β}
    {first : List SweepCall → Option α → σ → Prop} {outcome : List SweepCall → Option β → σ → Prop}
    (h : Asks world program before first)
    (hfail : ∀ calls after, first calls none after → outcome calls none after)
    (hnext : ∀ calls value middle, first calls (some value) middle →
      Asks world (next value) middle fun rest => outcome (calls ++ rest)) :
    Asks world (program >>= next) before outcome := by
  obtain ⟨calls, result, middle, hfirst, hperforms⟩ := h
  cases result with
  | error e => exact ⟨calls, .error e, middle, hfail _ _ hfirst, fun disk =>
      (hperforms disk).bind_error next⟩
  | ok value =>
      obtain ⟨rest, last, after, hlast, hrest⟩ := hnext calls value middle hfirst
      exact ⟨calls ++ rest, last, after, hlast, fun disk => (hperforms disk).bind_ok (hrest disk)⟩

theorem secretRead_of_answer {ns name key : String}
    {answer : Except OperatorError (Option SecretData)}
    (hread : world.readSecret ns name before = (answer, after)) :
    SecretRead world before ns name key
      ((answer.bind (secretText ns name key)).mapError SweepError.operator).toOption after := by
  cases answer with
  | error e => exact .failed hread
  | ok found =>
      cases found with
      | none => exact .noSecret hread
      | some data =>
          cases hbytes : data.get? key with
          | none =>
              simp only [Except.bind, secretText, secretValue, hbytes]
              exact .noKey hread hbytes
          | some bytes =>
              simp only [Except.bind, secretText, secretValue, hbytes]
              exact .text hread hbytes

theorem asks_secretText (world : SweepWorld σ δ) (before : σ) (ns name key : String) :
    Asks world (SweepProgram.secretText ns name key) before fun calls text? after =>
      calls = [.readSecret ns name] ∧ SecretRead world before ns name key text? after :=
  ⟨_, _, _, ⟨rfl, secretRead_of_answer rfl⟩, fun _ => ⟨rfl, rfl⟩⟩

end

/-! ## Requests -/

theorem isFinal_of_isSuccess {response : ServiceResponse} (h : response.isSuccess = true) :
    response.isFinal = true := by
  simp only [ServiceResponse.isSuccess, ServiceResponse.isFinal, Bool.and_eq_true,
    Bool.or_eq_true, decide_eq_true_eq] at h ⊢
  omega

namespace ClientSettings

/-- What a response to the request for a document comes to. -/
def readResponse (address : String) (decode : Json → Option α) :
    Option ServiceResponse → Except SweepError α
  | none => .error (.http address "no response")
  | some response =>
    if !response.isFinal then .error (.http address "no final response")
    else if response.isSuccess then
      match (Json.parseRaw? response.content).bind decode with
      | some value => .ok value
      | none => .error (.invalidResponse address "unexpected body")
    else .error (.status address response.status)

variable {settings : ClientSettings} {path : String} {query : List (String × String)}
  {decode : Json → Option α}

theorem fetch_of_none (h : settings.request? (settings.address path) query = none) :
    settings.fetch path query decode =
      .done (.error (.http (settings.address path) "request cannot be sent")) := by
  rw [fetch]
  simp only [h]
  rfl

theorem fetch_of_some {request : ServiceRequest}
    (h : settings.request? (settings.address path) query = some request) :
    settings.fetch path query decode = Dialogue.ask (I := serviceInterface) request
      fun response? => .done (readResponse (settings.address path) decode response?) := by
  rw [fetch]
  simp only [h]
  refine congrArg (Dialogue.ask (I := serviceInterface) request) (funext fun response? => ?_)
  cases response? with
  | none => rfl
  | some response =>
      simp only [Dialogue.bind, readResponse]
      split
      · rfl
      · split
        · cases (Json.parseRaw? response.content).bind decode <;> rfl
        · rfl

theorem toOption_readResponse (address : String) (response : ServiceResponse) :
    (readResponse address decode (some response)).toOption =
      if response.isSuccess then (Json.parseRaw? response.content).bind decode else none := by
  rw [readResponse]
  cases hsuccess : response.isSuccess with
  | false => cases response.isFinal <;> rfl
  | true =>
      rw [isFinal_of_isSuccess hsuccess]
      cases (Json.parseRaw? response.content).bind decode <;> rfl

end ClientSettings

section

variable {world : SweepWorld σ δ} {fleet : Fleet} {before middle after : σ}

/-- An exchange for a document brings what the response says. -/
theorem fetched_consult (world : SweepWorld σ δ) (before : σ) (settings : ClientSettings)
    (path : String) (query : List (String × String)) (decode : Json → Option α) :
    Fetched world before settings path query decode
      (world.consult (settings.fetch path query decode) before).1.toOption
      (world.consult (settings.fetch path query decode) before).2 := by
  cases hrequest : settings.request? (settings.address path) query with
  | none =>
      rw [ClientSettings.fetch_of_none hrequest]
      exact .unsent hrequest
  | some request =>
      rw [ClientSettings.fetch_of_some hrequest]
      cases hrespond : world.respond request before with
      | mk response? after =>
          have hconsult : world.consult (Dialogue.ask (I := serviceInterface) request
              fun response? => .done (ClientSettings.readResponse (settings.address path) decode
                response?)) before =
              (ClientSettings.readResponse (settings.address path) decode response?, after) := by
            refine (world.consult_ask request _ before).trans ?_
            rw [hrespond]
            rfl
          rw [hconsult]
          cases response? with
          | none => exact .unanswered hrequest hrespond
          | some response =>
              rw [ClientSettings.toOption_readResponse]
              cases hsuccess : response.isSuccess with
              | false => exact .refused hrequest hrespond hsuccess
              | true =>
                  rw [if_pos rfl]
                  cases hbody : (Json.parseRaw? response.content).bind decode with
                  | none => exact .unreadable hrequest hrespond hsuccess hbody
                  | some value => exact .answered hrequest hrespond hsuccess hbody

/-! ## Inquiries -/

theorem asks_buildClient (world : SweepWorld σ δ) (before : σ) (settings : ClientSettings) :
    Asks world (SweepProgram.buildClient settings) before fun calls built? after =>
      calls = [.buildClient settings] ∧ after = before ∧ built? = settings.check.toOption :=
  ⟨_, settings.check, before, ⟨rfl, rfl, rfl⟩, fun _ => ⟨rfl, rfl⟩⟩

theorem asks_connectionInfo (world : SweepWorld σ δ) (before : σ) (settings : ClientSettings) :
    Asks world (SweepProgram.connectionInfo settings) before fun calls connection? after =>
      calls = [.connectionInfo settings] ∧
        ConnectionFetched world before settings connection? after :=
  ⟨_, _, _, ⟨rfl, fetched_consult world before settings _ _ _⟩, fun _ => ⟨rfl, rfl⟩⟩

theorem asks_latestVersion (world : SweepWorld σ δ) (before : σ) (settings : ClientSettings) :
    Asks world (SweepProgram.latestVersion settings agentOs agentInstaller) before
      fun calls latest? after =>
        calls = [.latestVersion settings "unix" "paas"] ∧
          LatestFetched world before settings latest? after :=
  ⟨_, _, _, ⟨rfl, fetched_consult world before settings _ _ _⟩, fun _ => ⟨rfl, rfl⟩⟩

theorem asks_resolveProxy (world : SweepWorld σ δ) (fleet : Fleet) (before : σ) (ns : String) :
    Asks world (resolveProxy ns fleet.proxy?) before (ProxyKnown world fleet before ns) := by
  cases hproxy : fleet.proxy? with
  | none => exact .pure (.absent hproxy)
  | some proxy =>
      cases hreference : proxy.reference? with
      | none =>
          rw [resolveProxy, hreference]
          exact .pure (.written hproxy hreference)
      | some secret =>
          rw [resolveProxy, hreference]
          dsimp only
          rw [← bind_pure_comp]
          refine (asks_secretText world before ns secret proxyKey).bind ?_ ?_
          · rintro _ after ⟨rfl, hread⟩
            have hknown := ProxyKnown.referred hproxy hreference hread
            exact hknown
          · rintro _ text middle ⟨rfl, hread⟩
            have hknown := ProxyKnown.referred hproxy hreference hread
            exact .pure hknown

/-- Finds out the settings of the client for a fleet. -/
def askSettings (fleet : Fleet) : SweepProgram ClientSettings :=
  match fleet.ns? with
  | none => throw .missingNamespace
  | some ns => do
    let token ← SweepProgram.secretText ns fleet.tokensSecret paasTokenKey
    let proxy ← resolveProxy ns fleet.proxy?
    return fleet.clientSettings token proxy

theorem asks_askSettings (world : SweepWorld σ δ) (fleet : Fleet) (before : σ) :
    Asks world (askSettings fleet) before (SettingsKnown world fleet before) := by
  cases hns : fleet.ns? with
  | none =>
      rw [askSettings, hns]
      exact .throw (.noNamespace hns)
  | some ns =>
      rw [askSettings, hns]
      refine (asks_secretText world before ns fleet.tokensSecret paasTokenKey).bind ?_ ?_
      · rintro _ after ⟨rfl, hread⟩
        exact .noToken hns hread
      · rintro _ token middle ⟨rfl, hread⟩
        refine (asks_resolveProxy world fleet middle ns).bind ?_ ?_
        · intro calls after hproxy
          exact .noProxy hns hread hproxy
        · intro calls proxy after hproxy
          refine .pure ?_
          rw [List.append_nil]
          exact .known hns hread hproxy

/-- Finds out the tenant of a fleet and the latest version. -/
def inquire (fleet : Fleet) : SweepProgram (ConnectionInfo × String) := do
  let settings ← askSettings fleet
  SweepProgram.buildClient settings
  let connection ← SweepProgram.connectionInfo settings
  let latest ← SweepProgram.latestVersion settings agentOs agentInstaller
  return (connection, latest)

theorem asks_inquire (world : SweepWorld σ δ) (fleet : Fleet) (before : σ) :
    Asks world (inquire fleet) before (Inquiry world fleet before) := by
  refine (asks_askSettings world fleet before).bind (fun _ _ => .noSettings) ?_
  intro calls settings middle hsettings
  refine (asks_buildClient world middle settings).bind ?_ ?_
  · rintro _ _ ⟨rfl, rfl, hcheck⟩
    cases hbuilt : settings.check with
    | ok => rw [hbuilt] at hcheck; cases hcheck
    | error e => exact .noClient hsettings hbuilt
  · rintro _ ⟨⟩ _ ⟨rfl, rfl, hcheck⟩
    have hbuilt : settings.check = .ok () := by
      cases hbuilt : settings.check with
      | ok => rfl
      | error e => rw [hbuilt] at hcheck; cases hcheck
    refine (asks_connectionInfo world _ settings).bind ?_ ?_
    · rintro _ after ⟨rfl, hconnection⟩
      exact .noConnection hsettings hbuilt hconnection
    · rintro _ connection asked ⟨rfl, hconnection⟩
      refine (asks_latestVersion world asked settings).bind ?_ ?_
      · rintro _ after ⟨rfl, hlatest⟩
        exact .noLatest hsettings hbuilt hconnection hlatest
      · rintro _ latest after ⟨rfl, hlatest⟩
        exact .pure (.informed hsettings hbuilt hconnection hlatest)

/-! ## Sweeps -/

theorem sweepFleet_eq (root : String) (fleet : Fleet) :
    sweepFleet root fleet = inquire fleet >>= fun found =>
      SweepProgram.onDisk (collect root found.1.tenantUuid found.2) := by
  rw [sweepFleet, inquire, askSettings]
  cases fleet.ns? with
  | none => rfl
  | some ns => simp only [bind_assoc, pure_bind]; rfl

/-- A program on the disk does in a sweep what it does by itself. -/
theorem performs_onDisk {program : Dialogue diskInterface α} {disk left : δ}
    {calls : List DiskCall} {value : α}
    (h : program.Performs world.disk disk calls value left) (outside : σ) :
    Performs world.answer (ExceptT.run (SweepProgram.onDisk program)) (outside, disk)
      (calls.map .disk) (.ok value) (outside, left) := by
  obtain ⟨hrun, rfl⟩ := h
  induction program generalizing disk with
  | done found =>
      obtain ⟨rfl, rfl⟩ := Prod.mk.inj hrun
      exact ⟨rfl, rfl⟩
  | ask call next ih =>
      obtain ⟨hnext, hcalls⟩ := ih _ hrun
      exact ⟨hnext, congrArg (List.cons _) hcalls⟩

/-- A cycle of a fleet ends with an hour until the next one. Before the disk come the questions of
an inquiry, in its order and up to the first that comes to nothing. If one does, these are the
calls of the cycle and the disk is as it was. If the tenant and the latest version are found out,
what follows is the sweep for them. -/
theorem sweeps_only_on_complete_information (world : SweepWorld σ δ) (root : String)
    (fleet : Fleet) (outside : σ) (disk : δ) :
    ∃ calls found after, Inquiry world fleet outside calls found after ∧
      (found = none →
        (reconcileSweep root fleet).Performs world.answer (outside, disk) calls 3600
          (after, disk)) ∧
      ∀ connection latest, found = some (connection, latest) →
        ∃ swept report left,
          (collect root connection.tenantUuid latest).Performs world.disk disk swept report left ∧
          (reconcileSweep root fleet).Performs world.answer (outside, disk)
            (calls ++ swept.map .disk) 3600 (after, left) := by
  obtain ⟨calls, result, after, hinquiry, hperforms⟩ := asks_inquire world fleet outside
  have hcycle {made : List SweepCall} {outcome : Except SweepError SweepReport} {left : δ}
      (h : Performs world.answer (ExceptT.run (sweepFleet root fleet)) (outside, disk) made
        outcome (after, left)) :
      (reconcileSweep root fleet).Performs world.answer (outside, disk) made 3600
        (after, left) := h.map fun _ => sweepInterval
  rw [sweepFleet_eq] at hcycle
  refine ⟨calls, result.toOption, after, hinquiry, ?_, ?_⟩
  · intro hnone
    cases result with
    | ok found => cases hnone
    | error e => exact hcycle ((hperforms disk).bind_error _)
  · intro connection latest hsome
    cases result with
    | error e => cases hsome
    | ok found =>
        obtain rfl := Option.some.inj hsome
        obtain ⟨swept, report, left, hcollect⟩ := Dialogue.exists_performs world.disk
          (collect root connection.tenantUuid latest) disk
        exact ⟨swept, report, left, hcollect,
          hcycle ((hperforms disk).bind_ok (performs_onDisk hcollect after))⟩

end

/-! ## On a node -/

namespace Node

section

variable (cluster : ApiRequest → σ → Option ApiResponse × σ)
  (respond : ServiceRequest → σ → Option ServiceResponse × σ)
  (disk : (call : DiskCall) → δ → Except DiskError call.Result × δ)

/-- What the calls of a node come to. -/
def answer : (call : NodeCall) → σ × δ → call.Answer × σ × δ
  | .cluster request, (outside, left) =>
    ((cluster request outside).1, (cluster request outside).2, left)
  | .service request, (outside, left) =>
    ((respond request outside).1, (respond request outside).2, left)
  | .disk call, (outside, left) => ((disk call left).1, outside, (disk call left).2)

/-- The world of a sweep on a node, where secrets are read from the API server. -/
def world : SweepWorld σ δ where
  readSecret ns name := Dialogue.run (I := clusterInterface) cluster (Cluster.readSecret ns name)
  respond := respond
  disk := disk

theorem run_onCluster (program : Dialogue clusterInterface α) (outside : σ) (left : δ) :
    Dialogue.run (I := nodeInterface) (answer cluster respond disk) (onCluster program)
        (outside, left) =
      ((Dialogue.run (I := clusterInterface) cluster program outside).1,
        (Dialogue.run (I := clusterInterface) cluster program outside).2, left) :=
  Dialogue.run_translate_left (fun _ _ _ => rfl) program outside left

theorem run_onService (program : Dialogue serviceInterface α) (outside : σ) (left : δ) :
    Dialogue.run (I := nodeInterface) (answer cluster respond disk) (onService program)
        (outside, left) =
      ((Dialogue.run (I := serviceInterface) respond program outside).1,
        (Dialogue.run (I := serviceInterface) respond program outside).2, left) :=
  Dialogue.run_translate_left (fun _ _ _ => rfl) program outside left

/-- A call of a sweep comes to the same on a node as in its world. -/
theorem run_sweepCall (call : SweepCall) (state : σ × δ) :
    Dialogue.run (I := nodeInterface) (answer cluster respond disk) (sweepCall call) state =
      (world cluster respond disk).answer call state := by
  obtain ⟨outside, left⟩ := state
  cases call with
  | readSecret ns name =>
      exact run_onCluster cluster respond disk (Cluster.readSecret ns name) outside left
  | buildClient settings => rfl
  | connectionInfo settings =>
      exact run_onService cluster respond disk settings.fetchConnectionInfo outside left
  | latestVersion settings os installer =>
      exact run_onService cluster respond disk (settings.fetchLatestVersion os installer) outside
        left
  | disk call => rfl

/-- A cycle on a node is one in its world. -/
theorem run_reconcileSweep (root : String) (fleet : Fleet) (state : σ × δ) :
    Dialogue.run (I := nodeInterface) (answer cluster respond disk)
        (Node.reconcileSweep root fleet) state =
      (FleetOperator.reconcileSweep root fleet).run (world cluster respond disk).answer state := by
  refine (Dialogue.run_translate (I := sweepInterface) _ sweepCall _ state).trans ?_
  exact congrArg (fun partner => Dialogue.run (I := sweepInterface) partner
    (FleetOperator.reconcileSweep root fleet) state)
    (funext fun call => funext fun state => run_sweepCall cluster respond disk call state)

end

end Node

end FleetOperator
