import FleetOperator.Capability.Compose
import FleetOperator.Distribution.Client
import FleetOperator.Secret
import FleetOperator.Sweep.Collect

/-!
# The sweep controller

A sweep needs to know the tenant of a fleet and the latest agent version. It reads the token, and
the proxy where that lies in a secret, sets up a client, asks its two questions and only then
touches the disk; the first failure ends it. The controller comes back after an hour whatever
happened.
-/

namespace FleetOperator

/-- The key of the secret with the tokens under which the installer token lies. -/
def paasTokenKey : String := "paasToken"

/-- The system of the agents that are installed on nodes. -/
def agentOs : String := "unix"

/-- How the agents that are installed on nodes are packed. -/
def agentInstaller : String := "paas"

/-- Seconds between two sweeps for a fleet. -/
def sweepInterval : Nat := 3600

inductive SweepCall where
  | readSecret (ns name : String)
  | buildClient (settings : ClientSettings)
  | connectionInfo (settings : ClientSettings)
  | latestVersion (settings : ClientSettings) (os installer : String)
  | disk (call : DiskCall)
deriving Inhabited

def SweepCall.Answer : SweepCall → Type
  | .readSecret .. => Except OperatorError (Option SecretData)
  | .buildClient _ => Except SweepError Unit
  | .connectionInfo _ => Except SweepError ConnectionInfo
  | .latestVersion .. => Except SweepError String
  | .disk call => Except DiskError call.Result

/-- The calls of a sweep, each of which may fail. -/
def sweepInterface : Interface where
  Call := SweepCall
  Answer := SweepCall.Answer

/-- A program over the calls of a sweep that may stop with an error. -/
abbrev SweepProgram := ExceptT SweepError (Dialogue sweepInterface)

namespace SweepProgram

/-- Reads a text out of a secret. -/
def secretText (ns name key : String) : SweepProgram String :=
  ExceptT.mk (.ask (.readSecret ns name) fun answer =>
    .done ((answer.bind (FleetOperator.secretText ns name key)).mapError .operator))

def buildClient (settings : ClientSettings) : SweepProgram Unit :=
  ExceptT.mk (.ask (.buildClient settings) fun answer => .done answer)

def connectionInfo (settings : ClientSettings) : SweepProgram ConnectionInfo :=
  ExceptT.mk (.ask (.connectionInfo settings) fun answer => .done answer)

def latestVersion (settings : ClientSettings) (os installer : String) : SweepProgram String :=
  ExceptT.mk (.ask (.latestVersion settings os installer) fun answer => .done answer)

/-- A program that only makes calls to the disk. -/
def onDisk {α : Type} (program : Dialogue diskInterface α) : SweepProgram α :=
  ExceptT.mk ((program.translate fun call =>
    Dialogue.call (I := sweepInterface) (.disk call)).bind fun value => .done (.ok value))

end SweepProgram

/-- The proxy of a fleet, read out of its secret if it lies in one. -/
def resolveProxy (ns : String) : Option ValueSource → SweepProgram (Option String)
  | none => return none
  | some proxy =>
    match proxy.reference? with
    | none => return some proxy.value
    | some secret => some <$> SweepProgram.secretText ns secret proxyKey

/-- The sweep for a fleet. -/
def sweepFleet (root : String) (fleet : Fleet) : SweepProgram SweepReport :=
  match fleet.ns? with
  | none => throw .missingNamespace
  | some ns => do
    let token ← SweepProgram.secretText ns fleet.tokensSecret paasTokenKey
    let proxy ← resolveProxy ns fleet.proxy?
    let settings : ClientSettings := {
      apiUrl := fleet.spec.apiUrl
      paasToken := token
      proxy := proxy
      networkZone := fleet.spec.networkZone
      skipCertCheck := fleet.spec.skipCertCheck }
    SweepProgram.buildClient settings
    let connection ← SweepProgram.connectionInfo settings
    let latest ← SweepProgram.latestVersion settings agentOs agentInstaller
    SweepProgram.onDisk (collect root connection.tenantUuid latest)

/-- The cycle of a fleet, with the seconds until the next one. -/
def reconcileSweep (root : String) (fleet : Fleet) : Dialogue sweepInterface Nat :=
  (ExceptT.run (sweepFleet root fleet)).bind fun _ => .done sweepInterval

end FleetOperator
