import TunnelCore.Library.Jobs

namespace TunnelCore.Android.VpnService

open Jobs

inductive ProtocolState
  | connected
  | connecting
  | disconnected
  | disconnecting
  | reconnecting
  | unknown
deriving DecidableEq

/-- Where a connection job stands. From `entering` on it has no suspension point left. -/
inductive ConnectionPhase
  | launched
  | joining (disconnectionJob : Nat)
  | entering
  | starting
  | completed
deriving DecidableEq

inductive DisconnectionPhase
  | launched
  | joining (connectionJob : Nat)
  | stopping
  | waiting
  | completed
deriving DecidableEq

/-- The service and its WireGuard protocol. Of `statusJob` only counts whether it is running, of `stopService` whether
it was called. -/
structure Service where
  protocolState : ProtocolState := .unknown
  connectionJob : Option Nat := none
  disconnectionJob : Option Nat := none
  connections : List (Job ConnectionPhase) := []
  disconnections : List (Job DisconnectionPhase) := []
  isInitialized : Bool := false
  tunnelHandle : Int := -1
  statusJob : Bool := false
  stopService : Bool := false

inductive ConfigCheck
  | invalidJson
  | unknownProtocol
  | wireguard
deriving DecidableEq

structure Request where
  config : ConfigCheck
  permission : Bool

/-- What the outside does when a connection is started; the backend may throw. -/
structure Backend where
  loadsLibrary : Bool
  parsesConfig : Bool
  establishes : Bool
  awgTurnOn : Option Int
  protects : Bool

namespace Service

def connectToVpn (request : Request) (s : Service) : Service :=
  if s.protocolState = .connected ∨ s.protocolState = .connecting then s
  else match request.config with
    | .invalidJson | .unknownProtocol => { s with protocolState := .disconnected }
    | .wireguard =>
      let s := { s with protocolState := .connecting }
      if request.permission then
        { s with connectionJob := some s.connections.length, connections := launch .launched s.connections }
      else { s with protocolState := .disconnected }

def AcceptsConnect (s : Service) (request : Request) : Prop :=
  s.protocolState ≠ .connected ∧ s.protocolState ≠ .connecting ∧ request.config = .wireguard ∧
    request.permission = true

instance (s : Service) (request : Request) : Decidable (s.AcceptsConnect request) :=
  inferInstanceAs (Decidable (_ ∧ _))

def AcceptsDisconnect (s : Service) : Prop :=
  s.protocolState ≠ .unknown ∧ s.protocolState ≠ .disconnected ∧ s.protocolState ≠ .disconnecting

instance (s : Service) : Decidable s.AcceptsDisconnect := inferInstanceAs (Decidable (_ ∧ _))

def disconnect (s : Service) : Service :=
  if s.AcceptsDisconnect then
    { s with
      protocolState := .disconnecting
      disconnectionJob := some s.disconnections.length
      disconnections := launch .launched s.disconnections }
  else s

def connectionExceptionHandler (s : Service) : Service :=
  { s with
    connections := s.connectionJob.elim s.connections (cancel · s.connections)
    connectionJob := none
    disconnections := s.disconnectionJob.elim s.disconnections (cancel · s.disconnections)
    disconnectionJob := none
    protocolState := .disconnected }

/-- `Protocol.initialize` with the `internalInit` of `Wireguard`; nothing where the library does not load. -/
def internalInit (backend : Backend) (s : Service) : Option Service :=
  if s.isInitialized || backend.loadsLibrary then some { s with isInitialized := true, statusJob := false } else none

def turnOffVpn (s : Service) : Service := { s with statusJob := false, tunnelHandle := -1 }

/-- The result, and whether the start came to its end without an exception. -/
def start (backend : Backend) (s : Service) : Service × Bool :=
  if s.tunnelHandle ≠ -1 then (s, true)
  else if !backend.establishes then (s, false)
  else match backend.awgTurnOn with
    | none => (s, false)
    | some handle =>
      if handle < 0 then ({ s with tunnelHandle := -1 }, false)
      else
        let s := { s with tunnelHandle := handle }
        if backend.protects then ({ s with statusJob := true }, true) else (turnOffVpn s, false)

def startVpn (backend : Backend) (s : Service) : Service × Bool :=
  if backend.parsesConfig then start backend s else (s, false)

def stopVpn (s : Service) : Service :=
  if s.tunnelHandle = -1 then s else { turnOffVpn s with protocolState := .disconnected }

def moveConnection (id : Nat) (phase : ConnectionPhase) (s : Service) : Service :=
  { s with connections := moveTo id phase s.connections }

def moveDisconnection (id : Nat) (phase : DisconnectionPhase) (s : Service) : Service :=
  { s with disconnections := moveTo id phase s.disconnections }

/-- The end of a connection job; its exception goes through the handler before the job counts as completed. -/
def endConnection (id : Nat) (s : Service) (succeeded : Bool) : Service :=
  moveConnection id .completed (if succeeded then s else connectionExceptionHandler s)

/-- The next step of a connection job. A cancellation takes effect where the job starts and where it joins. -/
def stepConnection (id : Nat) (backend : Backend) (s : Service) (job : Job ConnectionPhase) : Service :=
  match job.phase with
  | .launched =>
    if job.cancelled then moveConnection id .completed s
    else moveConnection id (s.disconnectionJob.elim .entering .joining) s
  | .joining disconnectionJob =>
    if job.cancelled then moveConnection id .completed s
    else if (phaseOf s.disconnections disconnectionJob).getD .completed = .completed then
      moveConnection id .entering s
    else s
  | .entering =>
    let s := { s with disconnectionJob := none }
    match internalInit backend s with
    | some s => moveConnection id .starting s
    | none => endConnection id s false
  | .starting => endConnection id (startVpn backend s).1 (startVpn backend s).2
  | .completed => s

def stepDisconnection (id : Nat) (s : Service) (job : Job DisconnectionPhase) : Service :=
  match job.phase with
  | .launched =>
    if job.cancelled then moveDisconnection id .completed s
    else match s.connectionJob with
      | none => moveDisconnection id .stopping s
      | some connectionJob =>
        moveDisconnection id (.joining connectionJob)
          { s with connections := cancel connectionJob s.connections }
  | .joining connectionJob =>
    if job.cancelled then moveDisconnection id .completed s
    else if (phaseOf s.connections connectionJob).getD .completed = .completed then
      moveDisconnection id .stopping s
    else s
  | .stopping => moveDisconnection id .waiting (stopVpn { s with connectionJob := none })
  | .waiting =>
    if job.cancelled ∨ s.protocolState = .disconnected then moveDisconnection id .completed s else s
  | .completed => s

def timeoutDisconnection (id : Nat) (s : Service) (job : Job DisconnectionPhase) : Service :=
  if job.phase = .waiting then moveDisconnection id .completed { s with stopService := true } else s

/-- `reported` is what the backend says of an open tunnel. -/
def getLastHandshake (reported : Int) (s : Service) : Int := if s.tunnelHandle = -1 then -1 else reported

def stepStatus (reported : Int) (s : Service) : Service :=
  let lastHandshake := s.getLastHandshake reported
  if !s.statusJob || lastHandshake = 0 then s
  else if lastHandshake = -2 ∨ 0 < lastHandshake then
    { s with protocolState := .connected, statusJob := false }
  else if lastHandshake = -1 then { s with protocolState := .disconnected, statusJob := false }
  else { s with statusJob := false }

end Service

/-- What can come next: a call of the main thread, or a step of one of the jobs. A step of a job goes to its
next suspension point or to the next of its calls into the protocol, whichever comes first. -/
inductive Step
  | connect (request : Request)
  | disconnect
  | connection (id : Nat) (backend : Backend)
  | disconnection (id : Nat)
  | timeout (id : Nat)
  | status (reported : Int)

def Step.run (s : Service) : Step → Service
  | .connect request => s.connectToVpn request
  | .disconnect => s.disconnect
  | .connection id backend => s.connections[id]?.elim s (s.stepConnection id backend)
  | .disconnection id => s.disconnections[id]?.elim s (s.stepDisconnection id)
  | .timeout id => s.disconnections[id]?.elim s (s.timeoutDisconnection id)
  | .status reported => s.stepStatus reported

def run (steps : List Step) : Service := steps.foldl Step.run {}

end TunnelCore.Android.VpnService
