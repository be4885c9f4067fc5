import TunnelCore.Connection.SplitTunnelConfig

namespace TunnelCore.Connection

open Daemon

inductive ConnectionState
  | unknown
  | disconnected
  | preparing
  | connecting
  | connected
  | disconnecting
  | reconnecting
  | error
deriving DecidableEq

/-- The protocol classes: `WireguardProtocol` also serves the AWG containers, `XrayProtocol` the Shadowsocks ones. -/
inductive Kind
  | wireGuard
  | openVpn
  | xray
deriving DecidableEq

structure DelayedRouting where
  mode : RouteMode
  session : Nat

structure Protocol where
  kind : Kind
  state : ConnectionState := .unknown
  vpnGateway : String
  routeGateway : String
  routeMode : RouteMode
  /-- The management server of OpenVPN listens. -/
  management : Bool := false
  /-- There is an OpenVPN or tun2socks process whose signals arrive. -/
  process : Bool := false
  tun2socksRetryCount : Nat := 0
  /-- The retries of tun2socks that wait for their timer. -/
  pendingRetries : Nat := 0
  /-- The timers have the protocol object as their context and go away with it. -/
  delayed : List DelayedRouting := []

structure Lookup where
  site : String
  gw : String
  mode : RouteMode
  ips : List String
  session : Nat

/-- An entry of the service's `m_addedRoutes` and the session that asked for it. -/
structure Route where
  dst : String
  gw : String
  session : Nat
deriving DecidableEq

/-- What the event loop brings while the connection waits for the service. -/
inductive Delivery
  | delayedRouting (i : Nat)
  | lookupAnswered (i : Nat) (addresses : List QHostAddress)

/-- `VpnConnection` with its protocol object, the settings it reads, the lookups it has started and the list of routes
that the service keeps for it. A session lasts until its routes are cleared; `session` counts the ones before. -/
structure VpnConnection where
  state : ConnectionState
  emitted : List ConnectionState
  protocol : Option Protocol
  configuration : JsonObject
  remoteAddress : String
  settings : Settings
  /-- The default server's container is one of AWG or WireGuard. -/
  isWireGuardContainer : Bool
  savedRoutes : List Route
  lookups : List Lookup
  session : Nat
  /-- What each of the next waits brings. -/
  waits : List (List Delivery)

namespace VpnConnection

def start (settings : Settings) (isWireGuardContainer : Bool) : VpnConnection where
  state := .disconnected
  emitted := []
  protocol := none
  configuration := []
  remoteAddress := ""
  settings := settings
  isWireGuardContainer := isWireGuardContainer
  savedRoutes := []
  lookups := []
  session := 0
  waits := []

def modifyProtocol (f : Protocol → Protocol) (c : VpnConnection) : VpnConnection :=
  { c with protocol := c.protocol.map f }

def setManagement (listens : Bool) (c : VpnConnection) : VpnConnection :=
  c.modifyProtocol fun p => { p with management := listens }

def setProcess (runs : Bool) (c : VpnConnection) : VpnConnection :=
  c.modifyProtocol fun p => { p with process := runs }

def setRetries (count pending : Nat) (c : VpnConnection) : VpnConnection :=
  c.modifyProtocol fun p => { p with tun2socksRetryCount := count, pendingRetries := pending }

def eraseDelayed (i : Nat) (c : VpnConnection) : VpnConnection :=
  c.modifyProtocol fun p => { p with delayed := p.delayed.eraseIdx i }

section Routes

variable (qt : Qt)

def ipAddressFromIpWithSubnet (ip : String) : String :=
  if ip.toList.count '.' = 3 then .ofList ((ip.toList.splitOn '/').headD []) else ""

def isRoutable (gw ip : String) : Bool :=
  checkIPv4Format qt (ipAddressFromIpWithSubnet ip) && checkIPv4Format qt gw

/-- The router saves the routes that it could add; one that is well formed is added. -/
def routeAddList (session : Nat) (gw : String) (ips : List String) (c : VpnConnection) : VpnConnection :=
  { c with savedRoutes := c.savedRoutes ++ (ips.filter (isRoutable qt gw)).map fun ip => ⟨ip, gw, session⟩ }

def addSitesRoutes (session : Nat) (gw : String) (mode : RouteMode) (c : VpnConnection) : VpnConnection :=
  let m := c.settings.vpnSites mode
  let ips := siteAddresses qt m
  let sites := (m.map (·.1)).filter fun site => !checkIpSubnetFormat qt site
  { routeAddList qt session gw ips c with
    lookups := c.lookups ++ sites.map fun site => ⟨site, gw, mode, ips, session⟩ }

def delaySitesRoutes (mode : RouteMode) (c : VpnConnection) : VpnConnection :=
  c.modifyProtocol fun p => { p with delayed := p.delayed ++ [⟨mode, c.session⟩] }

def addExceptSitesRoutes (mode : RouteMode) (p : Protocol) (c : VpnConnection) : VpnConnection :=
  addSitesRoutes qt c.session p.routeGateway mode
    (routeAddList qt c.session p.routeGateway [c.remoteAddress]
      (routeAddList qt c.session p.vpnGateway ["128.0.0.0/1"]
        (routeAddList qt c.session p.vpnGateway ["0.0.0.0/1"] c)))

/-- The routes of the sites in a session that has connected. Deleting a route leaves the saved list alone. -/
def addSplitRoutes (p : Protocol) (c : VpnConnection) : VpnConnection :=
  if c.settings.sitesSplitTunnelingEnabled then
    if c.settings.routeMode = .vpnOnlyForwardSites then delaySitesRoutes c.settings.routeMode c
    else if c.settings.routeMode = .vpnAllExceptSites then addExceptSitesRoutes qt c.settings.routeMode p c
    else c
  else c

def addConnectedRoutes (c : VpnConnection) : VpnConnection :=
  match c.protocol with
  | none => c
  | some p =>
    if c.isWireGuardContainer then c
    else
      addSplitRoutes qt p (routeAddList qt c.session p.vpnGateway
        [(c.configuration.value "dns1").toString, (c.configuration.value "dns2").toString] c)

def clearSavedRoutes (c : VpnConnection) : VpnConnection := { c with savedRoutes := [], session := c.session + 1 }

def fireDelayedRouting (i : Nat) (p : Protocol) (c : VpnConnection) : VpnConnection :=
  match p.delayed[i]? with
  | none => c
  | some t =>
    addSitesRoutes qt t.session p.vpnGateway t.mode (eraseDelayed i c)

/-- `QHostAddress::toString` of an IPv4 address. -/
def addressText (a : BitVec 32) : String :=
  let octet := fun i => toString ((a >>> (8 * i)).toNat % 256)
  octet 3 ++ "." ++ octet 2 ++ "." ++ octet 1 ++ "." ++ octet 0

def resolvedIps (addresses : List QHostAddress) : List String :=
  (addresses.filterMap fun
    | .ipv4 a => some (addressText a)
    | _ => none).eraseDups

/-- The callback of a lookup. The flush of the name cache that follows the last one is left out. -/
def answer (i : Nat) (addresses : List QHostAddress) (c : VpnConnection) : VpnConnection :=
  match c.lookups[i]? with
  | none => c
  | some l =>
    let newIps := (resolvedIps addresses).filter fun ip => ip ∉ l.ips
    { routeAddList qt l.session l.gw newIps c with
      lookups := c.lookups.eraseIdx i
      settings := if newIps = [] then c.settings else c.settings.addVpnSite l.mode l.site newIps }

def deliver (c : VpnConnection) : Delivery → VpnConnection
  | .delayedRouting i =>
    match c.protocol with
    | none => c
    | some p => fireDelayedRouting qt i p c
  | .lookupAnswered i addresses => answer qt i addresses c

/-- A wait for the service runs the event loop. -/
def waitForFinished (c : VpnConnection) : VpnConnection :=
  match c.waits with
  | [] => c
  | deliveries :: waits => deliveries.foldl (deliver qt) { c with waits := waits }

/-- The name cache is flushed first, and what comes after the routes were cleared is not cleared. -/
def onConnectionStateChanged (state : ConnectionState) (c : VpnConnection) : VpnConnection :=
  match state with
  | .connected => addConnectedRoutes qt (waitForFinished qt c)
  | .disconnected | .error => waitForFinished qt (clearSavedRoutes (waitForFinished qt c))
  | _ => c

def setConnectionState (state : ConnectionState) (c : VpnConnection) : VpnConnection :=
  let c := onConnectionStateChanged qt state c
  if state = .disconnected ∧ c.state = .reconnecting then c
  else { c with state := state, emitted := c.emitted ++ [state] }

/-- `VpnProtocol::setConnectionState`, with its signal connected to the function above. -/
def setProtocolState (state : ConnectionState) (c : VpnConnection) : VpnConnection :=
  match c.protocol with
  | none => c
  | some p =>
    if p.state = state ∨ p.state = .disconnected ∧ state = .disconnecting then c
    else setConnectionState qt state (c.modifyProtocol fun p => { p with state := state })

def setLastError (c : VpnConnection) : VpnConnection := setProtocolState qt .error c

end Routes

section Protocols

variable (qt : Qt)

def isActive (state : ConnectionState) : Bool := state ∈ [.preparing, .connecting, .connected, .reconnecting]

def cleanupResources (c : VpnConnection) : VpnConnection := setManagement false c

def stopOpenVpn (p : Protocol) (c : VpnConnection) : VpnConnection :=
  if isActive p.state then
    setProtocolState qt .disconnected (cleanupResources (setProtocolState qt .disconnecting c))
  else if p.state = .disconnecting then setProtocolState qt .disconnected (cleanupResources c)
  else cleanupResources c

def stop (c : VpnConnection) : VpnConnection :=
  match c.protocol with
  | none => c
  | some p =>
    match p.kind with
    | .wireGuard => setProtocolState qt .disconnected c
    | .openVpn => stopOpenVpn qt p c
    | .xray => setProtocolState qt .disconnected (setProcess false c)

/-- The destructor stops the protocol once more; its signals are still connected. -/
def destroy (c : VpnConnection) : VpnConnection := { stop qt c with protocol := none }

inductive StartOutcome
  | configMissing
  | serviceFailed
  | managementServerFailed
  | processFailed
  | started
deriving DecidableEq

def startOpenVpn (outcome : StartOutcome) (c : VpnConnection) : Bool × VpnConnection :=
  let c := cleanupResources c
  let listening := setProtocolState qt .connecting (setManagement true c)
  match outcome with
  | .configMissing => (false, setLastError qt c)
  | .serviceFailed => (false, c)
  | .managementServerFailed => (false, setLastError qt c)
  | .processFailed => (false, setLastError qt listening)
  | .started => (true, setProcess true listening)

/-- `start` of the current protocol and whether it returned `NoError`. WireGuard always does. -/
def startProtocol (outcome : StartOutcome) (c : VpnConnection) : Bool × VpnConnection :=
  match c.protocol with
  | none => (true, c)
  | some p =>
    match p.kind with
    | .wireGuard => (true, c)
    | .openVpn => startOpenVpn qt outcome c
    | .xray =>
      if outcome = .started then (true, setProcess true c) else (false, c)

def startOrFail (outcome : StartOutcome) (c : VpnConnection) : VpnConnection :=
  let result := startProtocol qt outcome c
  if result.1 then result.2 else setConnectionState qt .error result.2

end Protocols

/-- The arguments of `connectToVpn`, the class that the factory picks for the container, and what the calls of the
service and the system give. -/
structure Request where
  kind : Option Kind
  configuration : JsonObject
  remoteAddress : String
  routeGateway : String
  outcome : StartOutcome

def defaultLocalAddr : String := "10.33.0.2"

def factory (request : Request) (configuration : JsonObject) : Option Protocol :=
  request.kind.map fun kind =>
    { kind
      vpnGateway := if kind = .xray then defaultLocalAddr else ""
      routeGateway := request.routeGateway
      routeMode := .ofInt (configuration.value "splitTunnelType").toInt }

section Calls

variable (qt : Qt)

def connectToVpn (request : Request) (c : VpnConnection) : VpnConnection :=
  let c := setConnectionState qt .connecting { c with remoteAddress := request.remoteAddress }
  let c := destroy qt (stop qt c)
  let configuration := appendSplitTunnelingConfig qt c.settings request.configuration
  let c := { c with configuration := configuration, protocol := factory request configuration }
  if c.protocol.isSome then startOrFail qt request.outcome c else setConnectionState qt .error c

def reconnectToVpn (outcome : StartOutcome) (c : VpnConnection) : VpnConnection :=
  if c.protocol.isNone then c
  else if c.state ≠ .connected then c
  else startOrFail qt outcome (stop qt (setConnectionState qt .reconnecting c))

def disconnectFromVpn (c : VpnConnection) : VpnConnection :=
  if c.protocol.isNone then setConnectionState qt .disconnected c
  else destroy qt (stop qt (setConnectionState qt .disconnecting c))

end Calls

inductive ManagementState
  | connected
  | exiting
  | reconnecting

def ManagementState.toConnectionState : ManagementState → ConnectionState
  | .connected => .connected
  | .exiting => .disconnecting
  | .reconnecting => .reconnecting

/-- `setupRouting` fails before or after it has added its routes. -/
inductive RoutingOutcome
  | failedBefore
  | failedAfter
  | done
deriving DecidableEq

def subnets : List String :=
  ["1.0.0.0/8", "2.0.0.0/7", "4.0.0.0/6", "8.0.0.0/5", "16.0.0.0/4", "32.0.0.0/3", "64.0.0.0/2", "128.0.0.0/1"]

def maxTun2SocksRetries : Nat := 5

section Events

variable (qt : Qt)

def fail (c : VpnConnection) : VpnConnection := setLastError qt (stop qt c)

def setupRouting (outcome : RoutingOutcome) (p : Protocol) (c : VpnConnection) : VpnConnection :=
  if outcome ≠ .failedBefore ∧ p.routeMode = .vpnAllSites then routeAddList qt c.session p.vpnGateway subnets c else c

def tunReady (outcome : RoutingOutcome) (p : Protocol) (c : VpnConnection) : VpnConnection :=
  if outcome = .done then setProtocolState qt .connected (setupRouting qt outcome p c)
  else fail qt (setupRouting qt outcome p c)

def tunFinished (resourceBusy : Bool) (p : Protocol) (c : VpnConnection) : VpnConnection :=
  if resourceBusy ∧ p.tun2socksRetryCount < maxTun2SocksRetries then
    setRetries (p.tun2socksRetryCount + 1) (p.pendingRetries + 1) (setProcess false c)
  else fail qt (setRetries 0 p.pendingRetries c)

def retryTun2Socks (started : Bool) (p : Protocol) (c : VpnConnection) : VpnConnection :=
  let c := setRetries p.tun2socksRetryCount (p.pendingRetries - 1) c
  if started then setProcess true c else fail qt c

end Events

inductive Event
  | connectToVpn (request : Request)
  | disconnectFromVpn
  | reconnectToVpn (outcome : StartOutcome)
  | daemonConnected
  | daemonDisconnected
  | managementState (state : ManagementState)
  | vpnGateway (gw : String)
  | routeGateway (gw : String)
  | processFinished
  | tunReady (outcome : RoutingOutcome)
  | tunFinished (resourceBusy : Bool)
  | retryTun2Socks (started : Bool)
  | delivers (delivery : Delivery)
  | waits (waits : List (List Delivery))
  | settingsChanged (settings : Settings)
  | defaultContainerChanged (isWireGuardContainer : Bool)

section Run

variable (qt : Qt)

/-- A signal arrives only while there is a protocol object that can send it. -/
def onSignal (sends : Protocol → Bool) (handle : Protocol → VpnConnection → VpnConnection) (c : VpnConnection) :
    VpnConnection :=
  match c.protocol with
  | none => c
  | some p => if sends p then handle p c else c

def step (c : VpnConnection) : Event → VpnConnection
  | .connectToVpn request => connectToVpn qt request c
  | .disconnectFromVpn => disconnectFromVpn qt c
  | .reconnectToVpn outcome => reconnectToVpn qt outcome c
  | .daemonConnected => onSignal (·.kind = .wireGuard) (fun _ => setProtocolState qt .connected) c
  | .daemonDisconnected => onSignal (·.kind = .wireGuard) (fun _ => setProtocolState qt .disconnected) c
  | .managementState state =>
    onSignal (fun p => p.kind = .openVpn && p.management) (fun _ => setProtocolState qt state.toConnectionState) c
  | .vpnGateway gw => onSignal (·.kind ≠ .xray) (fun _ => modifyProtocol fun p => { p with vpnGateway := gw }) c
  | .routeGateway gw => onSignal (·.kind = .openVpn) (fun _ => modifyProtocol fun p => { p with routeGateway := gw }) c
  | .processFinished =>
    onSignal (fun p => p.kind = .openVpn && p.process)
      (fun _ c => setProtocolState qt .disconnected (setProcess false c)) c
  | .tunReady outcome => onSignal (fun p => p.kind = .xray && p.process) (tunReady qt outcome) c
  | .tunFinished resourceBusy => onSignal (fun p => p.kind = .xray && p.process) (tunFinished qt resourceBusy) c
  | .retryTun2Socks started =>
    onSignal (fun p => p.kind = .xray && 0 < p.pendingRetries) (retryTun2Socks qt started) c
  | .delivers delivery => deliver qt c delivery
  | .waits waits => { c with waits := waits }
  | .settingsChanged settings => { c with settings := settings }
  | .defaultContainerChanged isWireGuardContainer => { c with isWireGuardContainer := isWireGuardContainer }

def run (settings : Settings) (isWireGuardContainer : Bool) (events : List Event) : VpnConnection :=
  events.foldl (step qt) (start settings isWireGuardContainer)

end Run

end VpnConnection

end TunnelCore.Connection
