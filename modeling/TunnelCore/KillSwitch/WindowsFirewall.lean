import TunnelCore.Daemon.Config

namespace TunnelCore.WindowsFirewall

open Daemon

inductive Layer
  | connectV4
  | connectV6
  | recvAcceptV4
  | recvAcceptV6
  | outboundMac
  | inboundMac
deriving DecidableEq

/-- `FWP_VALUE0` of an address. -/
inductive Value
  | uint32 (address : BitVec 32)
  | byteArray16 (address : BitVec 128)
deriving DecidableEq

def Value.le : Value → Value → Bool
  | .uint32 a, .uint32 b => a ≤ b
  | .byteArray16 a, .byteArray16 b => a ≤ b
  | _, _ => false

inductive Protocol
  | udp
  | tcp
  | other
deriving DecidableEq

structure Traffic where
  layer : Layer
  remoteAddress : Value
  protocol : Protocol
  localPort : Nat
  remotePort : Nat
  interfaceIndex : Int
  appId : String
  isVm2Vm : Bool := false

inductive Condition
  | protocol (p : Protocol)
  | localPort (port : Nat)
  | remotePort (port : Nat)
  | remoteAddress (a : Value)
  | remoteRange (low high : Value)
  | interfaceIndex (index : Int)
  | appId (path : String)
  | isVm2Vm
deriving DecidableEq

inductive Field
  | protocol
  | localPort
  | remotePort
  | remoteAddress
  | interfaceIndex
  | appId
  | l2Flags
deriving DecidableEq

def Condition.field : Condition → Field
  | .protocol _ => .protocol
  | .localPort _ => .localPort
  | .remotePort _ => .remotePort
  | .remoteAddress _ | .remoteRange _ _ => .remoteAddress
  | .interfaceIndex _ => .interfaceIndex
  | .appId _ => .appId
  | .isVm2Vm => .l2Flags

def Condition.holds (t : Traffic) : Condition → Bool
  | .protocol p => t.protocol = p
  | .localPort port => t.localPort = port
  | .remotePort port => t.remotePort = port
  | .remoteAddress a => t.remoteAddress = a
  | .remoteRange low high => low.le t.remoteAddress && t.remoteAddress.le high
  | .interfaceIndex index => t.interfaceIndex = index
  | .appId path => t.appId = path
  | .isVm2Vm => t.isVm2Vm

inductive FilterAction
  | permit
  | block
deriving DecidableEq

structure Filter where
  layer : Layer
  conditions : List Condition
  action : FilterAction
  weight : Nat
deriving DecidableEq

def Filter.covers (f : Filter) (t : Traffic) : Bool :=
  f.layer = t.layer && f.conditions.all fun c => f.conditions.any fun d => d.field = c.field && d.holds t

def Blocked (filters : List Filter) (t : Traffic) : Prop :=
  ∃ f ∈ filters, f.covers t ∧ f.action = .block ∧
    ∀ g ∈ filters, g.covers t → g.action = .permit → g.weight < f.weight

instance (filters : List Filter) (t : Traffic) : Decidable (Blocked filters t) :=
  inferInstanceAs (Decidable (∃ f ∈ filters, _))

theorem blocked_iff {filters : List Filter} {t : Traffic} {weight : Nat}
    (hblock : ∃ f ∈ filters, f.covers t ∧ f.action = .block ∧ f.weight = weight)
    (hmax : ∀ f ∈ filters, f.covers t → f.action = .block → f.weight ≤ weight) :
    Blocked filters t ↔ ∀ g ∈ filters, g.covers t → g.action = .permit → g.weight < weight := by
  constructor
  · rintro ⟨f, hf, hcovers, haction, h⟩ g hg hgc hga
    exact lt_of_lt_of_le (h g hg hgc hga) (hmax f hf hcovers haction)
  · intro h
    obtain ⟨f, hf, hcovers, haction, rfl⟩ := hblock
    exact ⟨f, hf, hcovers, haction, h⟩

def lowWeight : Nat := 0

def medWeight : Nat := 7

def highWeight : Nat := 13

def maxWeight : Nat := 15

/-- The filters of the session with their ids, and the ids that the class has written down. -/
structure State where
  engine : List (Nat × Filter) := []
  nextId : Nat := 0
  activeRules : List Nat := []
  peerRules : List (String × Nat) := []

def State.filters (s : State) : List Filter := s.engine.map Prod.snd

def enableFilter (peer : String) (s : State) (f : Filter) : State :=
  { engine := s.engine ++ [(s.nextId, f)]
    nextId := s.nextId + 1
    activeRules := if peer = "" then s.activeRules ++ [s.nextId] else s.activeRules
    peerRules := if peer = "" then s.peerRules else s.peerRules ++ [(peer, s.nextId)] }

def enableFilters (filters : List Filter) (peer : String) (s : State) : State := filters.foldl (enableFilter peer) s

def deleteFilters (ids : List Nat) (s : State) : State := { s with engine := s.engine.filter fun e => e.1 ∉ ids }

def importAddress : QHostAddress → Value
  | .ipv4 a => .uint32 a
  | .ipv6 a => .byteArray16 a
  | .null => .byteArray16 0

def broadcastAddress (a : IPAddress) : QHostAddress :=
  match a.address with
  | .ipv4 address => .ipv4 (address ||| (0xFFFFFFFF >>> a.prefixLength.toNat))
  | .ipv6 address => .ipv6 (address ||| (BitVec.allOnes 128 >>> a.prefixLength.toNat))
  | .null => .null

def layers : QHostAddress → List Layer
  | .ipv4 _ => [.connectV4, .recvAcceptV4]
  | _ => [.connectV6, .recvAcceptV6]

def rangeCondition (addr : IPAddress) : Condition :=
  .remoteRange (importAddress addr.address) (importAddress (broadcastAddress addr))

def rangeFilters (action : FilterAction) (addr : IPAddress) (weight : Nat) : List Filter :=
  (layers addr.address).map fun layer => ⟨layer, [rangeCondition addr], action, weight⟩

def allowTrafficTo (addr : IPAddress) (weight : Nat) (peer : String) : State → State :=
  enableFilters (rangeFilters .permit addr weight) peer

def blockTrafficTo (addr : IPAddress) (weight : Nat) (peer : String) : State → State :=
  enableFilters (rangeFilters .block addr weight) peer

def allowTrafficToPort (targetIP : QHostAddress) (port weight : Nat) (peer : String) : State → State :=
  enableFilters
    ((layers targetIP).map fun layer =>
      ⟨layer, [.protocol .udp, .protocol .tcp, .remotePort port, .remoteAddress (importAddress targetIP)], .permit,
        weight⟩) peer

def appFilters (exePath : String) (weight : Nat) : List Filter :=
  [.connectV4, .recvAcceptV4].map fun layer => ⟨layer, [.appId exePath], .permit, weight⟩

def allowTrafficForAppOnAll (exePath : String) (weight : Nat) : State → State :=
  enableFilters (appFilters exePath weight) ""

def adapterFilters (networkAdapter : Int) (weight : Nat) : List Filter :=
  [.connectV4, .recvAcceptV4, .connectV6, .recvAcceptV6].map fun layer =>
    ⟨layer, [.interfaceIndex networkAdapter], .permit, weight⟩

def allowTrafficOfAdapter (networkAdapter : Int) (weight : Nat) : State → State :=
  enableFilters (adapterFilters networkAdapter weight) ""

def dhcpConditions : List Condition := [.protocol .udp, .localPort 68, .remotePort 67]

def dhcpFilters (weight : Nat) : List Filter :=
  [⟨.connectV4, dhcpConditions ++ [.remoteAddress (.uint32 0xFFFFFFFF)], .permit, weight⟩,
    ⟨.recvAcceptV4, dhcpConditions, .permit, weight⟩, ⟨.connectV6, dhcpConditions, .permit, weight⟩,
    ⟨.recvAcceptV6, dhcpConditions, .permit, weight⟩]

def allowDHCPTraffic (weight : Nat) : State → State := enableFilters (dhcpFilters weight) ""

def hyperVFilters (weight : Nat) : List Filter :=
  [.outboundMac, .inboundMac].map fun layer => ⟨layer, [.isVm2Vm], .permit, weight⟩

def allowHyperVTraffic (weight : Nat) : State → State := enableFilters (hyperVFilters weight) ""

def portFilters (port weight : Nat) : List Filter :=
  [.connectV6, .connectV4, .recvAcceptV4, .recvAcceptV6].map fun layer =>
    ⟨layer, [.protocol .udp, .protocol .tcp, .remotePort port], .block, weight⟩

def blockTrafficOnPort (port weight : Nat) : State → State := enableFilters (portFilters port weight) ""

/-- The machine the service runs on: the path of its program and its loopback interfaces. -/
structure Host where
  currentPath : String
  loopbackInterfaces : List Int

def allowLoopbackTraffic (host : Host) (weight : Nat) (s : State) : State :=
  host.loopbackInterfaces.foldl (fun s index => allowTrafficOfAdapter index weight s) s

/-- `IPAddress("0.0.0.0/0")` -/
def allv4 : IPAddress := ⟨.ipv4 0, 0⟩

/-- `IPAddress("::/0")` -/
def allv6 : IPAddress := ⟨.ipv6 0, 0⟩

def enableInterface (host : Host) (vpnAdapterIndex : Int) (s : State) : State :=
  (if vpnAdapterIndex < 0 then
      blockTrafficTo allv6 medWeight "killswitch" (blockTrafficTo allv4 medWeight "killswitch" s)
    else allowTrafficOfAdapter vpnAdapterIndex medWeight s)
    |> allowDHCPTraffic medWeight
    |> allowHyperVTraffic maxWeight
    |> allowTrafficForAppOnAll host.currentPath maxWeight
    |> blockTrafficOnPort 53 medWeight
    |> allowLoopbackTraffic host medWeight

def enableLanBypass (ranges : List IPAddress) (s : State) : State :=
  ranges.foldl (fun s addr => allowTrafficTo addr (lowWeight + 1) "" s) s

def allowTrafficRange (qt : Qt) (ranges : List String) (s : State) : State :=
  ranges.foldl (fun s addr => allowTrafficTo (.ofHost (qt.hostAddress addr)) highWeight "" s) s

/-- A DNS server of the configuration, and the gateway's IPv6 address where the server is the gateway. -/
def allowDnsServer (qt : Qt) (config : InterfaceConfig) (server : String) (s : State) : State :=
  if server = "" then s
  else if server = config.serverIpv4Gateway then
    allowTrafficToPort (qt.hostAddress config.serverIpv6Gateway) 53 highWeight config.serverPublicKey
      (allowTrafficToPort (qt.hostAddress server) 53 highWeight config.serverPublicKey s)
  else allowTrafficToPort (qt.hostAddress server) 53 highWeight config.serverPublicKey s

def enablePeerTraffic (qt : Qt) (config : InterfaceConfig) (s : State) : State :=
  let peer := config.serverPublicKey
  let s := config.allowedIPAddressRanges.foldl (fun s range => blockTrafficTo range lowWeight peer s) s
  let s := allowDnsServer qt config config.primaryDnsServer s
  let s := allowDnsServer qt config config.secondaryDnsServer s
  let s := config.allowedDnsServers.foldl
    (fun s dns => allowTrafficToPort (qt.hostAddress dns) 53 highWeight peer s) s
  config.excludedAddresses.foldl (fun s i => allowTrafficTo (.ofString qt i) highWeight peer s) s

def disablePeerTraffic (pubkey : String) (s : State) : State :=
  { deleteFilters ((s.peerRules.filter (·.1 = pubkey)).map Prod.snd) s with
    peerRules := s.peerRules.filter (·.1 ≠ pubkey) }

def allowAllTraffic (s : State) : State :=
  { deleteFilters (s.peerRules.map Prod.snd ++ s.activeRules) s with peerRules := [], activeRules := [] }

end TunnelCore.WindowsFirewall
