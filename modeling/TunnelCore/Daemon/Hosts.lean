import TunnelCore.Daemon.Daemon
import Mathlib.Algebra.Ring.Nat
import Mathlib.Data.Finset.Basic

namespace TunnelCore.Daemon

open TunnelCore.Action

/-- What the daemon's calls change on a host: the tunnel process, the route monitor, and the
exclusion and tunnel routes it has set and not deleted. System calls succeed. -/
structure HostState where
  tunnel : Bool
  monitor : Bool
  exclusions : Finset IPAddress
  routes : Finset IPAddress
deriving DecidableEq

def stopped : HostState where
  tunnel := false
  monitor := false
  exclusions := ∅
  routes := ∅

def IPAddress.Valid (ip : IPAddress) : Prop := ip.address ≠ .null

instance (ip : IPAddress) : Decidable ip.Valid := inferInstanceAs (Decidable (_ ≠ _))

def fails : Action HostState := fun s => (false, s)

def whenMonitored (a : Action HostState) : Action HostState := branch HostState.monitor a fails

/-- The two exclusion calls that `updatePeer` and `deletePeer` make for a peer's server. -/
def forServer (qt : Qt) (f : IPAddress → Action HostState) (config : InterfaceConfig) : Action HostState :=
  branch (fun s => config.hopType ≠ .multiHopExit && s.monitor)
    ((f (.ofString qt (config.serverIpv4AddrIn.getD ""))).ignore.andThen
      (f (.ofString qt (config.serverIpv6AddrIn.getD ""))).ignore)
    skip

/-- `updatePeer` needs an endpoint; the peer itself is not part of the state. -/
def updatePeer (qt : Qt) (add : IPAddress → Action HostState) (config : InterfaceConfig) : Action HostState :=
  if config.serverIpv4AddrIn = none ∧ config.serverIpv6AddrIn = none then fails else forServer qt add config

namespace Linux

def rtmSendRoute (f : HostState → HostState) (ip : IPAddress) : Action HostState :=
  if ip.Valid then update f else fails

def insertRoute (ip : IPAddress) : Action HostState :=
  rtmSendRoute (fun s => { s with routes := insert ip s.routes }) ip

def deleteRoute (ip : IPAddress) : Action HostState :=
  rtmSendRoute (fun s => { s with routes := s.routes.erase ip }) ip

def addExclusionRoute (ip : IPAddress) : Action HostState :=
  rtmSendRoute (fun s => { s with exclusions := insert ip s.exclusions }) ip

def deleteExclusionRoute (ip : IPAddress) : Action HostState :=
  rtmSendRoute (fun s => { s with exclusions := s.exclusions.erase ip }) ip

def lowerHalf : QHostAddress → IPAddress
  | .ipv6 _ => ⟨.ipv6 0, 1⟩
  | _ => ⟨.ipv4 0, 1⟩

def upperHalf : QHostAddress → IPAddress
  | .ipv6 _ => ⟨.ipv6 (BitVec.ofNat 128 (2 ^ 127)), 1⟩
  | _ => ⟨.ipv4 (BitVec.ofNat 32 (2 ^ 31)), 1⟩

def updateRoutePrefix (ip : IPAddress) : Action HostState :=
  whenMonitored <|
    if 0 < ip.prefixLength then insertRoute ip
    else if ip.Valid then (insertRoute (lowerHalf ip.address)).andThen (insertRoute (upperHalf ip.address))
    else fails

/-- The branch for a positive length calls `insertRoute`, as in the source. -/
def deleteRoutePrefix (ip : IPAddress) : Action HostState :=
  whenMonitored <|
    if 0 < ip.prefixLength then insertRoute ip
    else if ip.Valid then (deleteRoute (lowerHalf ip.address)).andThen (deleteRoute (upperHalf ip.address))
    else fails

/-- The default `WireguardUtils::addExclusionRoutes`; the second list is `addedPrefixes`. -/
def addExclusionRoutes : List IPAddress → List IPAddress → Action HostState
  | [], _ => skip
  | ip :: rest, addedPrefixes =>
    (onFailure (forEach (fun q => whenMonitored (deleteExclusionRoute q)) addedPrefixes)
      (whenMonitored (addExclusionRoute ip))).andThen (addExclusionRoutes rest (addedPrefixes ++ [ip]))

def addInterface : Action HostState :=
  branch HostState.tunnel fails (update fun s => { s with tunnel := true, monitor := true })

def deleteInterface : Action HostState :=
  (update fun s => { s with monitor := false }).andThen
    (branch HostState.tunnel (update fun s => { s with tunnel := false }) fails)

def platform (qt : Qt) : Platform HostState where
  supportIPUtils := true
  call
    | .interfaceExists => branch HostState.tunnel skip fails
    | .addInterface _ => addInterface
    | .deleteInterface => deleteInterface
    | .updatePeer config => updatePeer qt addExclusionRoute config
    | .deletePeer config => forServer qt deleteExclusionRoute config
    | .updateRoutePrefix ip => updateRoutePrefix ip
    | .deleteRoutePrefix ip => deleteRoutePrefix ip
    | .addExclusionRoutes ips => addExclusionRoutes ips []
    | .deleteExclusionRoute ip => whenMonitored (deleteExclusionRoute ip)
    | _ => skip

end Linux

namespace Windows

variable (routable : QHostAddress → Bool)

/-- Prefixes of unknown families are refused, and non-routable ones silently ignored. -/
def addExclusionRoutes (ips : List IPAddress) : Action HostState :=
  if ∀ ip ∈ ips, ip.Valid then
    update fun s => { s with exclusions := s.exclusions ∪ (ips.filter (routable ·.address)).toFinset }
  else fails

def deleteExclusionRoute (ip : IPAddress) : Action HostState :=
  update fun s => { s with exclusions := s.exclusions.erase ip }

def addInterface : Action HostState :=
  update fun s => { s with tunnel := true, monitor := true, exclusions := ∅ }

def platform (qt : Qt) : Platform HostState where
  supportIPUtils := false
  call
    | .interfaceExists => branch HostState.tunnel skip fails
    | .addInterface _ => addInterface
    | .deleteInterface => update fun s => { s with tunnel := false }
    | .updatePeer config => updatePeer qt (fun ip => addExclusionRoutes routable [ip]) config
    | .deletePeer config => forServer qt deleteExclusionRoute config
    | .updateRoutePrefix ip => update fun s => { s with routes := insert ip s.routes }
    | .deleteRoutePrefix ip => update fun s => { s with routes := s.routes.erase ip }
    | .addExclusionRoutes ips => whenMonitored (addExclusionRoutes routable ips)
    | .deleteExclusionRoute ip => whenMonitored (deleteExclusionRoute ip)
    | _ => skip

end Windows

inductive Host
  | linux
  | windows
deriving DecidableEq

/-- The platform of a host; `routable` is false of the loopback, broadcast, link-local and
multicast addresses that the Windows route monitor ignores. -/
def Host.platform (qt : Qt) (routable : QHostAddress → Bool) : Host → Platform HostState
  | .linux => Linux.platform qt
  | .windows => Windows.platform routable qt

section

variable {qt : Qt} {P : HostState → Prop}

theorem triple_rtmSendRoute {f : HostState → HostState} (hf : ∀ s, P s → P (f s)) (ip : IPAddress) :
    Triple P (Linux.rtmSendRoute f ip) P P := by
  rw [Linux.rtmSendRoute]
  split
  · exact triple_update hf
  · exact fun _ => id

theorem triple_whenMonitored {a : Action HostState} (ha : Triple P a P P) : Triple P (whenMonitored a) P P :=
  triple_branch_either ha fun _ => id

theorem triple_forServer {f : IPAddress → Action HostState} {config : InterfaceConfig}
    (h4 : Triple P (f (.ofString qt (config.serverIpv4AddrIn.getD ""))) P P)
    (h6 : Triple P (f (.ofString qt (config.serverIpv6AddrIn.getD ""))) P P) :
    Triple P (forServer qt f config) P P :=
  triple_branch_either (triple_andThen (triple_ignore h4) (triple_ignore h6)) fun _ => id

end

end TunnelCore.Daemon
