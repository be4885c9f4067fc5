import TunnelCore.Daemon.Config
import TunnelCore.Library.Action

namespace TunnelCore.Daemon

open TunnelCore.Action

inductive Signal
  | activationFailure
  | disconnected
deriving DecidableEq

structure ConnectionState where
  date : Option Int := none
  config : InterfaceConfig
deriving DecidableEq

/-- The members of `Daemon` together with the state of the platform it drives. -/
structure State (σ : Type) where
  connections : HopType → Option ConnectionState
  excludedAddrSet : AList (fun _ : IPAddress => Nat)
  platform : σ
  signals : List Signal := []

variable {σ : Type}

def start (platform : σ) : State σ := { connections := fun _ => none, excludedAddrSet := ∅, platform := platform }

namespace State

def active (d : State σ) : List ConnectionState := HopType.all.filterMap d.connections

def connect (config : InterfaceConfig) (d : State σ) : State σ :=
  { d with connections := Function.update d.connections config.hopType (some { config := config }) }

def emit (signal : Signal) (d : State σ) : State σ := { d with signals := d.signals ++ [signal] }

/-- `m_excludedAddrSet[ip]` read through the non-const operator, which inserts a missing key. -/
def touch (ip : IPAddress) (d : State σ) : State σ :=
  if ip ∈ d.excludedAddrSet then d else { d with excludedAddrSet := d.excludedAddrSet.insert ip 0 }

def count (d : State σ) (ip : IPAddress) : Nat := (d.excludedAddrSet.lookup ip).getD 0

def setCount (ip : IPAddress) (n : Nat) (d : State σ) : State σ :=
  { d with excludedAddrSet := d.excludedAddrSet.insert ip n }

def removeCount (ip : IPAddress) (d : State σ) : State σ := { d with excludedAddrSet := d.excludedAddrSet.erase ip }

end State

section

variable (qt : Qt) (pf : Platform σ)

def call (c : Call) : Action (State σ) := fun d =>
  ((pf.call c d.platform).1, { d with platform := (pf.call c d.platform).2 })

def prefixes (addresses : List String) : List IPAddress := addresses.map (IPAddress.ofString qt)

def hostKeys (addresses : List String) : List IPAddress :=
  addresses.map fun a => .ofHost (qt.hostAddress a)

/-- `requestedPrefixes` is the list of the parsed addresses; its keys are their first occurrences
and its values how often each occurs. -/
def addExclusionRoutes (addresses : List String) : Action (State σ) :=
  inspect fun d =>
    (call pf (.addExclusionRoutes ((prefixes qt addresses).dedup.filter (· ∉ d.excludedAddrSet)))).andThen
      (forEach (fun ip => update fun d => d.setCount ip (d.count ip + (prefixes qt addresses).count ip))
        (prefixes qt addresses).dedup)

def delExclusionRoute (ip : IPAddress) : Action (State σ) :=
  (update (State.touch ip)).andThen
    (branch (fun d => 1 < d.count ip) (update fun d => d.setCount ip (d.count ip - 1))
      ((call pf (.deleteExclusionRoute ip)).andThen (update (State.removeCount ip))))

/-- The scope guard both activation paths put around the exclusion routes they have added. -/
def exclusionRoutesGuard (addresses : List String) : Action (State σ) :=
  forEach (delExclusionRoute pf) (prefixes qt addresses)

def resolvers (config : InterfaceConfig) : List QHostAddress :=
  qt.hostAddress config.primaryDnsServer ::
    ((if config.secondaryDnsServer ≠ "" then [qt.hostAddress config.secondaryDnsServer] else []) ++
      (if config.primaryDnsServer = config.serverIpv4Gateway then [qt.hostAddress config.serverIpv6Gateway] else []))

def maybeUpdateResolvers (config : InterfaceConfig) : Action (State σ) :=
  if config.hopType = .multiHopExit ∨ config.hopType = .singleHop then
    call pf (.updateResolvers (resolvers qt config))
  else skip

def supportServerSwitching (current config : InterfaceConfig) : Bool :=
  current.privateKey = config.privateKey &&
    current.deviceIpv4Address.getD "" = config.deviceIpv4Address.getD "" &&
    current.deviceIpv6Address.getD "" = config.deviceIpv6Address.getD "" &&
    current.serverIpv4Gateway = config.serverIpv4Gateway && current.serverIpv6Gateway = config.serverIpv6Gateway

def restoreRoutes (lastConfig : InterfaceConfig) (updatedPrefixes : List IPAddress) : Action (State σ) :=
  (forEach (fun ip => if ip ∈ lastConfig.allowedIPAddressRanges then skip else call pf (.deleteRoutePrefix ip))
    updatedPrefixes).andThen (call pf (.updatePeer lastConfig)).ignore

/-- The route loop of `switchServer`; the second list is `updatedPrefixes`. -/
def switchRoutes (lastConfig : InterfaceConfig) : List IPAddress → List IPAddress → Action (State σ)
  | [], _ => skip
  | ip :: rest, updatedPrefixes =>
    (onFailure (restoreRoutes pf lastConfig updatedPrefixes) (call pf (.updateRoutePrefix ip))).andThen
      (switchRoutes lastConfig rest (updatedPrefixes ++ [ip]))

def switchServer (lastConfig config : InterfaceConfig) : Action (State σ) :=
  (addExclusionRoutes qt pf config.excludedAddresses).andThen <|
  (onFailure (exclusionRoutesGuard qt pf config.excludedAddresses)
    ((call pf (.updatePeer config)).andThen (switchRoutes pf lastConfig config.allowedIPAddressRanges []))).andThen <|
  (forEach (fun address => delExclusionRoute pf (.ofHost (qt.hostAddress address)))
    lastConfig.excludedAddresses).andThen <|
  (forEach (fun ip => if ip ∈ config.allowedIPAddressRanges then skip else call pf (.deleteRoutePrefix ip))
    lastConfig.allowedIPAddressRanges).andThen <|
  (if config.serverPublicKey ≠ lastConfig.serverPublicKey then call pf (.deletePeer lastConfig) else skip).andThen <|
  update (State.connect config)

def deactivateConnection (config : InterfaceConfig) : Action (State σ) :=
  (forEach (fun ip => call pf (.deleteRoutePrefix ip)) config.allowedIPAddressRanges).andThen
    (call pf (.deletePeer config)).ignore

def deactivate (emitSignals : Bool) : Action (State σ) :=
  (inspect fun d =>
    match d.active with
    | [] => skip
    | first :: _ => call pf (.run .down first.config)).andThen <|
  (if emitSignals then update (State.emit .disconnected) else skip).andThen <|
  (call pf .restoreResolvers).ignore.andThen <|
  (inspect fun d => forEach (fun state => deactivateConnection pf state.config) d.active).andThen <|
  (inspect fun d => forEach (fun ip => call pf (.deleteExclusionRoute ip)) d.excludedAddrSet.keys).andThen <|
  (update fun d => { d with excludedAddrSet := ∅, connections := fun _ => none }).andThen <|
  call pf .deleteInterface

/-- `activate` from `prepareActivation` on, when there is no connection for the hop. -/
def activateNew (config : InterfaceConfig) : Action (State σ) :=
  onFailure (update (State.emit .activationFailure)) <|
  (call pf (.prepareActivation config)).ignore.andThen <|
  ((call pf .interfaceExists).orElse (call pf (.addInterface config))).andThen <|
  (if pf.supportIPUtils then (call pf (.addInterfaceIPs config)).andThen (call pf (.setMTUAndUp config))
    else skip).andThen <|
  (addExclusionRoutes qt pf config.excludedAddresses).andThen <|
  onFailure (exclusionRoutesGuard qt pf config.excludedAddresses) <|
  (call pf (.updatePeer config)).andThen <|
  (maybeUpdateResolvers qt pf config).andThen <|
  (forAll (fun ip => call pf (.updateRoutePrefix ip)) config.allowedIPAddressRanges).andThen <|
  (call pf (.run .up config)).andThen <|
  update (State.connect config)

def switchActivate (lastConfig config : InterfaceConfig) : Action (State σ) :=
  (switchServer qt pf lastConfig config).andThen <|
  (call pf .restoreResolvers).andThen <|
  (maybeUpdateResolvers qt pf config).andThen <|
  (call pf (.run .switch config)).andThen <|
  update (State.connect config)

def activate (config : InterfaceConfig) : Action (State σ) :=
  inspect fun d =>
    match d.connections config.hopType with
    | none => activateNew qt pf config
    | some state =>
      onFailure (update (State.emit .activationFailure)) <|
      if supportServerSwitching state.config config then switchActivate qt pf state.config config
      else (deactivate pf false).andThen (activateNew qt pf config)

end

namespace State

variable {d : State σ} {ip q : IPAddress}

theorem mem_iff_lookup : ip ∈ d.excludedAddrSet ↔ (d.excludedAddrSet.lookup ip).isSome = true :=
  AList.lookup_isSome.symm

theorem lookup_setCount {n : Nat} :
    (d.setCount ip n).excludedAddrSet.lookup q = if q = ip then some n else d.excludedAddrSet.lookup q := by
  split
  next h => rw [h, setCount, AList.lookup_insert]
  next h => rw [setCount, AList.lookup_insert_ne h]

theorem lookup_removeCount : (d.removeCount ip).excludedAddrSet.lookup q =
    if q = ip then none else d.excludedAddrSet.lookup q := by
  split
  next h => rw [h, removeCount, AList.lookup_erase]
  next h => rw [removeCount, AList.lookup_erase_ne h]

theorem lookup_touch : (d.touch ip).excludedAddrSet.lookup q =
    if q = ip then some (d.count ip) else d.excludedAddrSet.lookup q := by
  rw [touch]
  split
  next h =>
    obtain ⟨n, hn⟩ := Option.isSome_iff_exists.mp (mem_iff_lookup.mp h)
    split
    next hq => rw [hq, count, hn, Option.getD_some]
    · rfl
  next h =>
    have hn : d.excludedAddrSet.lookup ip = none := AList.lookup_eq_none.mpr h
    split
    next hq => rw [hq, AList.lookup_insert, count, hn, Option.getD_none]
    next hq => rw [AList.lookup_insert_ne hq]

theorem touch_platform : (d.touch ip).platform = d.platform := by
  rw [touch]
  split <;> rfl

theorem touch_connections : (d.touch ip).connections = d.connections := by
  rw [touch]
  split <;> rfl

theorem count_touch : (d.touch ip).count q = d.count q := by
  rw [count, lookup_touch]
  split
  next h => rw [h, Option.getD_some]
  · rfl

def addCounts (f : IPAddress → Nat) (keys : List IPAddress) (d : State σ) : State σ :=
  keys.foldl (fun d ip => d.setCount ip (d.count ip + f ip)) d

theorem addCounts_platform (f : IPAddress → Nat) (keys : List IPAddress) (d : State σ) :
    (d.addCounts f keys).platform = d.platform ∧ (d.addCounts f keys).connections = d.connections := by
  induction keys generalizing d with
  | nil => exact ⟨rfl, rfl⟩
  | cons k keys ih => exact ih (d.setCount k (d.count k + f k))

theorem lookup_addCounts (f : IPAddress → Nat) {keys : List IPAddress} (hk : keys.Nodup) (d : State σ) :
    (d.addCounts f keys).excludedAddrSet.lookup q =
      if q ∈ keys then some (d.count q + f q) else d.excludedAddrSet.lookup q := by
  induction keys generalizing d with
  | nil => simp [addCounts]
  | cons k keys ih =>
    obtain ⟨hkn, hk⟩ := List.nodup_cons.mp hk
    have hcount : (d.setCount k (d.count k + f k)).count q =
        if q = k then d.count k + f k else d.count q := by
      rw [count, lookup_setCount]
      split <;> rfl
    rw [show d.addCounts f (k :: keys) = (d.setCount k (d.count k + f k)).addCounts f keys from rfl, ih hk,
      hcount, lookup_setCount]
    by_cases hq : q = k
    · subst hq
      simp [hkn]
    · simp [hq]

theorem connect_same (config : InterfaceConfig) (d : State σ) :
    (d.connect config).connections = Function.update d.connections config.hopType (some { config := config }) := rfl

end State

section

variable {qt : Qt} {pf : Platform σ}

variable {d : State σ}

theorem delExclusionRoute_of_many {ip : IPAddress} (h : 1 < d.count ip) :
    delExclusionRoute pf ip d = (true, (d.touch ip).setCount ip (d.count ip - 1)) := by
  simp only [delExclusionRoute, andThen, update, branch, State.count_touch, h, decide_true, if_true]

theorem delExclusionRoute_of_last {ip : IPAddress} (h : d.count ip ≤ 1) :
    delExclusionRoute pf ip d =
      ((call pf (.deleteExclusionRoute ip)).andThen (update (State.removeCount ip))) (d.touch ip) := by
  simp only [delExclusionRoute, andThen, update, branch, State.count_touch, Nat.not_lt.mpr h, decide_false,
    if_true, if_false, Bool.false_eq_true]
  rfl

theorem addExclusionRoutes_eq (addresses : List String) (d : State σ) :
    addExclusionRoutes qt pf addresses d =
      ((call pf (.addExclusionRoutes ((prefixes qt addresses).dedup.filter (· ∉ d.excludedAddrSet)))).andThen
        (update (State.addCounts (prefixes qt addresses).count (prefixes qt addresses).dedup))) d := by
  rw [addExclusionRoutes, inspect, forEach_update]
  rfl

theorem activate_switch {state : ConnectionState} {config : InterfaceConfig}
    (hconn : d.connections config.hopType = some state) (hs : supportServerSwitching state.config config = true) :
    activate qt pf config d =
      onFailure (update (State.emit .activationFailure)) (switchActivate qt pf state.config config) d := by
  rw [activate, inspect, hconn]
  dsimp only
  rw [if_pos hs]

end

end TunnelCore.Daemon
