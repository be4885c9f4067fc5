import TunnelCore.KillSwitch.Windows
import TunnelCore.Library.Action

namespace TunnelCore.WindowsFirewall

open Daemon KillSwitch.Windows

inductive Request
  | transactionBegin
  | filterAdd
  | getAppIdFromFileName
  | filterDelete (id : Nat)
  | transactionCommit

abbrev Platform := Nat → Request → Bool

structure Service extends KillSwitch.Windows.State where
  asked : Nat

def Service.update (f : State → State) (s : Service) : Service := { s with firewall := f s.firewall }

/-- An aborted transaction, or one that is not committed, leaves the filters as they were `before` it. The ids that the
class has written down stay. -/
def Service.abort (before s : Service) : Service := s.update fun w => { w with engine := before.firewall.engine }

/-- How a body ends. Where it fails, it calls `disableKillSwitch()` and returns false. -/
inductive Outcome
  | returns (result : Bool) (s : Service)
  | fails (s : Service)

def toPortFilters (targetIP : QHostAddress) (port weight : Nat) : List Filter :=
  (layers targetIP).map fun layer =>
    ⟨layer, [.protocol .udp, .protocol .tcp, .remotePort port, .remoteAddress (importAddress targetIP)], .permit, weight⟩

namespace Service

section Rules

variable (wfp : Platform)

def request (r : Request) : Action Service := fun s => (wfp s.asked r, { s with asked := s.asked + 1 })

def enableFilter (peer : String) (f : Filter) : Action Service :=
  (request wfp .filterAdd).andThen (.update (Service.update (WindowsFirewall.enableFilter peer · f)))

def enableFilters (filters : List Filter) (peer : String) : Action Service := .forAll (enableFilter wfp peer) filters

def allowTrafficTo (addr : IPAddress) (weight : Nat) (peer : String) : Action Service :=
  enableFilters wfp (rangeFilters .permit addr weight) peer

def blockTrafficTo (addr : IPAddress) (weight : Nat) (peer : String) : Action Service :=
  enableFilters wfp (rangeFilters .block addr weight) peer

def allowTrafficToPort (targetIP : QHostAddress) (port weight : Nat) (peer : String) : Action Service :=
  enableFilters wfp (toPortFilters targetIP port weight) peer

def allowTrafficForAppOnAll (exePath : String) (weight : Nat) : Action Service :=
  (request wfp .getAppIdFromFileName).andThen (enableFilters wfp (appFilters exePath weight) "")

def allowTrafficOfAdapter (networkAdapter : Int) (weight : Nat) : Action Service :=
  enableFilters wfp (adapterFilters networkAdapter weight) ""

def allowDHCPTraffic (weight : Nat) : Action Service := enableFilters wfp (dhcpFilters weight) ""

def allowHyperVTraffic (weight : Nat) : Action Service := enableFilters wfp (hyperVFilters weight) ""

def blockTrafficOnPort (port weight : Nat) : Action Service := enableFilters wfp (portFilters port weight) ""

def allowLoopbackTraffic (host : Host) (weight : Nat) : Action Service :=
  .forAll (fun index => allowTrafficOfAdapter wfp index weight) host.loopbackInterfaces

def allowDnsServer (qt : Qt) (config : InterfaceConfig) (server : String) : Action Service :=
  if server = "" then .skip
  else if server = config.serverIpv4Gateway then
    (allowTrafficToPort wfp (qt.hostAddress server) 53 highWeight config.serverPublicKey).andThen
      (allowTrafficToPort wfp (qt.hostAddress config.serverIpv6Gateway) 53 highWeight config.serverPublicKey)
  else allowTrafficToPort wfp (qt.hostAddress server) 53 highWeight config.serverPublicKey

def peerTraffic (qt : Qt) (config : InterfaceConfig) : Action Service :=
  let peer := config.serverPublicKey
  (Action.forAll (fun range => blockTrafficTo wfp range lowWeight peer) config.allowedIPAddressRanges).andThen <|
    (allowDnsServer wfp qt config config.primaryDnsServer).andThen <|
    (allowDnsServer wfp qt config config.secondaryDnsServer).andThen <|
    (Action.forAll (fun dns => allowTrafficToPort wfp (qt.hostAddress dns) 53 highWeight peer)
      config.allowedDnsServers).andThen <|
    Action.forAll (fun i => allowTrafficTo wfp (.ofString qt i) highWeight peer) config.excludedAddresses

/-- A filter that is not there cannot be deleted; the class does not look at the result. -/
def deleteFilter (id : Nat) : Action Service :=
  (request wfp (.filterDelete id)).andThen (.update (Service.update (deleteFilters [id])))

end Rules

section Bodies

variable (env : Env) (wfp : Platform)

/-- The macro `FW_OK`. A failed commit returns without the failure handler. -/
def fwOk (rule : Action Service) (next : Service → Outcome) (s : Service) : Outcome :=
  let begun := request wfp .transactionBegin s
  if begun.1 then
    let done := rule begun.2
    if done.1 then
      let committed := request wfp .transactionCommit done.2
      if committed.1 then next committed.2 else .returns false (abort begun.2 committed.2)
    else .fails (abort begun.2 done.2)
  else .fails begun.2

def guarded (body : Action Service) (s : Service) : Outcome :=
  let begun := request wfp .transactionBegin s
  if begun.1 then
    let committed := body.andThen (request wfp .transactionCommit) begun.2
    if committed.1 then .returns true committed.2 else .fails (abort begun.2 committed.2)
  else .fails begun.2

def enableRules : Service → Outcome :=
  fwOk wfp (allowDHCPTraffic wfp medWeight) <|
    fwOk wfp (allowHyperVTraffic wfp maxWeight) <|
    fwOk wfp (allowTrafficForAppOnAll wfp env.host.currentPath maxWeight) <|
    fwOk wfp (blockTrafficOnPort wfp 53 medWeight) <|
    fwOk wfp (allowLoopbackTraffic wfp env.host medWeight) (.returns true)

def enableInterface (vpnAdapterIndex : Int) (s : Service) : Outcome :=
  if vpnAdapterIndex < 0 then
    let blocked := (blockTrafficTo wfp allv4 medWeight "killswitch").andThen
      (blockTrafficTo wfp allv6 medWeight "killswitch") s
    if blocked.1 then enableRules env wfp blocked.2 else .returns false blocked.2
  else fwOk wfp (allowTrafficOfAdapter wfp vpnAdapterIndex medWeight) (enableRules env wfp) s

def enableLanBypass (ranges : List IPAddress) : Service → Outcome :=
  guarded wfp (.forAll (fun addr => allowTrafficTo wfp addr (lowWeight + 1) "") ranges)

def allowTrafficRange (ranges : List String) : Service → Outcome :=
  guarded wfp (.forAll (fun addr => allowTrafficTo wfp (.ofHost (env.qt.hostAddress addr)) highWeight "") ranges)

def enablePeerTraffic (config : InterfaceConfig) : Service → Outcome := guarded wfp (peerTraffic wfp env.qt config)

def disablePeerTraffic (pubkey : String) : Action Service := fun s =>
  let begun := request wfp .transactionBegin s
  if begun.1 then
    let ids := (s.firewall.peerRules.filter (·.1 = pubkey)).map Prod.snd
    let deleted := (Action.forEach (deleteFilter wfp) ids begun.2).2
    let dropped := deleted.update fun w => { w with peerRules := w.peerRules.filter (·.1 ≠ pubkey) }
    let committed := request wfp .transactionCommit dropped
    if committed.1 then (true, committed.2) else (false, abort s committed.2)
  else (false, begun.2)

def allowAllTraffic : Action Service := fun s =>
  let begun := request wfp .transactionBegin s
  if begun.1 then
    let ids := s.firewall.peerRules.map Prod.snd ++ s.firewall.activeRules
    let deleted := (Action.forEach (deleteFilter wfp) ids begun.2).2
    let committed := request wfp .transactionCommit deleted
    if committed.1 then (true, committed.2.update fun w => { w with peerRules := [], activeRules := [] })
    else (false, abort s committed.2)
  else (false, begun.2)

end Bodies

end Service

inductive Call
  | enableInterface (vpnAdapterIndex : Int)
  | enableLanBypass (ranges : List IPAddress)
  | allowTrafficRange (ranges : List String)
  | enablePeerTraffic (config : InterfaceConfig)
  | disablePeerTraffic (pubkey : String)
  | allowAllTraffic
  | disableKillSwitch
  | killSwitchDisableKillSwitch
  | killSwitchDisableAllTraffic

section Calls

variable (env : Env) (wfp : Platform)

def Call.body (callee : Call → Service → Option (Bool × Service)) (s : Service) : Call → Option (Bool × Service)
  | .enableInterface vpnAdapterIndex => finish (s.enableInterface env wfp vpnAdapterIndex)
  | .enableLanBypass ranges => finish (s.enableLanBypass wfp ranges)
  | .allowTrafficRange ranges => finish (s.allowTrafficRange env wfp ranges)
  | .enablePeerTraffic config => finish (s.enablePeerTraffic env wfp config)
  | .disablePeerTraffic pubkey => some (s.disablePeerTraffic wfp pubkey)
  | .allowAllTraffic => some (s.allowAllTraffic wfp)
  | .disableKillSwitch => callee .killSwitchDisableKillSwitch s
  | .killSwitchDisableKillSwitch =>
    if s.strictKillSwitchEnabled then callee .killSwitchDisableAllTraffic s else callee .allowAllTraffic s
  | .killSwitchDisableAllTraffic =>
    (callee (.enableInterface (-1)) s).map fun r => (true, { r.2 with allowedRanges := [] })
where
  finish : Outcome → Option (Bool × Service)
    | .returns result s => some (result, s)
    | .fails s => (callee .disableKillSwitch s).map fun r => (false, r.2)

def exec : Nat → Call → Service → Option (Bool × Service)
  | 0, _, _ => none
  | depth + 1, c, s => c.body env wfp (exec depth) s

end Calls

def State.recorded (w : State) : List Nat := w.peerRules.map Prod.snd ++ w.activeRules

structure State.Numbered (w : State) : Prop where
  nodup : w.recorded.Nodup
  recorded : ∀ id ∈ w.recorded, id < w.nextId
  engine : ∀ e ∈ w.engine, e.1 < w.nextId

/-- What the rules of a call do, whether they succeed or not: filters are added and written down, nothing is taken away. -/
structure Grows (s s' : Service) : Prop where
  strict : s'.strictKillSwitchEnabled = s.strictKillSwitchEnabled
  recorded : ∀ id ∈ s.firewall.recorded, id ∈ s'.firewall.recorded
  engine : ∀ e ∈ s'.firewall.engine, e ∈ s.firewall.engine ∨ e.1 ∈ s'.firewall.recorded
  nextId : s.firewall.nextId ≤ s'.firewall.nextId
  numbered : s.firewall.Numbered → s'.firewall.Numbered

namespace Grows

variable {s s' s'' : Service}

theorem refl (s : Service) : Grows s s := ⟨rfl, fun _ h => h, fun _ h => .inl h, le_rfl, fun h => h⟩

theorem trans (h : Grows s s') (h' : Grows s' s'') : Grows s s'' where
  strict := h'.strict.trans h.strict
  recorded id hid := h'.recorded id (h.recorded id hid)
  engine e he := by
    rcases h'.engine e he with he | he
    · exact (h.engine e he).imp_right (h'.recorded e.1)
    · exact .inr he
  nextId := h.nextId.trans h'.nextId
  numbered hn := h'.numbered (h.numbered hn)

theorem asked (n : Nat) (s : Service) : Grows s { s with asked := n } :=
  ⟨rfl, fun _ h => h, fun _ h => .inl h, le_rfl, fun h => h⟩

theorem cleared (s : Service) : Grows s { s with allowedRanges := [] } :=
  ⟨rfl, fun _ h => h, fun _ h => .inl h, le_rfl, fun h => h⟩

theorem mem_recorded_enableFilter {peer : String} {w : State} {f : Filter} {id : Nat} :
    id ∈ (WindowsFirewall.enableFilter peer w f).recorded ↔ id ∈ w.recorded ∨ id = w.nextId := by
  rw [State.recorded, State.recorded, WindowsFirewall.enableFilter]
  by_cases hpeer : peer = ""
  · simp [hpeer, or_assoc]
  · simp [hpeer]
    tauto

theorem numbered_enableFilter {peer : String} {w : State} {f : Filter} (h : w.Numbered) :
    (WindowsFirewall.enableFilter peer w f).Numbered where
  nodup := by
    have hnew : w.nextId ∉ w.recorded := fun hin => Nat.lt_irrefl _ (h.recorded _ hin)
    have hperm : (WindowsFirewall.enableFilter peer w f).recorded.Perm (w.nextId :: w.recorded) := by
      rw [State.recorded, State.recorded, WindowsFirewall.enableFilter]
      by_cases hpeer : peer = ""
      · simp only [hpeer, if_true]
        rw [← List.append_assoc]
        exact List.perm_append_singleton _ _
      · simp only [hpeer, if_false, List.map_append, List.map_cons, List.map_nil]
        rw [List.append_assoc]
        exact List.perm_middle
    exact hperm.nodup_iff.mpr (List.nodup_cons.mpr ⟨hnew, h.nodup⟩)
  recorded id hid := by
    rcases mem_recorded_enableFilter.mp hid with hid | rfl
    · exact Nat.lt_succ_of_lt (h.recorded id hid)
    · exact Nat.lt_succ_self _
  engine e he := by
    rcases List.mem_append.mp he with he | he
    · exact Nat.lt_succ_of_lt (h.engine e he)
    · rw [List.mem_singleton.mp he]
      exact Nat.lt_succ_self _

theorem add (peer : String) (f : Filter) (s : Service) : Grows s (s.update (WindowsFirewall.enableFilter peer · f)) where
  strict := rfl
  recorded id hid := mem_recorded_enableFilter.mpr (.inl hid)
  engine e he := by
    rcases List.mem_append.mp he with he | he
    · exact .inl he
    · rw [List.mem_singleton.mp he]
      exact .inr (mem_recorded_enableFilter.mpr (.inr rfl))
  nextId := Nat.le_succ _
  numbered := numbered_enableFilter

theorem abort (h : Grows s s') : Grows s (s.abort s') where
  strict := h.strict
  recorded := h.recorded
  engine _ he := .inl he
  nextId := h.nextId
  numbered hn :=
    { nodup := (h.numbered hn).nodup
      recorded := (h.numbered hn).recorded
      engine := fun e he => lt_of_lt_of_le (hn.engine e he) h.nextId }

end Grows

def Adds (a : Action Service) : Prop := ∀ s, Grows s (a s).2

theorem Adds.andThen {a b : Action Service} (ha : Adds a) (hb : Adds b) : Adds (a.andThen b) := by
  intro s
  rw [Action.andThen]
  split
  · exact (ha s).trans (hb _)
  · exact ha s

theorem Adds.forAll {α : Type} {f : α → Action Service} (h : ∀ x, Adds (f x)) (xs : List α) : Adds (.forAll f xs) := by
  induction xs with
  | nil => exact Grows.refl
  | cons x xs ih => exact (h x).andThen ih

namespace Service

variable {env : Env} {wfp : Platform}

theorem adds_request (r : Request) : Adds (request wfp r) := fun s => .asked _ s

theorem adds_enableFilter (peer : String) (f : Filter) : Adds (enableFilter wfp peer f) :=
  Adds.andThen (adds_request _) fun s => .add peer f s

theorem adds_enableFilters (filters : List Filter) (peer : String) : Adds (enableFilters wfp filters peer) :=
  .forAll (adds_enableFilter peer) filters

theorem adds_loopback (weight : Nat) : Adds (allowLoopbackTraffic wfp env.host weight) :=
  .forAll (fun _ => adds_enableFilters _ _) _

theorem adds_app (path : String) (weight : Nat) : Adds (allowTrafficForAppOnAll wfp path weight) :=
  (adds_request _).andThen (adds_enableFilters _ _)

theorem adds_allowDnsServer (config : InterfaceConfig) (server : String) :
    Adds (allowDnsServer wfp env.qt config server) := by
  rw [allowDnsServer]
  split
  · exact Grows.refl
  · split
    · exact (adds_enableFilters _ _).andThen (adds_enableFilters _ _)
    · exact adds_enableFilters _ _

theorem adds_peerTraffic (config : InterfaceConfig) : Adds (peerTraffic wfp env.qt config) := by
  refine (Adds.forAll (fun _ => adds_enableFilters _ _) _).andThen ?_
  refine (adds_allowDnsServer config _).andThen ?_
  refine (adds_allowDnsServer config _).andThen ?_
  exact (Adds.forAll (fun _ => adds_enableFilters _ _) _).andThen (.forAll (fun _ => adds_enableFilters _ _) _)

end Service

def Outcome.Grows (s : Service) : Outcome → Prop
  | .returns _ s' => WindowsFirewall.Grows s s'
  | .fails s' => WindowsFirewall.Grows s s'

theorem Outcome.Grows.trans {s s' : Service} {o : Outcome} (h : WindowsFirewall.Grows s s') (ho : o.Grows s') :
    o.Grows s := by
  cases o with
  | returns result s'' => exact h.trans ho
  | fails s'' => exact h.trans ho

namespace Service

variable {env : Env} {wfp : Platform}

theorem fwOk_grows {rule : Action Service} {next : Service → Outcome} (hrule : Adds rule)
    (hnext : ∀ s, (next s).Grows s) (s : Service) : (fwOk wfp rule next s).Grows s := by
  have hbegin : Grows s (request wfp .transactionBegin s).2 := adds_request _ s
  have hdone := hrule (request wfp .transactionBegin s).2
  have hcommit : Grows _ (request wfp .transactionCommit _).2 := hdone.trans (adds_request _ _)
  simp only [fwOk]
  split
  · split
    · split
      · exact .trans (hbegin.trans hcommit) (hnext _)
      · exact hbegin.trans hcommit.abort
    · exact hbegin.trans hdone.abort
  · exact hbegin

theorem guarded_grows {body : Action Service} (hbody : Adds body) (s : Service) : (guarded wfp body s).Grows s := by
  have hbegin : Grows s (request wfp .transactionBegin s).2 := adds_request _ s
  have hcommit : Adds (body.andThen (request wfp .transactionCommit)) := hbody.andThen (adds_request _)
  have hdone := hcommit (request wfp .transactionBegin s).2
  simp only [guarded]
  split
  · split
    · exact hbegin.trans hdone
    · exact hbegin.trans hdone.abort
  · exact hbegin

theorem enableRules_grows (s : Service) : (enableRules env wfp s).Grows s := by
  refine fwOk_grows (adds_enableFilters _ _) (fun s => ?_) s
  refine fwOk_grows (adds_enableFilters _ _) (fun s => ?_) s
  refine fwOk_grows (adds_app _ _) (fun s => ?_) s
  refine fwOk_grows (adds_enableFilters _ _) (fun s => ?_) s
  have hlast : ∀ s, (Outcome.returns true s).Grows s := Grows.refl
  exact fwOk_grows (adds_loopback _) hlast s

theorem enableInterface_grows (vpnAdapterIndex : Int) (s : Service) :
    (enableInterface env wfp vpnAdapterIndex s).Grows s := by
  have hblocks : Grows s (((blockTrafficTo wfp allv4 medWeight "killswitch").andThen
      (blockTrafficTo wfp allv6 medWeight "killswitch")) s).2 :=
    (adds_enableFilters _ _).andThen (adds_enableFilters _ _) s
  simp only [enableInterface]
  split
  · split
    · exact .trans hblocks (enableRules_grows _)
    · exact hblocks
  · exact fwOk_grows (adds_enableFilters _ _) enableRules_grows s

theorem enableLanBypass_grows (ranges : List IPAddress) (s : Service) : (enableLanBypass wfp ranges s).Grows s :=
  guarded_grows (.forAll (fun _ => adds_enableFilters _ _) _) s

theorem allowTrafficRange_grows (ranges : List String) (s : Service) : (allowTrafficRange env wfp ranges s).Grows s :=
  guarded_grows (.forAll (fun _ => adds_enableFilters _ _) _) s

theorem enablePeerTraffic_grows (config : InterfaceConfig) (s : Service) :
    (enablePeerTraffic env wfp config s).Grows s := guarded_grows (adds_peerTraffic config) s

end Service

end TunnelCore.WindowsFirewall
