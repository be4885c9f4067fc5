import TunnelCore.Daemon.Config
import TunnelCore.Library.Runs

namespace TunnelCore.Daemon.MacosRouteMonitor

inductive Family
  | ipv4
  | ipv6
deriving DecidableEq

def protocol : QHostAddress → Option Family
  | .ipv4 _ => some .ipv4
  | .ipv6 _ => some .ipv6
  | .null => none

/-- `sockaddr`, by its family. -/
inductive SockAddr
  | inet (address : BitVec 32)
  | inet6 (address : BitVec 128)
  | link (index : Nat)
  | unspec
  | other (family : Nat)
deriving DecidableEq

inductive RtmType
  | add
  | delete
  | change
  | get
deriving DecidableEq

/-- `rt_msghdr` with the addresses that `parseAddrList` finds behind it. -/
structure RtMsg where
  type : RtmType
  index : Nat
  addrs : Nat
  ifscope : Bool := false
  /-- The message is about a change of this process. -/
  own : Bool := false
  addrlist : List SockAddr

namespace RtMsg

/-- There is a destination, a gateway and a netmask: `RTA_DST`, `RTA_GATEWAY` and `RTA_NETMASK`. -/
def complete (m : RtMsg) : Bool := m.addrs.testBit 0 && m.addrs.testBit 1 && m.addrs.testBit 2 && 3 ≤ m.addrlist.length

/-- A netmask of zero. The default route is sometimes reported with `AF_UNSPEC`. -/
def isZero : SockAddr → Bool
  | .inet address => address = 0
  | .inet6 address => address = 0
  | .unspec => true
  | _ => false

def family : SockAddr → Option Family
  | .inet _ => some .ipv4
  | .inet6 _ => some .ipv6
  | _ => none

/-- The interface index is taken from the address list if `RTA_IFP` is set. -/
def ifindex (m : RtMsg) : Option Nat :=
  if m.addrs.testBit 4 then
    m.addrlist[((List.range 4).filter m.addrs.testBit).length]?.map fun
      | .link index => index
      | _ => m.index
  else some m.index

/-- The default route that an added or changed route is for the monitor of the interface `tunnel`: its family, its
gateway and its interface. -/
def announced (tunnel : Nat) (m : RtMsg) : Option (Family × SockAddr × Nat) :=
  if m.complete ∧ ¬m.ifscope ∧ m.index ≠ tunnel ∧ ¬(m.own ∧ m.type ≠ .get) then
    match m.ifindex, m.addrlist with
    | some index, dst :: gateway :: netmask :: _ =>
      if isZero netmask then (family dst).map fun f => (f, gateway, index) else none
    | _, _ => none
  else none

def withdrawn (tunnel : Nat) (m : RtMsg) : Option Family :=
  if m.index ≠ tunnel ∧ m.complete ∧ ¬m.ifscope then
    match m.addrlist with
    | dst :: _ :: netmask :: _ => if isZero netmask then family dst else none
    | _ => none
  else none

end RtMsg

structure Route where
  gateway : Option SockAddr
  ifindex : Nat
deriving DecidableEq

/-- The length of the netmask that `rtmSendRoute` writes: `plen` is unsigned there. -/
def maskLength (bits : Nat) (prefixLength : Int) : Nat := if prefixLength < 0 then bits else min prefixLength.toNat bits

/-- The route a prefix stands for in the kernel, where the bits behind the netmask do not count. -/
def network (p : IPAddress) : IPAddress :=
  match p.address with
  | .ipv4 a =>
    let unused := 32 - maskLength 32 p.prefixLength
    ⟨.ipv4 (a >>> unused <<< unused), maskLength 32 p.prefixLength⟩
  | .ipv6 a =>
    let unused := 128 - maskLength 128 p.prefixLength
    ⟨.ipv6 (a >>> unused <<< unused), maskLength 128 p.prefixLength⟩
  | .null => p

structure Default where
  gateway : Option SockAddr := none
  ifindex : Nat := 0

structure State where
  /-- The index of the tunnel interface. -/
  tunnel : Nat
  exclusionRoutes : List IPAddress := []
  defaults : Family → Default := fun _ => {}
  /-- The routes of the kernel to the excluded prefixes. -/
  kernel : IPAddress → Option Route := fun _ => none

/-- The kernel's answer to a route message, and the route it has then. `stale` says that it refuses to add it. -/
def answer (stale : Bool) (action : RtmType) (route : Route) (present : Option Route) : Bool × Option Route :=
  match action, present with
  | .add, none => if stale then (false, none) else (true, some route)
  | .add, some r => (true, some r)
  | .change, none => (false, none)
  | .change, some _ => (true, some route)
  | .delete, _ => (true, none)
  | .get, r => (true, r)

section Monitor

-- the networks that the kernel does not add a route for, because the gateway is stale
variable (stale : IPAddress → Bool)

namespace State

def rtmSendRoute (action : RtmType) (p : IPAddress) (route : Route) (s : State) : Bool × State :=
  let reply := answer (stale (network p)) action route (s.kernel (network p))
  (reply.1, { s with kernel := Function.update s.kernel (network p) reply.2 })

def sendAll (f : Family) (action : RtmType) (route : Route) (s : State) : State :=
  (s.exclusionRoutes.filter (protocol ·.address = some f)).foldl (fun s p => (s.rtmSendRoute stale action p route).2) s

def handleRtmDelete (m : RtMsg) (s : State) : State :=
  match m.withdrawn s.tunnel with
  | none => s
  | some f =>
    { s with defaults := Function.update s.defaults f {} }.sendAll stale f .delete ⟨none, m.index⟩

def handleRtmUpdate (m : RtMsg) (s : State) : State :=
  match m.announced s.tunnel with
  | none => s
  | some (f, gateway, index) =>
    { s with defaults := Function.update s.defaults f ⟨some gateway, index⟩ }.sendAll stale f
      (if (s.defaults f).ifindex ≠ 0 then .change else .add) ⟨some gateway, index⟩

def handle (m : RtMsg) (s : State) : State :=
  if m.type = .delete then s.handleRtmDelete stale m else s.handleRtmUpdate stale m

def addExclusionRoute (p : IPAddress) (s : State) : Bool × State :=
  if p ∈ s.exclusionRoutes then (false, s)
  else
    let s := { s with exclusionRoutes := s.exclusionRoutes ++ [p] }
    match protocol p.address with
    | none => (true, s)
    | some f =>
      if (s.defaults f).ifindex ≠ 0 ∧ (s.defaults f).gateway ≠ none then
        s.rtmSendRoute stale .add p ⟨(s.defaults f).gateway, (s.defaults f).ifindex⟩
      else (true, s)

def deleteExclusionRoute (p : IPAddress) (s : State) : Bool × State :=
  let s := { s with exclusionRoutes := s.exclusionRoutes.filter (· ≠ p) }
  match protocol p.address with
  | none => (false, s)
  | some f => s.rtmSendRoute stale .delete p ⟨none, (s.defaults f).ifindex⟩

end State

end Monitor

/-- What happens, with the prefixes that the kernel refuses to add a route for on the way. -/
inductive Event
  | addExclusionRoute (p : IPAddress) (stale : IPAddress → Bool)
  | deleteExclusionRoute (p : IPAddress)
  | message (m : RtMsg) (stale : IPAddress → Bool)

def step (s : State) : Event → State
  | .addExclusionRoute p stale => (s.addExclusionRoute stale p).2
  | .deleteExclusionRoute p => (s.deleteExclusionRoute (fun _ => false) p).2
  | .message m stale => s.handle stale m

def start (tunnel : Nat) : State := { tunnel }

def State.networks (s : State) (f : Family) : List IPAddress :=
  (s.exclusionRoutes.filter (protocol ·.address = some f)).map network

/-- No route message of the update is refused: where it adds a route that is not there, the kernel takes it. -/
def Succeeds (s : State) (f : Family) (stale : IPAddress → Bool) : Prop :=
  (s.defaults f).ifindex = 0 → ∀ n ∈ s.networks f, s.kernel n = none → stale n = false

/-- Right after an update whose messages succeed, the listed prefixes of the family and no others have a route, by the
announced gateway; right after the default route has gone, none has. -/
def Right (s : State) : Event → Prop
  | .message m stale =>
    if m.type = .delete then
      ∀ f ∈ m.withdrawn s.tunnel, ∀ n, protocol n.address = some f → (step s (.message m stale)).kernel n = none
    else
      ∀ f gateway index, m.announced s.tunnel = some (f, gateway, index) → Succeeds s f stale →
        ∀ n, protocol n.address = some f →
          ((step s (.message m stale)).kernel n).map Route.gateway =
            if n ∈ s.networks f then some (some gateway) else none
  | _ => True

/-- The monitor's idea of what is there is right: with a default route known every listed prefix of the family has a
route, and with none known no listed prefix has one by another gateway. -/
def Plain (s : State) : Event → Prop
  | .message m stale =>
    m.type ≠ .delete → ∀ f gateway index, m.announced s.tunnel = some (f, gateway, index) → Succeeds s f stale →
      ∀ n ∈ s.networks f,
        if (s.defaults f).ifindex ≠ 0 then s.kernel n ≠ none else ∀ route ∈ s.kernel n, route.gateway = some gateway
  | _ => True

section Kernel

variable {stale : IPAddress → Bool} {s : State} {f : Family} {n : IPAddress}

theorem protocol_network (p : IPAddress) : protocol (network p).address = protocol p.address := by
  obtain ⟨address, prefixLength⟩ := p
  cases address <;> rfl

theorem answer_answer (refused : Bool) (action : RtmType) (route : Route) (present : Option Route) :
    (answer refused action route (answer refused action route present).2).2 =
      (answer refused action route present).2 := by
  cases action <;> cases present <;> cases refused <;> rfl

theorem foldl_rtmSendRoute (action : RtmType) (route : Route) (ps : List IPAddress) (s : State) :
    ps.foldl (fun s p => (s.rtmSendRoute stale action p route).2) s =
      { s with
        kernel := fun n =>
          if n ∈ ps.map network then (answer (stale n) action route (s.kernel n)).2 else s.kernel n } := by
  induction ps generalizing s with
  | nil => simp
  | cons p ps ih =>
    rw [List.foldl_cons, ih]
    refine congrArg (fun kernel => { s with kernel }) (funext fun n => ?_)
    change (if n ∈ ps.map network then (answer _ _ _ (Function.update s.kernel (network p) _ n)).2
      else Function.update s.kernel (network p) _ n) = _
    rw [List.map_cons, Function.update_apply]
    by_cases hsame : n = network p
    · subst hsame
      rw [if_pos rfl, answer_answer, ite_self, if_pos List.mem_cons_self]
    · rw [if_neg hsame]
      simp only [List.mem_cons, hsame, false_or]

theorem kernel_sendAll (action : RtmType) (route : Route) (n : IPAddress) :
    (s.sendAll stale f action route).kernel n =
      if n ∈ s.networks f then (answer (stale n) action route (s.kernel n)).2 else s.kernel n := by
  rw [State.sendAll, foldl_rtmSendRoute]
  rfl

theorem sendAll_exclusionRoutes (action : RtmType) (route : Route) :
    (s.sendAll stale f action route).exclusionRoutes = s.exclusionRoutes := by
  rw [State.sendAll, foldl_rtmSendRoute]

end Kernel

def Owned (s : State) : Prop := ∀ f n, protocol n.address = some f → s.kernel n ≠ none → n ∈ s.networks f

section Owned

variable {s : State}

variable {f : Family}

theorem mem_networks {n : IPAddress} :
    n ∈ s.networks f ↔ ∃ p ∈ s.exclusionRoutes, protocol p.address = some f ∧ network p = n := by
  simp [State.networks, and_assoc]

theorem Owned.setDefaults (h : Owned s) (defaults : Family → Default) : Owned { s with defaults } := h

theorem Owned.sendAll (h : Owned s) (stale : IPAddress → Bool) (f : Family) (action : RtmType) (route : Route) :
    Owned (s.sendAll stale f action route) := by
  intro g n hn hsome
  have hnetworks : (s.sendAll stale f action route).networks g = s.networks g := by
    rw [State.networks, sendAll_exclusionRoutes]
    rfl
  rw [hnetworks]
  rw [kernel_sendAll] at hsome
  split at hsome
  next hmem =>
    obtain ⟨p, hp, hf, rfl⟩ := mem_networks.mp hmem
    rw [protocol_network, hf] at hn
    obtain rfl := Option.some.inj hn
    exact hmem
  · exact h g n hn hsome

theorem Owned.handle (h : Owned s) (stale : IPAddress → Bool) (m : RtMsg) : Owned (s.handle stale m) := by
  rw [State.handle]
  split
  · rw [State.handleRtmDelete]
    split
    · exact h
    · exact (h.setDefaults _).sendAll stale _ _ _
  · rw [State.handleRtmUpdate]
    split
    · exact h
    · exact (h.setDefaults _).sendAll stale _ _ _

theorem Owned.addExclusionRoute (h : Owned s) (stale : IPAddress → Bool) (p : IPAddress) :
    Owned (s.addExclusionRoute stale p).2 := by
  have hlisted : Owned { s with exclusionRoutes := s.exclusionRoutes ++ [p] } := by
    intro f n hn hsome
    obtain ⟨q, hq, hf, rfl⟩ := mem_networks.mp (h f n hn hsome)
    exact mem_networks.mpr ⟨q, List.mem_append_left _ hq, hf, rfl⟩
  simp only [State.addExclusionRoute]
  split
  · exact h
  · split
    · exact hlisted
    next f hf =>
      split
      · intro g n hn hsome
        by_cases hsame : n = network p
        · subst hsame
          rw [protocol_network] at hn
          exact mem_networks.mpr ⟨p, by simp [State.rtmSendRoute], hn, rfl⟩
        · refine hlisted g n hn fun hnone => hsome ?_
          exact (Function.update_of_ne hsame _ _).trans hnone
      · exact hlisted

theorem Owned.deleteExclusionRoute (h : Owned s) (stale : IPAddress → Bool) (p : IPAddress) :
    Owned (s.deleteExclusionRoute stale p).2 := by
  -- the route of another prefix is listed under another network, so that prefix stays
  have hothers : ∀ f n, protocol n.address = some f → s.kernel n ≠ none → (protocol p.address = none ∨ n ≠ network p) →
      n ∈ { s with exclusionRoutes := s.exclusionRoutes.filter (· ≠ p) }.networks f := by
    intro f n hn hsome hother
    obtain ⟨q, hq, hf, rfl⟩ := mem_networks.mp (h f n hn hsome)
    have hne : q ≠ p := by
      rintro rfl
      rcases hother with hnone | hne
      · rw [hf] at hnone
        cases hnone
      · exact hne rfl
    exact mem_networks.mpr ⟨q, List.mem_filter.mpr ⟨hq, decide_eq_true hne⟩, hf, rfl⟩
  simp only [State.deleteExclusionRoute]
  split
  next hnone => exact fun f n hn hsome => hothers f n hn hsome (.inl hnone)
  · intro f n hn hsome
    by_cases hsame : n = network p
    · subst hsame
      exact absurd (Function.update_self _ _ _) hsome
    · refine hothers f n hn (fun hnone => hsome ?_) (.inr hsame)
      exact (Function.update_of_ne hsame _ _).trans hnone

theorem Owned.step (h : Owned s) (e : Event) : Owned (step s e) := by
  cases e with
  | addExclusionRoute p stale => exact h.addExclusionRoute stale p
  | deleteExclusionRoute p => exact h.deleteExclusionRoute _ p
  | message m stale => exact h.handle stale m

theorem Owned.kernel_handleRtmDelete (h : Owned s) (stale : IPAddress → Bool) {m : RtMsg}
    (hm : m.withdrawn s.tunnel = some f) {n : IPAddress} (hn : protocol n.address = some f) :
    (s.handleRtmDelete stale m).kernel n = none := by
  rw [State.handleRtmDelete, hm]
  refine (kernel_sendAll (s := { s with defaults := Function.update s.defaults f {} }) _ _ n).trans ?_
  change (if n ∈ s.networks f then _ else s.kernel n) = none
  split
  · rfl
  next habsent => exact by_contra fun hsome => habsent (h f n hn hsome)

theorem kernel_handleRtmUpdate (stale : IPAddress → Bool) {m : RtMsg} {gateway : SockAddr}
    {index : Nat} (hm : m.announced s.tunnel = some (f, gateway, index)) (n : IPAddress) :
    (s.handleRtmUpdate stale m).kernel n =
      if n ∈ s.networks f then
        (answer (stale n) (if (s.defaults f).ifindex ≠ 0 then .change else .add) ⟨some gateway, index⟩ (s.kernel n)).2
      else s.kernel n := by
  rw [State.handleRtmUpdate, hm]
  exact kernel_sendAll (s := { s with defaults := Function.update s.defaults f ⟨some gateway, index⟩ }) _ _ n

theorem answer_gateway_iff {refused : Bool} {ifindex : Nat} {gateway : SockAddr} {index : Nat} {present : Option Route}
    (hsucceeds : ifindex = 0 → present = none → refused = false) :
    ((answer refused (if ifindex ≠ 0 then .change else .add) ⟨some gateway, index⟩ present).2).map Route.gateway =
        some (some gateway) ↔
      if ifindex ≠ 0 then present ≠ none else ∀ route ∈ present, route.gateway = some gateway := by
  by_cases hknown : ifindex ≠ 0
  · rw [if_pos hknown, if_pos hknown]
    cases present <;> simp [answer]
  · rw [if_neg hknown, if_neg hknown]
    cases present with
    | none => simp [answer, hsucceeds (not_not.mp hknown) rfl]
    | some route => simp [answer]

theorem right_iff_plain (h : Owned s) (e : Event) : Right s e ↔ Plain s e := by
  cases e with
  | addExclusionRoute p stale => exact Iff.rfl
  | deleteExclusionRoute p => exact Iff.rfl
  | message m stale =>
    rw [Right, Plain, MacosRouteMonitor.step, State.handle]
    split
    next hdelete =>
      exact iff_of_true (fun f hf n hn => h.kernel_handleRtmDelete stale hf hn) fun hne => absurd hdelete hne
    next hupdate =>
      rw [imp_iff_right hupdate]
      refine forall_congr' fun f => forall_congr' fun gateway => forall_congr' fun index => ?_
      refine imp_congr_right fun hm => imp_congr_right fun hsucceeds => ?_
      constructor
      · intro hright n hn
        obtain ⟨p, -, hf, rfl⟩ := mem_networks.mp hn
        have hgateway := hright (network p) ((protocol_network p).trans hf)
        rw [kernel_handleRtmUpdate stale hm, if_pos hn, if_pos hn] at hgateway
        exact (answer_gateway_iff fun hzero => hsucceeds hzero _ hn).mp hgateway
      · intro hplain n hn
        rw [kernel_handleRtmUpdate stale hm]
        by_cases hlisted : n ∈ s.networks f
        · rw [if_pos hlisted, if_pos hlisted]
          exact (answer_gateway_iff fun hzero => hsucceeds hzero n hlisted).mpr (hplain n hlisted)
        · have hnone : s.kernel n = none := by_contra fun hsome => hlisted (h f n hn hsome)
          rw [if_neg hlisted, if_neg hlisted, hnone]
          rfl

end Owned

theorem exclusions_follow_iff (tunnel : Nat) (events : List Event) :
    Along step Right (start tunnel) events ↔ Along step Plain (start tunnel) events := by
  have hstart : Owned (start tunnel) := fun _ _ _ hsome => absurd rfl hsome
  constructor
  · exact Along.of_invariant (fun s e h hright => ⟨h.step e, (right_iff_plain h e).mp hright⟩) hstart
  · exact Along.of_invariant (fun s e h hplain => ⟨h.step e, (right_iff_plain h e).mpr hplain⟩) hstart

def defaultVia (gateway : BitVec 32) : RtMsg where
  type := .change
  index := 4
  addrs := 7
  addrlist := [.inet 0, .inet gateway, .inet 0]

def sampleTarget : IPAddress := ⟨.ipv4 0xC0000201, 32⟩

/-- The gateway that the monitor knows is stale when a prefix is listed, and the kernel refuses its route. -/
def listedInVain : State :=
  [Event.message (defaultVia 0xC0A80001) fun _ => false, .addExclusionRoute sampleTarget fun _ => true].foldl step
    (start 9)

/-- The next update changes a route that is not there. -/
theorem exclusion_not_installed :
    (listedInVain.exclusionRoutes = [sampleTarget] ∧ network sampleTarget = sampleTarget) ∧
      (defaultVia 0xC0A80101).announced listedInVain.tunnel = some (.ipv4, .inet 0xC0A80101, 4) ∧
      Succeeds listedInVain .ipv4 (fun _ => false) ∧
      (step listedInVain (.message (defaultVia 0xC0A80101) fun _ => false)).kernel sampleTarget = none :=
  ⟨by decide, by decide, fun _ _ _ _ => rfl, by decide⟩

end TunnelCore.Daemon.MacosRouteMonitor
