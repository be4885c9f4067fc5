import TunnelCore.Connection.VpnConnection
import TunnelCore.Library.Runs

namespace TunnelCore.Connection

open Daemon VpnConnection

/-- The two state machines without the routes: what the connection shows, and the class and the state of its protocol
object. -/
structure Status where
  state : ConnectionState
  emitted : List ConnectionState
  machine : Option (Kind × ConnectionState)

namespace Status

def set (t : ConnectionState) (s : Status) : Status :=
  if t = .disconnected ∧ s.state = .reconnecting then s else { s with state := t, emitted := s.emitted ++ [t] }

def setProtocol (t : ConnectionState) (s : Status) : Status :=
  match s.machine with
  | none => s
  | some (k, u) =>
    if u = t ∨ u = .disconnected ∧ t = .disconnecting then s else set t { s with machine := some (k, t) }

def stop (s : Status) : Status :=
  match s.machine with
  | none => s
  | some (.openVpn, t) =>
    if isActive t then (s.setProtocol .disconnecting).setProtocol .disconnected
    else if t = .disconnecting then s.setProtocol .disconnected
    else s
  | some _ => s.setProtocol .disconnected

def destroy (s : Status) : Status := { s.stop with machine := none }

def start (outcome : StartOutcome) (s : Status) : Bool × Status :=
  match s.machine with
  | some (.openVpn, _) =>
    match outcome with
    | .configMissing => (false, s.setProtocol .error)
    | .serviceFailed => (false, s)
    | .managementServerFailed => (false, s.setProtocol .error)
    | .processFailed => (false, (s.setProtocol .connecting).setProtocol .error)
    | .started => (true, s.setProtocol .connecting)
  | some (.xray, _) => (outcome = .started, s)
  | _ => (true, s)

def startOrFail (outcome : StartOutcome) (s : Status) : Status :=
  if (s.start outcome).1 then (s.start outcome).2 else (s.start outcome).2.set .error

def connect (kind : Option Kind) (outcome : StartOutcome) (s : Status) : Status :=
  let s := { (s.set .connecting).stop.destroy with machine := kind.map (·, .unknown) }
  if kind.isSome then s.startOrFail outcome else s.set .error

def reconnect (outcome : StartOutcome) (s : Status) : Status :=
  if s.machine.isNone then s
  else if s.state ≠ .connected then s
  else (s.set .reconnecting).stop.startOrFail outcome

def disconnect (s : Status) : Status :=
  if s.machine.isNone then s.set .disconnected else (s.set .disconnecting).stop.destroy

inductive Step : Status → Status → Prop
  | stay (s : Status) : Step s s
  | connect (s : Status) (kind : Option Kind) (outcome : StartOutcome) : Step s (s.connect kind outcome)
  | disconnect (s : Status) : Step s s.disconnect
  | reconnect (s : Status) (outcome : StartOutcome) : Step s (s.reconnect outcome)
  | signal (s : Status) (t : ConnectionState) : Step s (s.setProtocol t)
  | fail (s : Status) : Step s (s.stop.setProtocol .error)

end Status

namespace VpnConnection

def status (c : VpnConnection) : Status := ⟨c.state, c.emitted, c.protocol.map fun p => (p.kind, p.state)⟩

section Refinement

variable (qt : Qt) (c : VpnConnection)

theorem status_modifyProtocol {f : Protocol → Protocol} (hf : ∀ p, (f p).kind = p.kind ∧ (f p).state = p.state) :
    (c.modifyProtocol f).status = c.status := by
  rw [status, modifyProtocol, Option.map_map, status]
  congr 2
  funext p
  exact Prod.ext (hf p).1 (hf p).2

@[simp]
theorem status_setManagement (listens : Bool) : (setManagement listens c).status = c.status :=
  status_modifyProtocol c fun _ => ⟨rfl, rfl⟩

@[simp]
theorem status_setProcess (runs : Bool) : (setProcess runs c).status = c.status :=
  status_modifyProtocol c fun _ => ⟨rfl, rfl⟩

@[simp]
theorem status_setRetries (count pending : Nat) : (setRetries count pending c).status = c.status :=
  status_modifyProtocol c fun _ => ⟨rfl, rfl⟩

theorem status_routeAddList (session : Nat) (gw : String) (ips : List String) :
    (routeAddList qt session gw ips c).status = c.status := rfl

theorem status_addSplitRoutes (p : Protocol) : (addSplitRoutes qt p c).status = c.status := by
  rw [addSplitRoutes]
  split
  · split
    · exact status_modifyProtocol c fun _ => ⟨rfl, rfl⟩
    · split
      · rfl
      · rfl
  · rfl

theorem status_addConnectedRoutes : (addConnectedRoutes qt c).status = c.status := by
  rw [addConnectedRoutes]
  split
  · rfl
  · split
    · rfl
    · rw [status_addSplitRoutes, status_routeAddList]

theorem status_deliver (delivery : Delivery) : (deliver qt c delivery).status = c.status := by
  cases delivery with
  | delayedRouting i =>
    rw [deliver]
    split
    · rfl
    · rw [fireDelayedRouting]
      split
      · rfl
      · exact status_modifyProtocol c fun _ => ⟨rfl, rfl⟩
  | lookupAnswered i addresses =>
    rw [deliver, answer]
    split
    · rfl
    · rfl

theorem status_waitForFinished : (waitForFinished qt c).status = c.status := by
  rw [waitForFinished]
  split
  · rfl
  next deliveries waits hwaits =>
    clear hwaits
    have hall : ∀ d : VpnConnection, (deliveries.foldl (deliver qt) d).status = d.status := by
      induction deliveries with
      | nil => exact fun _ => rfl
      | cons delivery deliveries ih => exact fun d => (ih _).trans (status_deliver qt d delivery)
    exact hall _

theorem status_onConnectionStateChanged (t : ConnectionState) :
    (onConnectionStateChanged qt t c).status = c.status := by
  cases t with
  | connected => exact (status_addConnectedRoutes qt _).trans (status_waitForFinished qt c)
  | disconnected | error => exact (status_waitForFinished qt _).trans (status_waitForFinished qt c)
  | unknown | preparing | connecting | disconnecting | reconnecting => rfl

theorem status_setConnectionState (t : ConnectionState) : (setConnectionState qt t c).status = c.status.set t := by
  rw [← status_onConnectionStateChanged qt c t, setConnectionState, Status.set]
  by_cases h : t = .disconnected ∧ (onConnectionStateChanged qt t c).state = .reconnecting
  · rw [if_pos h]
    exact (if_pos h).symm
  · rw [if_neg h]
    exact (if_neg h).symm

theorem status_setProtocolState (t : ConnectionState) : (setProtocolState qt t c).status = c.status.setProtocol t := by
  cases hp : c.protocol with
  | none => simp only [setProtocolState, Status.setProtocol, status, hp, Option.map_none]
  | some p =>
    by_cases h : p.state = t ∨ p.state = .disconnected ∧ t = .disconnecting
    · simp only [setProtocolState, Status.setProtocol, status, hp, Option.map_some, if_pos h]
    · simp only [setProtocolState, Status.setProtocol, hp, if_neg h, status_setConnectionState]
      simp only [status, modifyProtocol, hp, Option.map_some, if_neg h]

@[simp]
theorem status_cleanupResources : (cleanupResources c).status = c.status := status_setManagement c false

theorem status_stop : (stop qt c).status = c.status.stop := by
  cases hp : c.protocol with
  | none => simp only [stop, Status.stop, status, hp, Option.map_none]
  | some p =>
    have hmachine : c.status.machine = some (p.kind, p.state) := by rw [status, hp, Option.map_some]
    cases hk : p.kind with
    | wireGuard => simp only [stop, hp, hk, Status.stop, hmachine, status_setProtocolState]
    | xray => simp only [stop, hp, hk, Status.stop, hmachine, status_setProtocolState, status_setProcess]
    | openVpn =>
      simp only [stop, hp, hk, Status.stop, hmachine, stopOpenVpn]
      by_cases ha : isActive p.state
      · rw [if_pos ha, if_pos ha, status_setProtocolState, status_cleanupResources, status_setProtocolState]
      · rw [if_neg ha, if_neg ha]
        by_cases hd : p.state = .disconnecting
        · rw [if_pos hd, if_pos hd, status_setProtocolState, status_cleanupResources]
        · rw [if_neg hd, if_neg hd, status_cleanupResources]

theorem status_destroy : (destroy qt c).status = c.status.destroy := by
  rw [Status.destroy, ← status_stop qt]
  rfl

theorem status_startProtocol (outcome : StartOutcome) :
    ((startProtocol qt outcome c).1, (startProtocol qt outcome c).2.status) = c.status.start outcome := by
  cases hp : c.protocol with
  | none => simp only [startProtocol, Status.start, status, hp, Option.map_none]
  | some p =>
    have hmachine : c.status.machine = some (p.kind, p.state) := by rw [status, hp, Option.map_some]
    cases hk : p.kind with
    | wireGuard => simp only [startProtocol, hp, hk, Status.start, hmachine]
    | xray =>
      simp only [startProtocol, hp, hk, Status.start, hmachine]
      by_cases ho : outcome = .started
      · rw [if_pos ho, status_setProcess, decide_eq_true ho]
      · rw [if_neg ho, decide_eq_false ho]
    | openVpn =>
      simp only [startProtocol, hp, hk, Status.start, hmachine]
      cases outcome with
      | configMissing | managementServerFailed | serviceFailed | processFailed | started =>
        simp only [startOpenVpn, setLastError, status_setProtocolState, status_cleanupResources,
          status_setManagement, status_setProcess]

theorem status_startOrFail (outcome : StartOutcome) :
    (startOrFail qt outcome c).status = c.status.startOrFail outcome := by
  rw [Status.startOrFail, ← status_startProtocol qt c outcome, startOrFail]
  dsimp only
  split
  · rfl
  · exact status_setConnectionState qt _ _

theorem isNone_machine : c.status.machine.isNone = c.protocol.isNone := Option.isNone_map

theorem state_status : c.status.state = c.state := rfl

theorem status_reconnectToVpn (outcome : StartOutcome) :
    (reconnectToVpn qt outcome c).status = c.status.reconnect outcome := by
  rw [reconnectToVpn, Status.reconnect, isNone_machine, state_status]
  split
  · rfl
  · split
    · rfl
    · rw [status_startOrFail, status_stop, status_setConnectionState]

theorem status_disconnectFromVpn : (disconnectFromVpn qt c).status = c.status.disconnect := by
  rw [disconnectFromVpn, Status.disconnect, isNone_machine]
  split
  · exact status_setConnectionState qt c _
  · rw [status_destroy, status_stop, status_setConnectionState]

theorem status_connectToVpn (request : Request) :
    (connectToVpn qt request c).status = c.status.connect request.kind request.outcome := by
  have hbefore : (destroy qt (stop qt (setConnectionState qt .connecting
      { c with remoteAddress := request.remoteAddress }))).status = (c.status.set .connecting).stop.destroy := by
    rw [status_destroy, status_stop, status_setConnectionState]
    rfl
  have hcreated : ∀ (d : VpnConnection) (configuration : JsonObject),
      { d with configuration := configuration, protocol := factory request configuration }.status =
        { d.status with machine := request.kind.map (·, .unknown) } := by
    intro d configuration
    rw [status, factory, Option.map_map]
    rfl
  rw [connectToVpn, Status.connect, ← hbefore]
  dsimp only
  rw [← hcreated _ (appendSplitTunnelingConfig qt _ request.configuration), factory, Option.isSome_map]
  split
  · exact status_startOrFail qt _ _
  · exact status_setConnectionState qt _ _

theorem status_fail : (fail qt c).status = c.status.stop.setProtocol .error := by
  rw [fail, setLastError, status_setProtocolState, status_stop]

theorem status_setupRouting (outcome : RoutingOutcome) (p : Protocol) :
    (setupRouting qt outcome p c).status = c.status := by
  rw [setupRouting]
  split
  · rfl
  · rfl

theorem status_onSignal (sends : Protocol → Bool) (handle : Protocol → VpnConnection → VpnConnection)
    (h : ∀ p, c.status.Step (handle p c).status) : c.status.Step (onSignal sends handle c).status := by
  rw [onSignal]
  split
  · exact .stay _
  · split
    · exact h _
    · exact .stay _

theorem step_signal (t : ConnectionState) : c.status.Step (setProtocolState qt t c).status := by
  rw [status_setProtocolState]
  exact .signal _ t

theorem step_fail : c.status.Step (fail qt c).status := by
  rw [status_fail]
  exact .fail _

theorem step_of_status_eq {c d : VpnConnection} (h : d.status = c.status) : c.status.Step d.status := by
  rw [h]
  exact .stay _

theorem status_step (e : Event) : c.status.Step (step qt c e).status := by
  cases e with
  | connectToVpn request =>
    rw [step, status_connectToVpn]
    exact .connect _ _ _
  | disconnectFromVpn =>
    rw [step, status_disconnectFromVpn]
    exact .disconnect _
  | reconnectToVpn outcome =>
    rw [step, status_reconnectToVpn]
    exact .reconnect _ _
  | daemonConnected | daemonDisconnected | managementState state =>
    exact status_onSignal c _ _ fun _ => step_signal qt c _
  | vpnGateway gw | routeGateway gw =>
    exact status_onSignal c _ _ fun _ => step_of_status_eq (status_modifyProtocol c fun _ => ⟨rfl, rfl⟩)
  | processFinished =>
    apply status_onSignal
    intro p
    rw [← status_setProcess c false]
    exact step_signal qt _ _
  | tunReady outcome =>
    apply status_onSignal
    intro p
    rw [tunReady, ← status_setupRouting qt c outcome p]
    split
    · exact step_signal qt _ _
    · exact step_fail qt _
  | tunFinished resourceBusy =>
    apply status_onSignal
    intro p
    rw [tunFinished]
    split
    · exact step_of_status_eq ((status_setRetries _ _ _).trans (status_setProcess _ _))
    · rw [← status_setRetries c 0 p.pendingRetries]
      exact step_fail qt _
  | retryTun2Socks started =>
    apply status_onSignal
    intro p
    rw [retryTun2Socks, ← status_setRetries c p.tun2socksRetryCount (p.pendingRetries - 1)]
    split
    · exact step_of_status_eq (status_setProcess _ _)
    · exact step_fail qt _
  | delivers delivery => exact step_of_status_eq (status_deliver qt c delivery)
  | waits waits | settingsChanged settings | defaultContainerChanged isWireGuardContainer => exact .stay _

end Refinement

end VpnConnection

namespace Status

variable {s : Status} {k : Kind} {t u : ConnectionState}

theorem set_machine (t : ConnectionState) (s : Status) : (s.set t).machine = s.machine := by
  rw [set]
  split
  · rfl
  · rfl

theorem set_of_heard (h : t ≠ .disconnected ∨ s.state ≠ .reconnecting) :
    s.set t = { s with state := t, emitted := s.emitted ++ [t] } :=
  if_neg fun hn => h.elim (· hn.1) (· hn.2)

theorem set_state (h : t ≠ .disconnected ∨ s.state ≠ .reconnecting) : (s.set t).state = t := by
  rw [set_of_heard h]

theorem setProtocol_of_same (hm : s.machine = some (k, u)) (h : u = t ∨ u = .disconnected ∧ t = .disconnecting) :
    s.setProtocol t = s := by
  simp only [setProtocol, hm, if_pos h]

theorem setProtocol_of_new (hm : s.machine = some (k, u)) (h : ¬ (u = t ∨ u = .disconnected ∧ t = .disconnecting)) :
    s.setProtocol t = set t { s with machine := some (k, t) } := by
  simp only [setProtocol, hm, if_neg h]

def stops : Kind → ConnectionState → Bool
  | .openVpn, t => isActive t || t = .disconnecting
  | _, t => t ≠ .disconnected

theorem stop_of_not_stops (hm : s.machine = some (k, t)) (h : ¬ stops k t) : s.stop = s := by
  cases k with
  | wireGuard | xray =>
    have ht : t = .disconnected := by simpa [stops] using h
    simp only [stop, hm]
    exact setProtocol_of_same hm (.inl ht)
  | openVpn =>
    simp only [stops, Bool.or_eq_true, decide_eq_true_eq, not_or] at h
    simp only [stop, hm, if_neg h.1, if_neg h.2]

theorem stop_of_stops (hm : s.machine = some (k, t)) (h : stops k t) :
    ∃ r : Status, s.stop = r.set .disconnected ∧ r.machine = some (k, .disconnected) ∧
      (r.state = s.state ∨ r.state = .disconnecting) := by
  cases k with
  | wireGuard | xray =>
    have ht : t ≠ .disconnected := by simpa [stops] using h
    refine ⟨{ s with machine := some (_, .disconnected) }, ?_, rfl, .inl rfl⟩
    simp only [stop, hm]
    exact setProtocol_of_new hm fun hn => hn.elim ht fun hn => ht hn.1
  | openVpn =>
    by_cases ha : isActive t
    · have hne : ¬ (t = .disconnecting ∨ t = .disconnected ∧ ConnectionState.disconnecting = .disconnecting) := by
        rintro (rfl | ⟨rfl, -⟩)
        all_goals exact absurd ha Bool.false_ne_true
      have hfirst := (setProtocol_of_new hm hne).trans (set_of_heard (.inl (by decide)))
      refine ⟨{ s.setProtocol .disconnecting with machine := some (.openVpn, .disconnected) }, ?_, rfl, .inr ?_⟩
      · simp only [stop, hm, if_pos ha]
        refine setProtocol_of_new (k := .openVpn) (u := .disconnecting) ?_ (by decide)
        rw [hfirst]
      · rw [hfirst]
    · have ht : t = .disconnecting := by simpa [stops, ha] using h
      refine ⟨{ s with machine := some (.openVpn, .disconnected) }, ?_, rfl, .inl rfl⟩
      simp only [stop, hm, if_neg ha, if_pos ht]
      exact setProtocol_of_new hm (by rw [ht]; decide)

theorem stop_none (hm : s.machine = none) : s.stop = s := by
  simp only [stop, hm]

/-- Stopping leaves the state of the connection or ends it, and the protocol is not connected afterwards. -/
theorem stop_state (s : Status) : s.stop.state = s.state ∨ s.stop.state = .disconnected := by
  cases hm : s.machine with
  | none => exact .inl (by rw [stop_none hm])
  | some m =>
    obtain ⟨k, t⟩ := m
    by_cases h : stops k t
    · obtain ⟨r, hr, -, hstate⟩ := stop_of_stops hm h
      by_cases hreconnecting : r.state = .reconnecting
      · have hkept : r.state = s.state := hstate.resolve_right (by rw [hreconnecting]; decide)
        rw [hr, set, if_pos ⟨rfl, hreconnecting⟩]
        exact .inl hkept
      · rw [hr, set_of_heard (.inr hreconnecting)]
        exact .inr rfl
    · exact .inl (by rw [stop_of_not_stops hm h])

theorem stop_machine_ne_connected (hm : s.machine = some (k, t)) :
    ∃ u, s.stop.machine = some (k, u) ∧ u ≠ .connected := by
  by_cases h : stops k t
  · obtain ⟨r, hr, hmachine, -⟩ := stop_of_stops hm h
    refine ⟨.disconnected, ?_, by decide⟩
    rw [hr, set_machine, hmachine]
  · refine ⟨t, by rw [stop_of_not_stops hm h, hm], ?_⟩
    rintro rfl
    exact h (by cases k <;> rfl)

def protocolState (s : Status) : Option ConnectionState := s.machine.map (·.2)

/-- What holds between two events: without a protocol there is no reconnect to wait for, and the connection shows
`Connected` while its protocol is. -/
structure Sound (s : Status) : Prop where
  absent : s.machine = none → s.state ≠ .reconnecting
  connected : s.protocolState = some .connected → s.state = .connected

theorem Sound.of_ne (hn : s.machine = none → s.state ≠ .reconnecting) (hp : s.protocolState ≠ some .connected) :
    s.Sound :=
  ⟨hn, fun h => absurd h hp⟩

theorem Sound.setProtocol (h : s.Sound) (t : ConnectionState) : (s.setProtocol t).Sound := by
  cases hm : s.machine with
  | none => simpa only [Status.setProtocol, hm] using h
  | some m =>
    obtain ⟨k, u⟩ := m
    by_cases hsame : u = t ∨ u = .disconnected ∧ t = .disconnecting
    · rw [setProtocol_of_same hm hsame]
      exact h
    · rw [setProtocol_of_new hm hsame]
      have hmachine : (set t { s with machine := some (k, t) }).machine = some (k, t) := set_machine _ _
      refine ⟨fun hn => absurd (hmachine.symm.trans hn) (Option.some_ne_none _), ?_⟩
      rw [protocolState, hmachine, Option.map_some, Option.some_inj]
      rintro rfl
      exact set_state (.inl (by decide))

theorem stop_ne_connected (hm : s.machine = some (k, t)) :
    s.stop.machine ≠ none ∧ s.stop.protocolState ≠ some .connected := by
  obtain ⟨u, hu, hne⟩ := stop_machine_ne_connected hm
  rw [protocolState, hu]
  exact ⟨Option.some_ne_none _, fun hn => hne (Option.some.inj hn)⟩

theorem Sound.stop (h : s.Sound) : s.stop.Sound := by
  cases hm : s.machine with
  | none => rwa [stop_none hm]
  | some m =>
    obtain ⟨hsome, hne⟩ := stop_ne_connected hm
    exact .of_ne (fun hn => absurd hn hsome) hne

theorem protocolState_set (t : ConnectionState) (s : Status) : (s.set t).protocolState = s.protocolState := by
  rw [protocolState, set_machine, protocolState]

theorem Sound.setError (hp : s.protocolState ≠ some .connected) : (s.set .error).Sound := by
  refine .of_ne (fun _ => ?_) (by rwa [protocolState_set])
  rw [set_state (.inl (by decide))]
  decide

theorem setProtocol_ne_connected (hp : s.protocolState ≠ some .connected) (ht : t ≠ .connected) :
    (s.setProtocol t).protocolState ≠ some .connected := by
  cases hm : s.machine with
  | none => simpa only [setProtocol, hm] using hp
  | some m =>
    obtain ⟨k, u⟩ := m
    by_cases hsame : u = t ∨ u = .disconnected ∧ t = .disconnecting
    · rw [setProtocol_of_same hm hsame]
      exact hp
    · rw [setProtocol_of_new hm hsame, protocolState, set_machine]
      exact fun hn => ht (Option.some.inj hn)

theorem Sound.startOrFail (h : s.Sound) (hp : s.protocolState ≠ some .connected) (outcome : StartOutcome) :
    (s.startOrFail outcome).Sound := by
  rcases hm : s.machine with _ | ⟨_ | _ | _, t⟩
  · simpa only [Status.startOrFail, start, hm, if_true] using h
  · simpa only [Status.startOrFail, start, hm, if_true] using h
  · cases outcome with
    | configMissing | managementServerFailed =>
      simp only [Status.startOrFail, start, hm]
      exact .setError (setProtocol_ne_connected hp (by decide))
    | serviceFailed =>
      simp only [Status.startOrFail, start, hm]
      exact .setError hp
    | processFailed =>
      simp only [Status.startOrFail, start, hm]
      exact .setError (setProtocol_ne_connected (setProtocol_ne_connected hp (by decide)) (by decide))
    | started =>
      simp only [Status.startOrFail, start, hm, if_true]
      exact h.setProtocol _
  · simp only [Status.startOrFail, start, hm]
    split
    · exact h
    · exact .setError hp

/-- A protocol that is stopped and destroyed leaves no reconnect behind. -/
theorem stop_destroy_state (h : s.state ≠ .reconnecting) : s.stop.destroy.state ≠ .reconnecting := by
  have hend : s.stop.destroy.state = s.state ∨ s.stop.destroy.state = .disconnected := by
    obtain hs | hs := stop_state s.stop
    · obtain hs' | hs' := stop_state s
      · exact .inl (hs.trans hs')
      · exact .inr (hs.trans hs')
    · exact .inr hs
  obtain hs | hs := hend
  · rwa [hs]
  · rw [hs]
    decide

theorem set_stop_destroy_state (h : t ≠ .reconnecting) (hd : t ≠ .disconnected) :
    (s.set t).stop.destroy.state ≠ .reconnecting :=
  stop_destroy_state (by rwa [set_state (.inl hd)])

theorem Sound.connect (s : Status) (kind : Option Kind) (outcome : StartOutcome) : (s.connect kind outcome).Sound := by
  have hr : (s.set .connecting).stop.destroy.state ≠ .reconnecting := set_stop_destroy_state (by decide) (by decide)
  rw [Status.connect]
  generalize (s.set .connecting).stop.destroy = r at hr
  have hprotocol : (Status.mk r.state r.emitted (kind.map (·, .unknown))).protocolState ≠ some .connected := by
    rw [protocolState, Option.map_map]
    cases kind with
    | none => exact (Option.some_ne_none _).symm
    | some k => exact fun hn => ConnectionState.noConfusion (Option.some.inj hn)
  dsimp only
  split
  · have hcreated : (Status.mk r.state r.emitted (kind.map (·, .unknown))).Sound := .of_ne (fun _ => hr) hprotocol
    exact hcreated.startOrFail hprotocol outcome
  · exact .setError hprotocol

theorem Sound.reconnect (h : s.Sound) (outcome : StartOutcome) : (s.reconnect outcome).Sound := by
  rw [Status.reconnect]
  split
  · exact h
  · split
    · exact h
    next hnone hstate =>
      rw [Bool.not_eq_true, Option.isNone_eq_false_iff, Option.isSome_iff_exists] at hnone
      obtain ⟨⟨k, t⟩, hm⟩ := hnone
      obtain ⟨hsome, hprotocol⟩ := stop_ne_connected ((set_machine .reconnecting s).trans hm)
      exact Sound.startOrFail (.of_ne (fun hn => absurd hn hsome) hprotocol) hprotocol outcome

theorem Sound.disconnect (h : s.Sound) : s.disconnect.Sound := by
  rw [Status.disconnect]
  split
  next hnone =>
    rw [Option.isNone_iff_eq_none] at hnone
    refine .of_ne (fun _ => ?_) ?_
    · rw [set_state (.inr (h.absent hnone))]
      decide
    · rw [protocolState_set, protocolState, hnone]
      exact (Option.some_ne_none _).symm
  · exact .of_ne (fun _ => set_stop_destroy_state (by decide) (by decide)) (Option.some_ne_none _).symm

theorem Sound.step {s' : Status} (h : s.Sound) (hs : s.Step s') : s'.Sound := by
  cases hs with
  | stay => exact h
  | connect kind outcome => exact .connect s kind outcome
  | disconnect => exact h.disconnect
  | reconnect outcome => exact h.reconnect outcome
  | signal t => exact h.setProtocol t
  | fail => exact h.stop.setProtocol _

/-- A disconnect ends in `Disconnected` exactly when there is no protocol object or the connection hears it stop. -/
theorem Sound.disconnect_iff (h : s.Sound) :
    s.disconnect.state = .disconnected ∧ s.disconnect.emitted.getLast? = some .disconnected ↔
      ∀ k t, s.machine = some (k, t) → stops k t := by
  cases hm : s.machine with
  | none =>
    rw [Status.disconnect, hm, Option.isNone_none, if_pos rfl, set_of_heard (.inr (h.absent hm)),
      List.getLast?_concat]
    exact iff_of_true ⟨rfl, rfl⟩ fun _ _ hn => absurd hn.symm (Option.some_ne_none _)
  | some m =>
    obtain ⟨k, t⟩ := m
    have hm' : (s.set .disconnecting).machine = some (k, t) := (set_machine _ _).trans hm
    have hset : (s.set .disconnecting).state = .disconnecting := set_state (.inl (by decide))
    rw [Status.disconnect, hm, Option.isNone_some, if_neg Bool.false_ne_true]
    by_cases hstops : stops k t
    · obtain ⟨r, hr, hmachine, hstate⟩ := stop_of_stops hm' hstops
      have hheard : r.state ≠ .reconnecting := by
        obtain h' | h' := hstate
        · rw [h', hset]
          decide
        · rw [h']
          decide
      have hdestroy : (s.set .disconnecting).stop.destroy = { r.set .disconnected with machine := none } := by
        rw [destroy, hr, stop_of_not_stops ((set_machine _ _).trans hmachine) (by cases k <;> decide)]
      rw [hdestroy, set_of_heard (.inr hheard)]
      refine iff_of_true ⟨rfl, List.getLast?_concat⟩ ?_
      intro k' t' hkt
      obtain ⟨rfl, rfl⟩ := Prod.mk.inj (Option.some.inj hkt)
      exact hstops
    · have hdestroy : (s.set .disconnecting).stop.destroy = { s.set .disconnecting with machine := none } := by
        rw [stop_of_not_stops hm' hstops, destroy, stop_of_not_stops hm' hstops]
      rw [hdestroy]
      refine iff_of_false ?_ fun hall => hstops (hall k t rfl)
      rintro ⟨hstate, -⟩
      rw [hset] at hstate
      cases hstate

end Status

namespace VpnConnection

variable (qt : Qt) (settings : Settings) (isWireGuardContainer : Bool) (events : List Event)

theorem start_sound : (start settings isWireGuardContainer).status.Sound :=
  .of_ne (fun _ => ConnectionState.noConfusion) (Option.some_ne_none _).symm

theorem run_sound : (run qt settings isWireGuardContainer events).status.Sound := by
  have hstart := start_sound settings isWireGuardContainer
  rw [run]
  generalize start settings isWireGuardContainer = c at hstart
  induction events generalizing c with
  | nil => exact hstart
  | cons e events ih => exact ih _ (hstart.step (status_step qt c e))

def Heard (c : VpnConnection) : Prop := ∀ p, c.protocol = some p → Status.stops p.kind p.state

theorem heard_iff (c : VpnConnection) : c.Heard ↔ ∀ k t, c.status.machine = some (k, t) → Status.stops k t := by
  cases hp : c.protocol with
  | none => simp [Heard, status, hp]
  | some p => simp [Heard, status, hp]

/-- When the user disconnects, the connection ends in `Disconnected` and says so exactly when the protocol object is
gone or is in a state that its `stop` leaves with a signal. -/
theorem disconnectFromVpn_disconnected_iff :
    (disconnectFromVpn qt (run qt settings isWireGuardContainer events)).state = .disconnected ∧
        (disconnectFromVpn qt (run qt settings isWireGuardContainer events)).emitted.getLast? = some .disconnected ↔
      (run qt settings isWireGuardContainer events).Heard := by
  rw [heard_iff, ← (run_sound qt settings isWireGuardContainer events).disconnect_iff, ← status_disconnectFromVpn]
  rfl

def sampleRequest (kind : Kind) (outcome : StartOutcome) : Request where
  kind := some kind
  configuration := []
  remoteAddress := ""
  routeGateway := ""
  outcome := outcome

/-- The connection stays in `Disconnecting` after an OpenVPN start that the service refused, and when the user
disconnects while WireGuard reconnects. -/
theorem disconnectFromVpn_stays_disconnecting :
    let refused := run sampleQt sampleSettings false [.connectToVpn (sampleRequest .openVpn .serviceFailed)]
    let reconnecting := run sampleQt sampleSettings true
      [.connectToVpn (sampleRequest .wireGuard .started), .daemonConnected, .reconnectToVpn .started]
    (refused.state = .error ∧
      (disconnectFromVpn sampleQt refused).state = .disconnecting ∧
      (disconnectFromVpn sampleQt refused).emitted.getLast? = some .disconnecting) ∧
    (reconnecting.state = .reconnecting ∧
      (disconnectFromVpn sampleQt reconnecting).state = .disconnecting ∧
      (disconnectFromVpn sampleQt reconnecting).emitted.getLast? = some .disconnecting) := by
  decide +kernel

end VpnConnection

end TunnelCore.Connection
