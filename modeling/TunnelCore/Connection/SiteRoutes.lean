import TunnelCore.Connection.Disconnect

namespace TunnelCore.Connection.VpnConnection

open Daemon

def delayed (c : VpnConnection) : List DelayedRouting := (c.protocol.map (·.delayed)).getD []

/-- The sessions that still have a lookup outstanding or a delayed routing to come. -/
def pending (c : VpnConnection) : List Nat := c.lookups.map (·.session) ++ c.delayed.map (·.session)

def Ended (c : VpnConnection) : Prop := c.state = .disconnected ∨ c.state = .error

instance (c : VpnConnection) : Decidable c.Ended := inferInstanceAs (Decidable (_ ∨ _))

/-- The routing is as it was, except for timers that went away with their protocol object. -/
structure Frame (c d : VpnConnection) : Prop where
  state : d.state = c.state
  savedRoutes : d.savedRoutes = c.savedRoutes
  lookups : d.lookups = c.lookups
  session : d.session = c.session
  delayed : ∀ t ∈ d.delayed, t ∈ c.delayed

theorem Frame.modifyProtocol (c : VpnConnection) {f : Protocol → Protocol}
    (hf : ∀ p, ∀ t ∈ (f p).delayed, t ∈ p.delayed) : c.Frame (c.modifyProtocol f) where
  state := rfl
  savedRoutes := rfl
  lookups := rfl
  session := rfl
  delayed := by
    intro t ht
    rw [VpnConnection.delayed, VpnConnection.modifyProtocol] at ht
    rw [VpnConnection.delayed]
    cases hp : c.protocol with
    | none =>
      rw [hp] at ht
      cases ht
    | some p =>
      rw [hp] at ht
      exact hf p t ht

theorem Frame.pending {c d : VpnConnection} (h : c.Frame d) : ∀ n ∈ d.pending, n ∈ c.pending := by
  intro n hn
  rw [VpnConnection.pending, List.mem_append, List.mem_map, List.mem_map] at hn ⊢
  obtain ⟨l, hl, rfl⟩ | ⟨t, ht, rfl⟩ := hn
  · exact .inl ⟨l, h.lookups ▸ hl, rfl⟩
  · exact .inr ⟨t, h.delayed t ht, rfl⟩

section Waits

variable (qt : Qt) {c : VpnConnection}

theorem deliver_of_pending_nil (h : c.pending = []) (delivery : Delivery) : deliver qt c delivery = c := by
  obtain ⟨hlookups, hdelayed⟩ := List.append_eq_nil_iff.mp h
  rw [List.map_eq_nil_iff] at hlookups hdelayed
  cases delivery with
  | delayedRouting i =>
    rw [deliver]
    split
    · rfl
    next p hp =>
      have hnone : p.delayed = [] := by rwa [delayed, hp, Option.map_some, Option.getD_some] at hdelayed
      rw [fireDelayedRouting, hnone]
      rfl
  | lookupAnswered i addresses =>
    rw [deliver, answer, hlookups]
    rfl

theorem Frame.waitForFinished (h : c.pending = []) : c.Frame (waitForFinished qt c) := by
  rw [VpnConnection.waitForFinished]
  split
  · exact ⟨rfl, rfl, rfl, rfl, fun _ ht => ht⟩
  next deliveries waits hwaits =>
    clear hwaits
    have hsame : ∀ d : VpnConnection, d.pending = [] → deliveries.foldl (deliver qt) d = d := by
      intro d hd
      induction deliveries with
      | nil => rfl
      | cons delivery deliveries ih => rw [List.foldl_cons, deliver_of_pending_nil qt hd, ih]
    rw [hsame { c with waits := waits } h]
    exact ⟨rfl, rfl, rfl, rfl, fun _ ht => ht⟩

end Waits

/-- Nothing is outstanding, and what is saved is of the current session. -/
structure Rest (c : VpnConnection) : Prop where
  pending : c.pending = []
  saved : ∀ r ∈ c.savedRoutes, r.session = c.session

def Clean (c : VpnConnection) : Prop := c.Ended → c.savedRoutes = []

section Rest

variable {c d : VpnConnection}

theorem Frame.ended_iff (h : c.Frame d) : d.Ended ↔ c.Ended := by
  rw [Ended, Ended, h.state]

theorem Rest.frame (h : c.Rest) (hd : c.Frame d) : d.Rest where
  pending := List.eq_nil_iff_forall_not_mem.mpr fun n hn => by
    have hn := hd.pending n hn
    rw [h.pending] at hn
    cases hn
  saved r hr := (h.saved r (hd.savedRoutes ▸ hr)).trans hd.session.symm

theorem Clean.frame (h : c.Clean) (hd : c.Frame d) : d.Clean :=
  fun hended => hd.savedRoutes.trans (h (hd.ended_iff.mp hended))

variable (qt : Qt)

theorem Rest.cleared (h : c.Rest) (t : ConnectionState) (emitted : List ConnectionState) :
    let d := waitForFinished qt (clearSavedRoutes (waitForFinished qt c))
    { d with state := t, emitted := emitted }.Rest ∧ d.savedRoutes = [] := by
  have hbefore := h.frame (.waitForFinished qt h.pending)
  have hcleared : (clearSavedRoutes (waitForFinished qt c)).Rest := ⟨hbefore.pending, fun r hr => absurd hr List.not_mem_nil⟩
  have hframe := Frame.waitForFinished qt hcleared.pending
  have hrest := hcleared.frame hframe
  exact ⟨⟨hrest.pending, hrest.saved⟩, hframe.savedRoutes⟩

theorem Rest.setConnectionState (h : c.Rest) {t : ConnectionState} (ht : t ≠ .connected) :
    (setConnectionState qt t c).Rest ∧ (setConnectionState qt t c).Clean := by
  have hcleared := h.cleared qt
  cases t with
  | connected => exact absurd rfl ht
  | disconnected =>
    rw [VpnConnection.setConnectionState]
    split
    · exact ⟨(hcleared _ _).1, fun _ => (hcleared .error []).2⟩
    · exact ⟨(hcleared _ _).1, fun _ => (hcleared .error []).2⟩
  | error => exact ⟨(hcleared _ _).1, fun _ => (hcleared .error []).2⟩
  | unknown | preparing | connecting | disconnecting | reconnecting =>
    refine ⟨⟨h.pending, h.saved⟩, fun hended => ?_⟩
    obtain hended | hended := hended
    · cases hended
    · cases hended

end Rest

section Closed

variable (qt : Qt)

/-- A predicate that every frame step keeps, and every change of the connection state but the one to `Connected`. What
ends a session is made of these. -/
structure Closed (P : VpnConnection → Prop) : Prop where
  frame : ∀ {c d}, P c → c.Frame d → P d
  set : ∀ {c t}, P c → t ≠ .connected → P (setConnectionState qt t c)

theorem closed_rest : Closed qt Rest where
  frame h hd := h.frame hd
  set h ht := (h.setConnectionState qt ht).1

theorem closed_clean : Closed qt fun c => c.Rest ∧ c.Clean where
  frame h hd := ⟨h.1.frame hd, h.2.frame hd⟩
  set h ht := h.1.setConnectionState qt ht

variable {qt} {P : VpnConnection → Prop} (hP : Closed qt P) {c : VpnConnection}
include hP

theorem Closed.modifyProtocol (h : P c) {f : Protocol → Protocol} (hf : ∀ p, ∀ t ∈ (f p).delayed, t ∈ p.delayed) :
    P (c.modifyProtocol f) :=
  hP.frame h (.modifyProtocol c hf)

theorem Closed.setProtocolState (h : P c) {t : ConnectionState} (ht : t ≠ .connected) : P (setProtocolState qt t c) := by
  rw [VpnConnection.setProtocolState]
  split
  · exact h
  · split
    · exact h
    · exact hP.set (hP.modifyProtocol h fun _ _ ht => ht) ht

theorem Closed.setManagement (h : P c) (listens : Bool) : P (setManagement listens c) :=
  hP.modifyProtocol h fun _ _ ht => ht

theorem Closed.setProcess (h : P c) (runs : Bool) : P (setProcess runs c) := hP.modifyProtocol h fun _ _ ht => ht

theorem Closed.setRetries (h : P c) (count pending : Nat) : P (setRetries count pending c) :=
  hP.modifyProtocol h fun _ _ ht => ht

theorem Closed.stop (h : P c) : P (stop qt c) := by
  have hclosed {d : VpnConnection} (hd : P d) : P (VpnConnection.setProtocolState qt .disconnected d) :=
    hP.setProtocolState hd (by decide)
  rw [VpnConnection.stop]
  split
  · exact h
  · split
    · exact hclosed h
    · rw [stopOpenVpn]
      split
      · exact hclosed (hP.setManagement (hP.setProtocolState h (by decide)) _)
      · split
        · exact hclosed (hP.setManagement h _)
        · exact hP.setManagement h _
    · exact hclosed (hP.setProcess h _)

theorem Closed.destroy (h : P c) : P (destroy qt c) := by
  refine hP.frame (hP.stop h) ⟨rfl, rfl, rfl, rfl, fun t ht => ?_⟩
  cases ht

theorem Closed.startProtocol (h : P c) (outcome : StartOutcome) : P (startProtocol qt outcome c).2 := by
  rw [VpnConnection.startProtocol]
  split
  · exact h
  · split
    · exact h
    · have hcleaned := hP.setManagement h false
      have hlistening := hP.setProtocolState (t := .connecting) (hP.setManagement hcleaned true) (by decide)
      cases outcome with
      | configMissing | managementServerFailed => exact hP.setProtocolState hcleaned (by decide)
      | serviceFailed => exact hcleaned
      | processFailed => exact hP.setProtocolState hlistening (by decide)
      | started => exact hP.setProcess hlistening _
    · split
      · exact hP.setProcess h _
      · exact h

theorem Closed.startOrFail (h : P c) (outcome : StartOutcome) : P (startOrFail qt outcome c) := by
  rw [VpnConnection.startOrFail]
  split
  · exact hP.startProtocol h outcome
  · exact hP.set (hP.startProtocol h outcome) (by decide)

theorem Closed.fail (h : P c) : P (fail qt c) := hP.setProtocolState (hP.stop h) (by decide)

theorem Closed.connectToVpn (h : P c) (request : Request) : P (connectToVpn qt request c) := by
  have haddress : P { c with remoteAddress := request.remoteAddress } :=
    hP.frame h ⟨rfl, rfl, rfl, rfl, fun _ ht => ht⟩
  have hcreated : ∀ (d : VpnConnection) (configuration : JsonObject), P d →
      P { d with configuration := configuration, protocol := factory request configuration } := by
    intro d configuration hd
    refine hP.frame hd ⟨rfl, rfl, rfl, rfl, fun t ht => ?_⟩
    rw [delayed, factory, Option.map_map] at ht
    cases hk : request.kind with
    | none =>
      rw [hk] at ht
      cases ht
    | some kind =>
      rw [hk] at ht
      cases ht
  have hbefore := hP.destroy (hP.stop (hP.set (t := .connecting) haddress (by decide)))
  rw [VpnConnection.connectToVpn]
  split
  · exact hP.startOrFail (hcreated _ _ hbefore) _
  · exact hP.set (hcreated _ _ hbefore) (by decide)

theorem Closed.reconnectToVpn (h : P c) (outcome : StartOutcome) : P (reconnectToVpn qt outcome c) := by
  rw [VpnConnection.reconnectToVpn]
  split
  · exact h
  · split
    · exact h
    · exact hP.startOrFail (hP.stop (hP.set h (by decide))) _

theorem Closed.disconnectFromVpn (h : P c) : P (disconnectFromVpn qt c) := by
  rw [VpnConnection.disconnectFromVpn]
  split
  · exact hP.set h (by decide)
  · exact hP.destroy (hP.stop (hP.set h (by decide)))

end Closed

/-- Routes, lookups and timers of the current session are added. -/
structure Grows (c d : VpnConnection) : Prop where
  session : d.session = c.session
  saved : ∀ r ∈ d.savedRoutes, r.session = c.session ∨ r ∈ c.savedRoutes
  pending : ∀ n ∈ d.pending, n = c.session ∨ n ∈ c.pending

section Routing

variable {c d e : VpnConnection}

theorem Grows.trans (h : c.Grows d) (h' : d.Grows e) : c.Grows e where
  session := h'.session.trans h.session
  saved r hr := by
    obtain hr | hr := h'.saved r hr
    · exact .inl (hr.trans h.session)
    · exact h.saved r hr
  pending n hn := by
    obtain hn | hn := h'.pending n hn
    · exact .inl (hn.trans h.session)
    · exact h.pending n hn

theorem Grows.of_frame (h : c.Frame d) : c.Grows d where
  session := h.session
  saved _ hr := .inr (h.savedRoutes ▸ hr)
  pending n hn := .inr (h.pending n hn)

theorem Grows.refl (c : VpnConnection) : c.Grows c := .of_frame ⟨rfl, rfl, rfl, rfl, fun _ ht => ht⟩

variable (qt : Qt)

theorem Grows.routeAddList {session : Nat} (hs : session = c.session) (gw : String) (ips : List String) :
    c.Grows (routeAddList qt session gw ips c) where
  session := rfl
  saved r hr := by
    rw [VpnConnection.routeAddList, List.mem_append, List.mem_map] at hr
    obtain hr | ⟨ip, -, rfl⟩ := hr
    · exact .inr hr
    · exact .inl hs
  pending _ := .inr

theorem Grows.addSitesRoutes {session : Nat} (hs : session = c.session) (gw : String) (mode : RouteMode) :
    c.Grows (addSitesRoutes qt session gw mode c) where
  session := rfl
  saved := (Grows.routeAddList qt hs gw _).saved
  pending n hn := by
    rw [VpnConnection.pending, VpnConnection.addSitesRoutes, List.mem_append, List.map_append, List.mem_append] at hn
    obtain (hn | hn) | hn := hn
    · exact .inr (List.mem_append_left _ hn)
    · rw [List.mem_map] at hn
      obtain ⟨l, hl, rfl⟩ := hn
      rw [List.mem_map] at hl
      obtain ⟨site, -, rfl⟩ := hl
      exact .inl hs
    · exact .inr (List.mem_append_right _ hn)

theorem mem_delayed_delaySitesRoutes {mode : RouteMode} {t : DelayedRouting}
    (ht : t ∈ (delaySitesRoutes mode c).delayed) : t.session = c.session ∨ t ∈ c.delayed := by
  rw [VpnConnection.delayed, delaySitesRoutes, modifyProtocol] at ht
  rw [VpnConnection.delayed]
  cases hp : c.protocol with
  | none =>
    rw [hp] at ht
    cases ht
  | some p =>
    rw [hp, Option.map_some, Option.map_some, Option.getD_some, List.mem_append, List.mem_singleton] at ht
    obtain ht | rfl := ht
    · exact .inr ht
    · exact .inl rfl

theorem Grows.delaySitesRoutes (mode : RouteMode) : c.Grows (delaySitesRoutes mode c) where
  session := rfl
  saved _ := .inr
  pending n hn := by
    rw [VpnConnection.pending, List.mem_append] at hn
    obtain hn | hn := hn
    · exact .inr (List.mem_append_left _ hn)
    · rw [List.mem_map] at hn
      obtain ⟨t, ht, rfl⟩ := hn
      obtain h | h := mem_delayed_delaySitesRoutes ht
      · exact .inl h
      · exact .inr (List.mem_append_right _ (List.mem_map_of_mem h))

theorem Grows.addSplitRoutes (p : Protocol) : c.Grows (addSplitRoutes qt p c) := by
  rw [VpnConnection.addSplitRoutes]
  split
  · split
    · exact .delaySitesRoutes _
    · split
      · exact (Grows.routeAddList qt rfl _ _).trans ((Grows.routeAddList qt rfl _ _).trans
          ((Grows.routeAddList qt rfl _ _).trans (Grows.addSitesRoutes qt rfl _ _)))
      · exact .refl c
  · exact .refl c

theorem Grows.addConnectedRoutes (c : VpnConnection) : c.Grows (addConnectedRoutes qt c) := by
  rw [VpnConnection.addConnectedRoutes]
  split
  · exact .refl c
  · split
    · exact .refl c
    · exact (Grows.routeAddList qt rfl _ _).trans (Grows.addSplitRoutes qt _)

def Current (c : VpnConnection) : Prop := ∀ n ∈ c.pending, n = c.session

theorem Grows.current (h : c.Grows d) (hc : c.Current) : d.Current := by
  intro n hn
  obtain hn | hn := h.pending n hn
  · exact hn.trans h.session.symm
  · exact (hc n hn).trans h.session.symm

theorem Grows.saved_current (h : c.Grows d) (hc : ∀ r ∈ c.savedRoutes, r.session = c.session) :
    ∀ r ∈ d.savedRoutes, r.session = d.session := by
  intro r hr
  obtain hr | hr := h.saved r hr
  · exact hr.trans h.session.symm
  · exact (hc r hr).trans h.session.symm

theorem Grows.deliver (hc : c.Current) (delivery : Delivery) : c.Grows (deliver qt c delivery) := by
  cases delivery with
  | delayedRouting i =>
    rw [VpnConnection.deliver]
    split
    · exact .refl c
    next p hp =>
      rw [fireDelayedRouting]
      split
      · exact .refl c
      next t ht =>
        have hmem : t ∈ c.delayed := by
          rw [VpnConnection.delayed, hp]
          exact List.mem_of_getElem? ht
        have hframe : c.Frame (eraseDelayed i c) := .modifyProtocol c fun _ _ h => List.mem_of_mem_eraseIdx h
        have hsession := hc _ (List.mem_append_right _ (List.mem_map_of_mem hmem))
        exact (Grows.of_frame hframe).trans (Grows.addSitesRoutes qt (hsession.trans hframe.session.symm) _ _)
  | lookupAnswered i addresses =>
    rw [VpnConnection.deliver, answer]
    split
    · exact .refl c
    next l hl =>
      have hsession := hc _ (List.mem_append_left _ (List.mem_map_of_mem (List.mem_of_getElem? hl)))
      refine ⟨rfl, (Grows.routeAddList qt hsession _ _).saved, fun n hn => .inr ?_⟩
      rw [VpnConnection.pending, List.mem_append, List.mem_map] at hn
      obtain ⟨l', hl', rfl⟩ | hn := hn
      · exact List.mem_append_left _ (List.mem_map_of_mem (List.mem_of_mem_eraseIdx hl'))
      · exact List.mem_append_right _ hn

theorem Grows.waitForFinished (hc : c.Current) : c.Grows (waitForFinished qt c) := by
  rw [VpnConnection.waitForFinished]
  split
  · exact .refl c
  next deliveries waits hwaits =>
    clear hwaits
    have hall : ∀ d, c.Grows d → c.Grows (deliveries.foldl (VpnConnection.deliver qt) d) := by
      induction deliveries with
      | nil => exact fun _ hd => hd
      | cons delivery deliveries ih => exact fun d hd => ih _ (hd.trans (.deliver qt (hd.current hc) delivery))
    exact hall _ (.of_frame ⟨rfl, rfl, rfl, rfl, fun _ ht => ht⟩)

theorem Grows.setConnectionState (hc : c.Current) {t : ConnectionState} (ht : ¬(t = .disconnected ∨ t = .error)) :
    c.Grows (setConnectionState qt t c) ∧ (setConnectionState qt t c).state = t := by
  cases t with
  | disconnected => exact absurd (.inl rfl) ht
  | error => exact absurd (.inr rfl) ht
  | connected =>
    have h := (Grows.waitForFinished qt hc).trans (.addConnectedRoutes qt _)
    exact ⟨⟨h.session, h.saved, h.pending⟩, rfl⟩
  | unknown | preparing | connecting | disconnecting | reconnecting =>
    exact ⟨⟨rfl, fun _ => .inr, fun _ => .inr⟩, rfl⟩

theorem Grows.setupRouting (outcome : RoutingOutcome) (p : Protocol) : c.Grows (setupRouting qt outcome p c) := by
  rw [VpnConnection.setupRouting]
  split
  · exact .routeAddList qt rfl _ _
  · exact .refl c

theorem protocol_setupRouting (outcome : RoutingOutcome) (p : Protocol) :
    (setupRouting qt outcome p c).protocol = c.protocol := by
  rw [setupRouting]
  split
  · rfl
  · rfl

variable {p : Protocol}

theorem clean_fail (h : c.Rest) (hp : c.protocol = some p) (hk : p.kind = .xray) : (fail qt c).Clean := by
  have hmachine : c.status.machine = some (.xray, p.state) := by
    rw [status, hp, Option.map_some, hk]
  have hstopped : (stop qt c).status.machine = some (.xray, .disconnected) := by
    rw [status_stop]
    by_cases h : Status.stops .xray p.state
    · obtain ⟨r, hr, hm, -⟩ := Status.stop_of_stops hmachine h
      rw [hr, Status.set_machine, hm]
    · rw [Status.stop_of_not_stops hmachine h, hmachine]
      have hstate : p.state = .disconnected := by simpa [Status.stops] using h
      rw [hstate]
  rw [status, Option.map_eq_some_iff] at hstopped
  obtain ⟨q, hq, hqs⟩ := hstopped
  have hstate : q.state = .disconnected := congrArg Prod.snd hqs
  have hne : ¬(q.state = .error ∨ q.state = .disconnected ∧ ConnectionState.error = .disconnecting) := by
    rw [hstate]
    decide
  rw [fail, setLastError, setProtocolState, hq]
  dsimp only
  rw [if_neg hne]
  refine (Rest.setConnectionState qt ?_ (by decide)).2
  exact (closed_rest qt).modifyProtocol ((closed_rest qt).stop h) fun _ _ ht => ht

end Routing

/-- What holds between two events as long as every session ends with nothing pending. -/
structure Tidy (c : VpnConnection) : Prop where
  clean : c.Clean
  pending : c.Current
  saved : ∀ r ∈ c.savedRoutes, r.session = c.session
  ended : c.Ended → c.pending = []

section Runs

variable (qt : Qt) {c d : VpnConnection}

theorem Tidy.frame (h : c.Tidy) (hd : c.Frame d) : d.Tidy where
  clean := h.clean.frame hd
  pending n hn := (h.pending n (hd.pending n hn)).trans hd.session.symm
  saved r hr := (h.saved r (hd.savedRoutes ▸ hr)).trans hd.session.symm
  ended hended := by
    refine List.eq_nil_iff_forall_not_mem.mpr fun n hn => ?_
    have hn := hd.pending n hn
    rw [h.ended (hd.ended_iff.mp hended)] at hn
    cases hn

theorem Tidy.modifyProtocol (h : c.Tidy) {f : Protocol → Protocol} (hf : ∀ p, ∀ t ∈ (f p).delayed, t ∈ p.delayed) :
    (c.modifyProtocol f).Tidy :=
  h.frame (.modifyProtocol c hf)

theorem Tidy.grows (h : c.Tidy) (hg : c.Grows d) (hd : ¬d.Ended) : d.Tidy where
  clean hended := absurd hended hd
  pending := hg.current h.pending
  saved := hg.saved_current h.saved
  ended hended := absurd hended hd

theorem Rest.tidy (h : c.Rest ∧ c.Clean) : c.Tidy where
  clean := h.2
  pending n hn := by
    rw [h.1.pending] at hn
    cases hn
  saved := h.1.saved
  ended _ := h.1.pending

theorem Tidy.setProtocolState (h : c.Tidy) {t : ConnectionState} (ht : ¬(t = .disconnected ∨ t = .error)) :
    (setProtocolState qt t c).Tidy := by
  rw [VpnConnection.setProtocolState]
  split
  · exact h
  · split
    · exact h
    · have hgrows : c.Grows (c.modifyProtocol fun p => { p with state := t }) :=
        .of_frame (.modifyProtocol c fun _ _ ht => ht)
      obtain ⟨hset, hstate⟩ := Grows.setConnectionState qt (hgrows.current h.pending) ht
      exact h.grows (hgrows.trans hset) (by rw [Ended, hstate]; exact ht)

theorem Tidy.deliver (h : c.Tidy) (delivery : Delivery) : (deliver qt c delivery).Tidy := by
  by_cases hnone : c.pending = []
  · rw [deliver_of_pending_nil qt hnone]
    exact h
  · refine h.grows (.deliver qt h.pending delivery) ?_
    have hstate : (VpnConnection.deliver qt c delivery).state = c.state :=
      congrArg Status.state (status_deliver qt c delivery)
    rw [Ended, hstate]
    exact fun hended => hnone (h.ended hended)

theorem Tidy.tunReady (h : c.Tidy) (hs : c.status.Sound) {p : Protocol} (hp : c.protocol = some p) (hk : p.kind = .xray)
    {outcome : RoutingOutcome} (hrest : outcome ≠ .done → c.pending = []) : (tunReady qt outcome p c).Tidy := by
  have hgrows := Grows.setupRouting (c := c) qt outcome p
  have hprotocol : (setupRouting qt outcome p c).protocol = some p := (protocol_setupRouting qt outcome p).trans hp
  rw [VpnConnection.tunReady]
  split
  · rw [VpnConnection.setProtocolState, hprotocol]
    dsimp only
    split
    next hsame =>
      -- the connection is up and stays so
      have hconnected : p.state = .connected := hsame.resolve_right fun h => ConnectionState.noConfusion h.2
      have hstate : c.state = .connected := by
        apply hs.connected
        rw [Status.protocolState, status, hp, Option.map_some, Option.map_some, hconnected]
      have hkept : (setupRouting qt outcome p c).state = .connected :=
        (congrArg Status.state (status_setupRouting qt c outcome p)).trans hstate
      exact h.grows hgrows (by rw [Ended, hkept]; decide)
    · have hall := hgrows.trans (.of_frame (.modifyProtocol _ (f := fun p => { p with state := .connected })
        fun _ _ ht => ht))
      obtain ⟨hset, hstate⟩ := Grows.setConnectionState (t := .connected) qt (hall.current h.pending) (by decide)
      exact h.grows (hall.trans hset) (by rw [Ended, hstate]; decide)
  next hfailed =>
    have hadded : (setupRouting qt outcome p c).Rest := by
      refine ⟨?_, hgrows.saved_current h.saved⟩
      rw [VpnConnection.setupRouting]
      split <;> exact hrest hfailed
    exact Rest.tidy ⟨(closed_rest qt).fail hadded, clean_fail qt hadded hprotocol hk⟩

/-- What can end a session. -/
def mayEnd (c : VpnConnection) : Event → Bool
  | .connectToVpn _ => true
  | .disconnectFromVpn => true
  | .reconnectToVpn _ => c.state = .connected
  | .daemonDisconnected => true
  | .processFinished => true
  | .tunReady outcome => outcome ≠ .done
  | .tunFinished resourceBusy => !(resourceBusy && c.protocol.any (·.tun2socksRetryCount < maxTun2SocksRetries))
  | .retryTun2Socks started => !started
  | _ => false

/-- No lookup is outstanding and no delayed routing to come when a session may end. -/
def Settled (c : VpnConnection) (e : Event) : Prop := mayEnd c e = true → c.pending = []

instance (c : VpnConnection) (e : Event) : Decidable (Settled c e) := inferInstanceAs (Decidable (_ → _))

theorem Tidy.onSignal (h : c.Tidy) (sends : Protocol → Bool) {handle : Protocol → VpnConnection → VpnConnection}
    (hh : ∀ p, c.protocol = some p → sends p = true → (handle p c).Tidy) : (onSignal sends handle c).Tidy := by
  rw [VpnConnection.onSignal]
  split
  · exact h
  next p hp =>
    split
    next hsends => exact hh p hp hsends
    · exact h

theorem Tidy.step {e : Event} (h : c.Tidy) (hs : c.status.Sound) (hq : Settled c e) : (step qt c e).Tidy := by
  have hclosed := closed_clean qt
  have hrest (hend : mayEnd c e = true) : c.Rest ∧ c.Clean := ⟨⟨hq hend, h.saved⟩, h.clean⟩
  cases e with
  | connectToVpn request => exact Rest.tidy (hclosed.connectToVpn (hrest rfl) request)
  | disconnectFromVpn => exact Rest.tidy (hclosed.disconnectFromVpn (hrest rfl))
  | reconnectToVpn outcome =>
    by_cases hconnected : c.state = .connected
    · exact Rest.tidy (hclosed.reconnectToVpn (hrest (decide_eq_true hconnected)) outcome)
    · rw [VpnConnection.step, reconnectToVpn, if_pos hconnected, ite_self]
      exact h
  | daemonConnected => exact h.onSignal _ fun _ _ _ => h.setProtocolState qt (by decide)
  | managementState state =>
    refine h.onSignal _ fun _ _ _ => h.setProtocolState qt ?_
    cases state <;> decide
  | daemonDisconnected => exact h.onSignal _ fun _ _ _ => Rest.tidy (hclosed.setProtocolState (hrest rfl) (by decide))
  | processFinished =>
    apply h.onSignal
    intro p _ _
    exact Rest.tidy (hclosed.setProtocolState (hclosed.setProcess (hrest rfl) false) (by decide))
  | vpnGateway gw | routeGateway gw => exact h.onSignal _ fun _ _ _ => h.modifyProtocol fun _ _ ht => ht
  | tunReady outcome =>
    refine h.onSignal _ fun p hp hsends => ?_
    rw [Bool.and_eq_true, decide_eq_true_eq] at hsends
    exact h.tunReady qt hs hp hsends.1 fun hne => hq (decide_eq_true hne)
  | tunFinished resourceBusy =>
    refine h.onSignal _ fun p hp _ => ?_
    rw [tunFinished]
    split
    · refine Tidy.modifyProtocol (Tidy.modifyProtocol h ?_) ?_ <;> exact fun _ _ ht => ht
    next hfails =>
      refine Rest.tidy (hclosed.fail (hclosed.setRetries (hrest ?_) _ _))
      rw [mayEnd, hp, Option.any_some, Bool.not_eq_true', Bool.and_eq_false_iff]
      simpa [imp_iff_not_or] using hfails
  | retryTun2Socks started =>
    refine h.onSignal _ fun p hp _ => ?_
    cases started with
    | true => refine Tidy.modifyProtocol (Tidy.modifyProtocol h ?_) ?_ <;> exact fun _ _ ht => ht
    | false => exact Rest.tidy (hclosed.fail (hclosed.setRetries (hrest rfl) _ _))
  | delivers delivery => exact h.deliver qt delivery
  | waits waits | settingsChanged settings | defaultContainerChanged isWireGuardContainer =>
    exact h.frame ⟨rfl, rfl, rfl, rfl, fun _ ht => ht⟩

end Runs

def answered : Delivery := .lookupAnswered 0 [.ipv4 0xC0000201]

end TunnelCore.Connection.VpnConnection
