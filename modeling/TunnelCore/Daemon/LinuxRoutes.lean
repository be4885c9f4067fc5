import TunnelCore.Daemon.Hosts
import TunnelCore.Daemon.Operations
import Mathlib.Data.Finset.Lattice.Lemmas

namespace TunnelCore.Daemon.Linux

open TunnelCore.Action

def entries (ip : IPAddress) : Finset IPAddress :=
  if 0 < ip.prefixLength then {ip} else {lowerHalf ip.address, upperHalf ip.address}

def withdrawn (R : Finset IPAddress) (ip : IPAddress) : Finset IPAddress :=
  if 0 < ip.prefixLength then R ∪ entries ip else R \ entries ip

def lastFor (ips : List IPAddress) (x : IPAddress) : Option IPAddress := ips.reverse.find? (x ∈ entries ·)

theorem lastFor_append (ips : List IPAddress) (ip x : IPAddress) :
    lastFor (ips ++ [ip]) x = if x ∈ entries ip then some ip else lastFor ips x := by
  rw [lastFor, List.reverse_append, List.reverse_singleton, List.singleton_append, List.find?_cons]
  by_cases h : x ∈ entries ip <;> simp [h, lastFor]

theorem lastFor_singleton (ip x : IPAddress) : lastFor [ip] x = if x ∈ entries ip then some ip else none :=
  lastFor_append [] ip x

theorem mem_inserted (R : Finset IPAddress) (ips : List IPAddress) (x : IPAddress) :
    x ∈ ips.foldl (fun R ip => R ∪ entries ip) R ↔ x ∈ R ∨ (lastFor ips x).isSome = true := by
  induction ips using List.reverseRecOn with
  | nil => simp [lastFor]
  | append_singleton ips ip ih =>
    rw [List.foldl_append, List.foldl_cons, List.foldl_nil, Finset.mem_union, ih, lastFor_append]
    by_cases h : x ∈ entries ip <;> simp [h]

theorem mem_withdrawn (R : Finset IPAddress) (ips : List IPAddress) (x : IPAddress) :
    x ∈ ips.foldl withdrawn R ↔ (lastFor ips x).elim (x ∈ R) fun ip => 0 < ip.prefixLength := by
  induction ips using List.reverseRecOn with
  | nil => rfl
  | append_singleton ips ip ih =>
    rw [List.foldl_append, List.foldl_cons, List.foldl_nil, withdrawn, lastFor_append]
    by_cases h : x ∈ entries ip <;> by_cases hl : 0 < ip.prefixLength <;> simp [h, hl, ih]

theorem inserted_withdrawn_eq_iff (R : Finset IPAddress) (ips : List IPAddress) :
    ips.foldl withdrawn (ips.foldl (fun R ip => R ∪ entries ip) R) = R ↔
      ∀ x ip, lastFor ips x = some ip → (0 < ip.prefixLength ↔ x ∈ R) := by
  rw [Finset.ext_iff]
  refine forall_congr' fun x => ?_
  rw [mem_withdrawn, mem_inserted]
  cases lastFor ips x <;> simp

section Calls

variable {qt : Qt} {R : Finset IPAddress} {P : HostState → Prop} {ip : IPAddress}

theorem lowerHalf_valid (a : QHostAddress) : (lowerHalf a).Valid := by cases a <;> simp [lowerHalf, IPAddress.Valid]

theorem upperHalf_valid (a : QHostAddress) : (upperHalf a).Valid := by cases a <;> simp [upperHalf, IPAddress.Valid]

theorem insertRoute_of_valid (h : ip.Valid) : insertRoute ip = update fun s => { s with routes := insert ip s.routes } :=
  if_pos h

theorem deleteRoute_of_valid (h : ip.Valid) : deleteRoute ip = update fun s => { s with routes := s.routes.erase ip } :=
  if_pos h

theorem insertHalves (a : QHostAddress) (s : HostState) :
    (insertRoute (lowerHalf a)).andThen (insertRoute (upperHalf a)) s =
      (true, { s with routes := s.routes ∪ {lowerHalf a, upperHalf a} }) := by
  rw [insertRoute_of_valid (lowerHalf_valid a), insertRoute_of_valid (upperHalf_valid a)]
  simp only [andThen, update, if_true, Prod.mk.injEq, HostState.mk.injEq, true_and]
  ext x
  simp only [Finset.mem_insert, Finset.mem_union, Finset.mem_singleton]
  tauto

theorem deleteHalves (a : QHostAddress) (s : HostState) :
    (deleteRoute (lowerHalf a)).andThen (deleteRoute (upperHalf a)) s =
      (true, { s with routes := s.routes \ {lowerHalf a, upperHalf a} }) := by
  rw [deleteRoute_of_valid (lowerHalf_valid a), deleteRoute_of_valid (upperHalf_valid a)]
  simp only [andThen, update, if_true, Prod.mk.injEq, HostState.mk.injEq, true_and]
  ext x
  simp only [Finset.mem_erase, Finset.mem_sdiff, Finset.mem_insert, Finset.mem_singleton]
  tauto

variable {s : HostState}

theorem routePrefix_refused (h : ¬(s.monitor = true ∧ ip.Valid)) :
    updateRoutePrefix ip s = (false, s) ∧ deleteRoutePrefix ip s = (false, s) := by
  have hi : ¬ip.Valid → insertRoute ip s = (false, s) := fun hv => by rw [insertRoute, rtmSendRoute, if_neg hv, fails]
  cases hm : s.monitor with
  | false => simp [updateRoutePrefix, deleteRoutePrefix, whenMonitored, branch, hm, fails]
  | true =>
    have hv : ¬ip.Valid := fun hv => h ⟨hm, hv⟩
    by_cases hl : 0 < ip.prefixLength <;>
      simp [updateRoutePrefix, deleteRoutePrefix, whenMonitored, branch, hm, hl, hv, hi, fails]

theorem updateRoutePrefix_eq (hm : s.monitor = true) (hv : ip.Valid) :
    updateRoutePrefix ip s = (true, { s with routes := s.routes ∪ entries ip }) := by
  rw [updateRoutePrefix, whenMonitored, branch, if_pos hm, entries]
  split
  · rw [insertRoute_of_valid hv, update, Finset.insert_eq, Finset.union_comm]
  · exact insertHalves _ s

theorem deleteRoutePrefix_eq (hm : s.monitor = true) (hv : ip.Valid) :
    deleteRoutePrefix ip s = (true, { s with routes := withdrawn s.routes ip }) := by
  rw [deleteRoutePrefix, whenMonitored, branch, if_pos hm, withdrawn, entries]
  split
  · rw [insertRoute_of_valid hv, update, Finset.insert_eq, Finset.union_comm]
  · exact deleteHalves _ s

end Calls

def leavesRoutes : Call → Bool
  | .addInterface _ | .deleteInterface | .updateRoutePrefix _ | .deleteRoutePrefix _ => false
  | _ => true

def Monitored (R : Finset IPAddress) (s : HostState) : Prop := s.monitor = true ∧ s.routes = R

def Standing (R : Finset IPAddress) (s : HostState) : Prop :=
  (s.tunnel = true → s.monitor = true) ∧ s.routes = R

def On (C : HopType → Option ConnectionState) (P : HostState → Prop) (d : State HostState) : Prop :=
  d.connections = C ∧ P d.platform

section Daemon

variable {qt : Qt} {R : Finset IPAddress} {P X Y : HostState → Prop} {C : HopType → Option ConnectionState}

theorem triple_addExclusionRoutes (hP : ∀ s e, P s → P { s with exclusions := e }) (ips added : List IPAddress) :
    Triple P (addExclusionRoutes ips added) P P := by
  induction ips generalizing added with
  | nil => exact triple_skip
  | cons ip ips ih =>
    refine triple_andThen (triple_onFailure (triple_whenMonitored (triple_rtmSendRoute (fun s => hP s _) ip)) ?_)
      (ih _)
    exact triple_forEach fun q _ => triple_whenMonitored (triple_rtmSendRoute (fun s => hP s _) q)

theorem triple_leavesRoutes (hP : ∀ s e, P s → P { s with exclusions := e }) {c : Call} (hc : leavesRoutes c = true) :
    Triple P ((platform qt).call c) P P := by
  have hsend (f : HostState → Finset IPAddress) (ip : IPAddress) :
      Triple P (rtmSendRoute (fun s => { s with exclusions := f s }) ip) P P := triple_rtmSendRoute (fun s => hP s _) ip
  cases c with
  | interfaceExists => exact triple_branch (fun _ h => h.1) fun _ h => h.1
  | updatePeer config =>
    change Triple P (updatePeer qt addExclusionRoute config) P P
    rw [updatePeer]
    split
    · exact fun _ h => h
    · exact triple_forServer (hsend _ _) (hsend _ _)
  | deletePeer config => exact triple_forServer (hsend _ _) (hsend _ _)
  | addExclusionRoutes ips => exact triple_addExclusionRoutes hP ips []
  | deleteExclusionRoute ip => exact triple_whenMonitored (hsend _ ip)
  | addInterface | deleteInterface | updateRoutePrefix | deleteRoutePrefix => simp [leavesRoutes] at hc
  | _ => exact triple_skip

theorem on_call {c : Call} (h : Triple P ((platform qt).call c) X Y) :
    Triple (On C P) (call (platform qt) c) (On C X) (On C Y) := by
  intro d hd
  have := h d.platform hd.2
  rw [call]
  split
  next hr => exact ⟨hd.1, by rwa [if_pos hr] at this⟩
  next hr => exact ⟨hd.1, by rwa [if_neg hr] at this⟩

theorem on_leavesRoutes (hP : ∀ s e, P s → P { s with exclusions := e }) {c : Call} (hc : leavesRoutes c = true) :
    Triple (On C P) (call (platform qt) c) (On C P) (On C P) := on_call (triple_leavesRoutes hP hc)

theorem on_interface (config : InterfaceConfig) :
    Triple (On C (Standing R)) ((call (platform qt) .interfaceExists).orElse
      (call (platform qt) (.addInterface config))) (On C (Monitored R)) fun _ => True := by
  have hexists : Triple (Standing R) ((platform qt).call .interfaceExists) (Monitored R)
      fun s => Standing R s ∧ s.tunnel = false := triple_branch (fun _ h => ⟨h.1.1 h.2, h.1.2⟩) fun _ h => h
  have hadd : Triple (fun s => Standing R s ∧ s.tunnel = false) ((platform qt).call (.addInterface config))
      (Monitored R) fun _ => True :=
    triple_branch (fun _ _ => trivial) (triple_update fun _ h => ⟨rfl, h.1.1.2⟩)
  exact triple_orElse (on_call hexists) (on_call hadd).onSuccess

theorem on_updateRoutes (ips : List IPAddress) :
    Triple (On C (Monitored R)) (forAll (fun ip => call (platform qt) (.updateRoutePrefix ip)) ips)
      (fun d => On C (Monitored (ips.foldl (fun R ip => R ∪ entries ip) R)) d ∧ ∀ ip ∈ ips, ip.Valid)
      fun _ => True := by
  induction ips generalizing R with
  | nil => exact triple_skip.weaken (fun _ => id) (fun _ h => ⟨h, by simp⟩) fun _ => id
  | cons ip ips ih =>
    have hone : Triple (On C (Monitored R)) (call (platform qt) (.updateRoutePrefix ip))
        (fun d => On C (Monitored (R ∪ entries ip)) d ∧ ip.Valid) fun _ => True := by
      rintro d ⟨hc, hm, rfl⟩
      change if (updateRoutePrefix ip d.platform).1 then
        On C _ { d with platform := (updateRoutePrefix ip d.platform).2 } ∧ _ else True
      by_cases hv : ip.Valid
      · rw [updateRoutePrefix_eq hm hv]
        exact ⟨⟨hc, hm, rfl⟩, hv⟩
      · rw [(routePrefix_refused fun h => hv h.2).1]
        trivial
    refine triple_andThen hone (triple_of_fact fun hv => ih.weaken (fun _ => id) (fun d h => ⟨h.1, ?_⟩) fun _ => id)
    exact List.forall_mem_cons.mpr ⟨hv, h.2⟩

theorem on_deleteRoutes {ips : List IPAddress} (hv : ∀ ip ∈ ips, ip.Valid) {Z : State HostState → Prop} :
    Triple (On C (Monitored R)) (forEach (fun ip => call (platform qt) (.deleteRoutePrefix ip)) ips)
      (On C (Monitored (ips.foldl withdrawn R))) Z := by
  induction ips generalizing R with
  | nil => exact triple_skip
  | cons ip ips ih =>
    obtain ⟨hip, hips⟩ := List.forall_mem_cons.mp hv
    refine triple_andThen (triple_ignore ?_) (ih hips)
    rintro d ⟨hc, hm, rfl⟩
    rw [ite_self]
    change On C _ { d with platform := (deleteRoutePrefix ip d.platform).2 }
    rw [deleteRoutePrefix_eq hm hip]
    exact ⟨hc, hm, rfl⟩

theorem on_activateNew (config : InterfaceConfig) :
    Triple (On C (Standing R)) (activateNew qt (platform qt) config)
      (fun d => On (Function.update C config.hopType (some { config := config }))
        (Monitored (config.allowedIPAddressRanges.foldl (fun R ip => R ∪ entries ip) R)) d ∧
          ∀ ip ∈ config.allowedIPAddressRanges, ip.Valid) fun _ => True := by
  have hstanding : ∀ s e, Standing R s → Standing R { s with exclusions := e } := fun _ _ h => h
  have hmonitored {R : Finset IPAddress} : ∀ s e, Monitored R s → Monitored R { s with exclusions := e } :=
    fun _ _ h => h
  have hkeep {R : Finset IPAddress} {c : Call} (hc : leavesRoutes c = true) :
      Triple (On C (Monitored R)) (call (platform qt) c) (On C (Monitored R)) fun _ => True :=
    (on_leavesRoutes hmonitored hc).onSuccess
  refine triple_onFailure (M := fun _ => True) ?_ triple_top
  refine triple_andThen (triple_ignore (on_leavesRoutes hstanding rfl)) ?_
  refine triple_andThen (on_interface config) ?_
  refine triple_andThen (triple_andThen (hkeep rfl) (hkeep rfl)) ?_
  refine triple_andThen (keeps_addExclusionRoutes (fun _ _ hd => hd) (fun _ => on_leavesRoutes hmonitored rfl) _).onSuccess ?_
  refine triple_onFailure (M := fun _ => True) ?_ triple_top
  refine triple_andThen (hkeep rfl) ?_
  refine triple_andThen (keeps_maybeUpdateResolvers (on_leavesRoutes hmonitored rfl)).onSuccess ?_
  refine triple_andThen (on_updateRoutes _) (triple_of_fact fun hv => ?_)
  refine triple_andThen (hkeep rfl) (triple_update fun d hd => ⟨⟨?_, hd.2⟩, hv⟩)
  rw [State.connect_same, hd.1]

theorem active_single (config : InterfaceConfig) {d : State HostState}
    (hd : d.connections = Function.update (fun _ => none) config.hopType (some { config := config })) :
    d.active = [{ config := config }] := by
  rw [State.active, hd]
  cases config.hopType <;> rfl

theorem on_deactivate {config : InterfaceConfig} (hv : ∀ ip ∈ config.allowedIPAddressRanges, ip.Valid)
    (hC : C = Function.update (fun _ => none) config.hopType (some { config := config })) (emitSignals : Bool) :
    Triple (On C (Monitored R)) (deactivate (platform qt) emitSignals)
      (fun d => d.platform.routes = config.allowedIPAddressRanges.foldl withdrawn R)
      fun d => d.platform.routes = config.allowedIPAddressRanges.foldl withdrawn R := by
  have hkeep {R : Finset IPAddress} {c : Call} (hc : leavesRoutes c = true) :
      Keeps (platform qt) (On C (Monitored R)) c := on_leavesRoutes (fun _ _ h => h) hc
  refine triple_deactivate (Q := On C (Monitored (config.allowedIPAddressRanges.foldl withdrawn R)))
    (fun _ _ h => h) (fun _ h => h) (hkeep rfl) (fun d hd => ?_) (fun _ => hkeep rfl)
    (triple_andThen (M := fun d => d.platform.routes = config.allowedIPAddressRanges.foldl withdrawn R)
      (triple_update fun d hd => hd.2.2) fun d hd => ?_) emitSignals
  · rw [active_single config (hd.1.trans hC)]
    exact triple_andThen (triple_ignore (triple_andThen (on_deleteRoutes hv) (triple_ignore (hkeep rfl)))) triple_skip
  · rw [ite_self]
    change (deleteInterface d.platform).2.routes = _
    cases ht : d.platform.tunnel <;> simpa [deleteInterface, andThen, update, branch, ht, fails] using hd

/-- Bringing the tunnel up and down restores the tunnel routes exactly when each route it has set
was there before if and only if the last prefix that stands for it is no default route; and
`deleteRoutePrefix` undoes `updateRoutePrefix` exactly when that holds of the one prefix. -/
theorem routes_restored_iff (qt : Qt) :
    (∀ (config : InterfaceConfig) (emitSignals : Bool) (d : State HostState), d.connections = (fun _ => none) →
      (d.platform.tunnel = true → d.platform.monitor = true) → (activate qt (platform qt) config d).1 = true →
        ((deactivate (platform qt) emitSignals (activate qt (platform qt) config d).2).2.platform.routes =
            d.platform.routes ↔
          ∀ x ip, lastFor config.allowedIPAddressRanges x = some ip →
            (0 < ip.prefixLength ↔ x ∈ d.platform.routes))) ∧
      ∀ (p : IPAddress) (s : HostState),
        (deleteRoutePrefix p (updateRoutePrefix p s).2).2.routes = s.routes ↔
          (s.monitor = true → p.Valid → ∀ x ∈ entries p, (0 < p.prefixLength ↔ x ∈ s.routes)) := by
  refine ⟨fun config emitSignals d hc ht hok => ?_, fun p s => ?_⟩
  · rw [activate, inspect, hc] at hok ⊢
    have hstart : On (fun _ => none) (Standing d.platform.routes) d := ⟨hc, ht, rfl⟩
    obtain ⟨hon, hv⟩ := (on_activateNew config).success hstart hok
    rw [(on_deactivate hv rfl emitSignals).final hon, inserted_withdrawn_eq_iff]
  · by_cases h : s.monitor = true ∧ p.Valid
    · have hdelete := deleteRoutePrefix_eq (s := { s with routes := s.routes ∪ entries p }) h.1 h.2
      rw [updateRoutePrefix_eq h.1 h.2, hdelete]
      have hsingle := inserted_withdrawn_eq_iff s.routes [p]
      simp only [List.foldl_cons, List.foldl_nil, lastFor_singleton, Option.ite_none_right_eq_some,
        Option.some.injEq, and_imp] at hsingle
      rw [hsingle]
      exact ⟨fun hx _ _ x hxp => hx x p hxp rfl, fun hx x ip hxp hp => hp ▸ hx h.1 h.2 x hxp⟩
    · rw [(routePrefix_refused h).1, (routePrefix_refused h).2]
      exact iff_of_true rfl fun hm hv => absurd ⟨hm, hv⟩ h

end Daemon

def routeConfig (ip : IPAddress) : InterfaceConfig where
  serverIpv4AddrIn := some "192.0.2.1"
  allowedIPAddressRanges := [ip]

theorem routes_restored_default :
    (deactivate (platform sampleQt) true (activate sampleQt (platform sampleQt) (routeConfig ⟨.ipv4 0, 0⟩)
      (start stopped)).2).2.platform.routes = stopped.routes := by
  refine ((routes_restored_iff sampleQt).1 (routeConfig ⟨.ipv4 0, 0⟩) true (start stopped) rfl (by decide)
    (by decide)).mpr fun x ip h => ?_
  rw [show (routeConfig ⟨.ipv4 0, 0⟩).allowedIPAddressRanges = [⟨.ipv4 0, 0⟩] from rfl, lastFor_singleton] at h
  split at h
  · obtain rfl := Option.some.inj h
    exact iff_of_false (by decide) (Finset.notMem_empty x)
  · nomatch h

/-- The route of a network stays after the tunnel is down. -/
theorem network_route_left :
    (activate sampleQt (platform sampleQt) (routeConfig ⟨.ipv4 0x0A000000, 8⟩) (start stopped)).1 = true ∧
      (deactivate (platform sampleQt) true (activate sampleQt (platform sampleQt)
        (routeConfig ⟨.ipv4 0x0A000000, 8⟩) (start stopped)).2).2.platform.routes ≠ stopped.routes := by
  decide

end TunnelCore.Daemon.Linux
