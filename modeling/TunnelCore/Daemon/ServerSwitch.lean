import TunnelCore.Daemon.Daemon
import Mathlib.Data.Finset.Basic
import Mathlib.Data.Finset.Lattice.Lemmas

namespace TunnelCore.Daemon.ServerSwitch

open TunnelCore.Action

/-- The platform operation that fails during a server switch; `routeAdd k` is the one after `k`
routes have been added. -/
inductive Fault
  | exclusionAdd
  | peerUpdate
  | routeAdd (k : Nat)
  | peerDelete
  | resolverRestore
  | resolverUpdate
deriving DecidableEq

/-- The peers of the interface by their keys, its route prefixes, and how many it has added. -/
structure Interface (κ : Type) where
  peers : Finset κ
  routes : Finset IPAddress
  adds : Nat

variable {κ : Type} [DecidableEq κ]

def refuseIf (p : Prop) [Decidable p] (a : Action (Interface κ)) : Action (Interface κ) :=
  fun s => if p then (false, s) else a s

/-- A platform on which one operation fails and changes nothing; `key` decodes a public key. -/
def platform (key : String → κ) (fault : Fault) : Platform (Interface κ) where
  supportIPUtils := false
  call
    | .addExclusionRoutes _ => refuseIf (fault = .exclusionAdd) skip
    | .updatePeer config =>
      refuseIf (fault = .peerUpdate) (update fun s => { s with peers := insert (key config.serverPublicKey) s.peers })
    | .updateRoutePrefix ip => fun s =>
      refuseIf (fault = .routeAdd s.adds) (update fun s => { s with routes := insert ip s.routes, adds := s.adds + 1 }) s
    | .deleteRoutePrefix ip => update fun s => { s with routes := s.routes.erase ip }
    | .deletePeer config =>
      refuseIf (fault = .peerDelete) (update fun s => { s with peers := s.peers.erase (key config.serverPublicKey) })
    | .restoreResolvers => refuseIf (fault = .resolverRestore) skip
    | .updateResolvers _ => refuseIf (fault = .resolverUpdate) skip
    | _ => skip

structure At (C : HopType → Option ConnectionState) (E : IPAddress → Nat) (s : Interface κ)
    (d : State (Interface κ)) : Prop where
  connections : d.connections = C
  counts : ∀ ip, d.count ip = E ip
  platform : d.platform = s

section Steps

variable {qt : Qt} {key : String → κ} {fault : Fault} {C : HopType → Option ConnectionState} {E : IPAddress → Nat}
  {s : Interface κ} {X Y : State (Interface κ) → Prop}

theorem at_call {c : Call} {s' : Interface κ} (h : (platform key fault).call c s = (true, s')) :
    Triple (At C E s) (call (platform key fault) c) (At C E s') Y := by
  rintro d ⟨hC, hE, rfl⟩
  rw [call, h]
  exact ⟨hC, hE, rfl⟩

theorem at_call_refused {c : Call} (h : (platform key fault).call c s = (false, s)) :
    Triple (At C E s) (call (platform key fault) c) X (At C E s) := by
  rintro d ⟨hC, hE, rfl⟩
  rw [call, h]
  exact ⟨hC, hE, rfl⟩

theorem at_addExclusionRoutes (hf : fault ≠ .exclusionAdd) (addresses : List String) :
    Triple (At C E s) (addExclusionRoutes qt (platform key fault) addresses)
      (At C (fun ip => E ip + (prefixes qt addresses).count ip) s) Y := by
  intro d hd
  rw [addExclusionRoutes_eq]
  refine triple_andThen (X := At C (fun ip => E ip + (prefixes qt addresses).count ip) s)
    (at_call (by exact if_neg hf)) (triple_update fun d' hd' => ?_) d hd
  obtain ⟨hplatform, hconnections⟩ := d'.addCounts_platform (prefixes qt addresses).count (prefixes qt addresses).dedup
  refine ⟨hconnections.trans hd'.connections, fun ip => ?_, hplatform.trans hd'.platform⟩
  rw [State.count, State.lookup_addCounts _ (List.nodup_dedup _)]
  split
  · rw [Option.getD_some, hd'.counts]
  next hmem =>
    rw [List.count_eq_zero_of_not_mem (mt List.mem_dedup.mpr hmem)]
    exact hd'.counts ip

theorem at_addExclusionRoutes_refused (hf : fault = .exclusionAdd) (addresses : List String) :
    Triple (At C E s) (addExclusionRoutes qt (platform key fault) addresses) X (At C E s) := by
  intro d hd
  rw [addExclusionRoutes_eq]
  exact triple_andThen_failed (at_call_refused (by exact if_pos hf)) d hd

theorem at_delExclusionRoute (ip : IPAddress) :
    Triple (At C E s) (delExclusionRoute (platform key fault) ip)
      (At C (fun q => E q - if ip = q then 1 else 0) s) Y := by
  rintro d ⟨rfl, hE, rfl⟩
  by_cases h : 1 < d.count ip
  · rw [delExclusionRoute_of_many h]
    refine ⟨State.touch_connections, fun q => ?_, State.touch_platform⟩
    rw [State.count, State.lookup_setCount, ← hE]
    by_cases hq : q = ip
    · rw [if_pos hq, if_pos hq.symm, hq, Option.getD_some]
    · rw [if_neg hq, if_neg (Ne.symm hq)]
      exact State.count_touch
  · rw [delExclusionRoute_of_last (Nat.not_lt.mp h)]
    refine ⟨State.touch_connections, fun q => ?_, State.touch_platform⟩
    change ((d.touch ip).removeCount ip).count q = _
    rw [State.count, State.lookup_removeCount, ← hE]
    by_cases hq : q = ip
    · rw [if_pos hq, if_pos hq.symm, hq, Option.getD_none]
      omega
    · rw [if_neg hq, if_neg (Ne.symm hq)]
      exact State.count_touch

theorem at_delAll (ips : List IPAddress) :
    Triple (At C E s) (forEach (delExclusionRoute (platform key fault)) ips)
      (At C (fun q => E q - ips.count q) s) Y := by
  induction ips generalizing E with
  | nil => exact triple_skip
  | cons ip ips ih =>
    refine triple_andThen (triple_ignore (at_delExclusionRoute ip)) (ih.weaken (fun _ => id) (fun d hd => ?_)
      fun _ => id)
    refine ⟨hd.connections, fun q => ?_, hd.platform⟩
    rw [hd.counts, List.count_cons, Nat.sub_sub, Nat.add_comm]
    simp only [beq_iff_eq]

theorem at_release (L ips : List IPAddress) :
    Triple (At C E s) (forEach (fun ip => if ip ∈ L then skip else call (platform key fault) (.deleteRoutePrefix ip)) ips)
      (At C E { s with routes := s.routes \ (ips.filter (· ∉ L)).toFinset }) Y := by
  induction ips generalizing s with
  | nil => simpa [forEach] using triple_skip
  | cons ip ips ih =>
    by_cases h : ip ∈ L
    · simpa [forEach, h] using triple_andThen (triple_ignore triple_skip) (ih (s := s))
    · have hone : Triple (At C E s) (call (platform key fault) (.deleteRoutePrefix ip))
          (At C E { s with routes := s.routes.erase ip }) (At C E { s with routes := s.routes.erase ip }) :=
        at_call rfl
      have hrest := triple_andThen (triple_ignore hone) (ih (s := { s with routes := s.routes.erase ip }))
      simpa [forEach, h, Finset.erase_sdiff_comm, Finset.sdiff_insert] using hrest

theorem at_updateRoute (hf : fault ≠ .routeAdd s.adds) (ip : IPAddress) :
    Triple (At C E s) (call (platform key fault) (.updateRoutePrefix ip))
      (At C E { s with routes := insert ip s.routes, adds := s.adds + 1 }) Y := at_call (by exact if_neg hf)

theorem at_switchRoutes {ips : List IPAddress} (hf : ∀ i < ips.length, fault ≠ .routeAdd (s.adds + i))
    (lastConfig : InterfaceConfig) (updated : List IPAddress) :
    Triple (At C E s) (switchRoutes (platform key fault) lastConfig ips updated)
      (At C E { s with routes := s.routes ∪ ips.toFinset, adds := s.adds + ips.length }) Y := by
  induction ips generalizing s updated with
  | nil => simpa [switchRoutes] using triple_skip
  | cons ip ips ih =>
    have hrest := ih (s := { s with routes := insert ip s.routes, adds := s.adds + 1 }) (fun i hi => by
      have := hf (i + 1) (Nat.succ_lt_succ hi)
      rwa [Nat.add_comm i, ← Nat.add_assoc] at this) (updated ++ [ip])
    refine (triple_andThen (triple_onFailure_never (at_updateRoute (hf 0 (Nat.succ_pos _)) ip)) hrest).weaken
      (fun _ => id) (fun d hd => ?_) fun _ => id
    simpa [Nat.add_comm, Nat.add_left_comm, Finset.insert_union, Finset.union_insert] using hd

/-- After `k` routes the next one is refused: those the old configuration lacks are withdrawn, and
the old peer is written again. -/
theorem at_switchRoutes_refused {ips : List IPAddress} {k : Nat} (hk : k < ips.length)
    (hf : fault = .routeAdd (s.adds + k)) (lastConfig : InterfaceConfig) (updated : List IPAddress) :
    Triple (At C E s) (switchRoutes (platform key fault) lastConfig ips updated) X
      (At C E { peers := insert (key lastConfig.serverPublicKey) s.peers
                routes := (s.routes ∪ (ips.take k).toFinset) \
                  ((updated ++ ips.take k).filter (· ∉ lastConfig.allowedIPAddressRanges)).toFinset
                adds := s.adds + k }) := by
  induction ips generalizing s updated k with
  | nil => exact absurd hk (Nat.not_lt_zero k)
  | cons ip ips ih =>
    rw [switchRoutes]
    cases k with
    | zero =>
      refine triple_andThen_failed (triple_onFailure (at_call_refused (by exact if_pos hf)) ?_)
      have hpeer (s : Interface κ) : Triple (At C E s) (call (platform key fault) (.updatePeer lastConfig)).ignore
          (At C E { s with peers := insert (key lastConfig.serverPublicKey) s.peers })
          (At C E { s with peers := insert (key lastConfig.serverPublicKey) s.peers }) :=
        triple_ignore (at_call (by subst hf; rfl))
      rw [restoreRoutes]
      simpa using triple_andThen (at_release lastConfig.allowedIPAddressRanges updated) (hpeer _)
    | succ k =>
      have hne : fault ≠ .routeAdd s.adds := by
        rw [hf]
        simp
      have hrest := ih (s := { s with routes := insert ip s.routes, adds := s.adds + 1 })
        (Nat.lt_of_succ_lt_succ hk) (hf.trans (by rw [Nat.add_comm k, ← Nat.add_assoc])) (updated ++ [ip])
      refine (triple_andThen (triple_onFailure_never (at_updateRoute hne ip)) hrest).weaken (fun _ => id)
        (fun _ => id) fun d hd => ?_
      simpa [Nat.add_comm, Nat.add_left_comm, Finset.insert_union, Finset.union_insert] using hd

theorem at_guard (addresses : List String) :
    Triple (At C (fun ip => E ip + (prefixes qt addresses).count ip) s)
      (exclusionRoutesGuard qt (platform key fault) addresses) (At C E s) Y := by
  refine (at_delAll (prefixes qt addresses)).weaken (fun _ => id) (fun d hd => ?_) fun _ => id
  exact ⟨hd.connections, fun ip => (hd.counts ip).trans (Nat.add_sub_cancel ..), hd.platform⟩

end Steps

def newCounts (qt : Qt) (lastConfig config : InterfaceConfig) (E : IPAddress → Nat) (ip : IPAddress) : Nat :=
  E ip + (prefixes qt config.excludedAddresses).count ip - (hostKeys qt lastConfig.excludedAddresses).count ip

def newRoutes (lastConfig config : InterfaceConfig) (R : Finset IPAddress) : Finset IPAddress :=
  (R ∪ config.allowedIPAddressRanges.toFinset) \
    (lastConfig.allowedIPAddressRanges.filter (· ∉ config.allowedIPAddressRanges)).toFinset

/-- The new configuration's routes were there before, and the old one's others were not. -/
def RoutesKept (lastConfig config : InterfaceConfig) (R : Finset IPAddress) : Prop :=
  (∀ ip ∈ config.allowedIPAddressRanges, ip ∈ R) ∧
    ∀ ip ∈ lastConfig.allowedIPAddressRanges, ip ∉ config.allowedIPAddressRanges → ip ∉ R

/-- Each prefix is excluded as often by the new configuration as the old one releases it, or it
was not counted and is released at least as often. -/
def CountsKept (qt : Qt) (lastConfig config : InterfaceConfig) (E : IPAddress → Nat) : Prop :=
  ∀ ip, (prefixes qt config.excludedAddresses).count ip = (hostKeys qt lastConfig.excludedAddresses).count ip ∨
    E ip = 0 ∧ (prefixes qt config.excludedAddresses).count ip ≤ (hostKeys qt lastConfig.excludedAddresses).count ip

theorem newRoutes_eq_iff {lastConfig config : InterfaceConfig} {R : Finset IPAddress} :
    newRoutes lastConfig config R = R ↔ RoutesKept lastConfig config R := by
  have hmem (ip : IPAddress) : ip ∈ newRoutes lastConfig config R ↔ (ip ∈ R ∨ ip ∈ config.allowedIPAddressRanges) ∧
      ¬(ip ∈ lastConfig.allowedIPAddressRanges ∧ ip ∉ config.allowedIPAddressRanges) := by simp [newRoutes]
  rw [Finset.ext_iff]
  constructor
  · intro h
    exact ⟨fun ip hc => (h ip).mp ((hmem ip).mpr ⟨.inr hc, fun hl => hl.2 hc⟩),
      fun ip hl hc hr => ((hmem ip).mp ((h ip).mpr hr)).2 ⟨hl, hc⟩⟩
  · rintro ⟨hnew, hold⟩ ip
    rw [hmem]
    exact ⟨fun h => h.1.elim id (hnew ip), fun hr => ⟨.inl hr, fun hl => hold ip hl.1 hl.2 hr⟩⟩

theorem newCounts_eq_iff {qt : Qt} {lastConfig config : InterfaceConfig} {E : IPAddress → Nat} :
    (∀ ip, newCounts qt lastConfig config E ip = E ip) ↔ CountsKept qt lastConfig config E := by
  refine forall_congr' fun ip => ?_
  rw [newCounts]
  omega

section Outcomes

variable {qt : Qt} {key : String → κ} {fault : Fault} {C : HopType → Option ConnectionState} {E : IPAddress → Nat}
  {s : Interface κ} {X Y : State (Interface κ) → Prop} {lastConfig config : InterfaceConfig}

def switched (key : String → κ) (lastConfig config : InterfaceConfig) (s : Interface κ) : Interface κ where
  peers := insert (key config.serverPublicKey) s.peers
  routes := newRoutes lastConfig config s.routes
  adds := s.adds + config.allowedIPAddressRanges.length

theorem at_updatePeer (hf : fault ≠ .peerUpdate) :
    Triple (At C E s) (call (platform key fault) (.updatePeer config))
      (At C E { s with peers := insert (key config.serverPublicKey) s.peers }) Y := at_call (by exact if_neg hf)

theorem at_switchServer (he : fault ≠ .exclusionAdd) (hp : fault ≠ .peerUpdate)
    (hr : ∀ i < config.allowedIPAddressRanges.length, fault ≠ .routeAdd (s.adds + i))
    (htail : Triple (At C (newCounts qt lastConfig config E) (switched key lastConfig config s))
      ((if config.serverPublicKey ≠ lastConfig.serverPublicKey then call (platform key fault) (.deletePeer lastConfig)
        else skip).andThen (update (State.connect config))) X Y) :
    Triple (At C E s) (switchServer qt (platform key fault) lastConfig config) X Y := by
  have hrelease := forEach_map (delExclusionRoute (platform key fault)) (fun a => .ofHost (qt.hostAddress a))
    lastConfig.excludedAddresses
  rw [switchServer, ← hrelease]
  refine triple_andThen (at_addExclusionRoutes he _) ?_
  refine triple_andThen (triple_onFailure_never (triple_andThen (at_updatePeer hp) (at_switchRoutes (by exact hr) _ _))) ?_
  exact triple_andThen (at_delAll _) (triple_andThen (at_release _ _) htail)

theorem at_switchServer_exclusionAdd :
    Triple (At C E s) (switchServer qt (platform key .exclusionAdd) lastConfig config) X (At C E s) :=
  triple_andThen_failed (at_addExclusionRoutes_refused rfl _)

theorem at_switchServer_guarded (he : fault ≠ .exclusionAdd) {s' : Interface κ}
    (h : Triple (At C (fun ip => E ip + (prefixes qt config.excludedAddresses).count ip) s)
      ((call (platform key fault) (.updatePeer config)).andThen
        (switchRoutes (platform key fault) lastConfig config.allowedIPAddressRanges [])) (fun _ => False)
      (At C (fun ip => E ip + (prefixes qt config.excludedAddresses).count ip) s')) :
    Triple (At C E s) (switchServer qt (platform key fault) lastConfig config) X (At C E s') :=
  triple_andThen (at_addExclusionRoutes he _) (triple_andThen_failed (triple_onFailure h (at_guard _)))

theorem at_switchServer_peerUpdate :
    Triple (At C E s) (switchServer qt (platform key .peerUpdate) lastConfig config) X (At C E s) :=
  at_switchServer_guarded (by decide) (triple_andThen_failed (at_call_refused rfl))

theorem at_switchServer_routeAdd {k : Nat} (hk : k < config.allowedIPAddressRanges.length) :
    Triple (At C E s) (switchServer qt (platform key (.routeAdd (s.adds + k))) lastConfig config) X
      (At C E { peers := insert (key lastConfig.serverPublicKey) (insert (key config.serverPublicKey) s.peers)
                routes := (s.routes ∪ (config.allowedIPAddressRanges.take k).toFinset) \
                  ((config.allowedIPAddressRanges.take k).filter (· ∉ lastConfig.allowedIPAddressRanges)).toFinset
                adds := s.adds + k }) :=
  at_switchServer_guarded (by simp) <|
    triple_andThen (at_updatePeer (by simp)) (at_switchRoutes_refused hk rfl lastConfig [])

theorem at_switchServer_peerDelete (hne : config.serverPublicKey ≠ lastConfig.serverPublicKey) :
    Triple (At C E s) (switchServer qt (platform key .peerDelete) lastConfig config) X
      (At C (newCounts qt lastConfig config E) (switched key lastConfig config s)) := by
  refine at_switchServer (by decide) (by decide) (by simp) ?_
  rw [if_pos hne]
  exact triple_andThen_failed (at_call_refused rfl)

def completed (key : String → κ) (lastConfig config : InterfaceConfig) (s : Interface κ) : Interface κ :=
  if config.serverPublicKey ≠ lastConfig.serverPublicKey then
    { switched key lastConfig config s with
      peers := (switched key lastConfig config s).peers.erase (key lastConfig.serverPublicKey) }
  else switched key lastConfig config s

abbrev Recorded (qt : Qt) (key : String → κ) (lastConfig config : InterfaceConfig)
    (C : HopType → Option ConnectionState) (E : IPAddress → Nat) (s : Interface κ) : State (Interface κ) → Prop :=
  At (Function.update C config.hopType (some { config := config })) (newCounts qt lastConfig config E)
    (completed key lastConfig config s)

theorem at_switchServer_recorded (he : fault ≠ .exclusionAdd) (hp : fault ≠ .peerUpdate)
    (hr : ∀ i < config.allowedIPAddressRanges.length, fault ≠ .routeAdd (s.adds + i))
    (hd : config.serverPublicKey ≠ lastConfig.serverPublicKey → fault ≠ .peerDelete) :
    Triple (At C E s) (switchServer qt (platform key fault) lastConfig config)
      (Recorded qt key lastConfig config C E s) Y := by
  refine at_switchServer he hp hr ?_
  have hconnect (s' : Interface κ) : Triple (At C (newCounts qt lastConfig config E) s') (update (State.connect config))
      (At (Function.update C config.hopType (some { config := config })) (newCounts qt lastConfig config E) s') Y :=
    triple_update fun d h => ⟨by rw [State.connect_same, h.connections], h.counts, h.platform⟩
  by_cases hne : config.serverPublicKey ≠ lastConfig.serverPublicKey
  · rw [if_pos hne, Recorded, completed, if_pos hne]
    exact triple_andThen (at_call (by exact if_neg (hd hne))) (hconnect _)
  · rw [if_neg hne, Recorded, completed, if_neg hne]
    exact triple_andThen triple_skip (hconnect _)

theorem switchActivate_succeeds (he : fault ≠ .exclusionAdd) (hp : fault ≠ .peerUpdate)
    (hr : ∀ i < config.allowedIPAddressRanges.length, fault ≠ .routeAdd (s.adds + i))
    (hd : config.serverPublicKey ≠ lastConfig.serverPublicKey → fault ≠ .peerDelete) (hrr : fault ≠ .resolverRestore)
    (hru : config.hopType = .multiHopExit ∨ config.hopType = .singleHop → fault ≠ .resolverUpdate) :
    Triple (At C E s) (switchActivate qt (platform key fault) lastConfig config) (fun _ => True) fun _ => False := by
  refine triple_andThen (at_switchServer_recorded he hp hr hd) ?_
  refine triple_andThen (at_call (by exact if_neg hrr)) ?_
  refine triple_andThen (M := fun _ => True) ?_ fun _ _ => trivial
  rw [maybeUpdateResolvers]
  split
  next hop => exact (at_call (by exact if_neg (hru hop))).weaken (fun _ => id) (fun _ _ => trivial) fun _ => id
  · exact fun _ _ => trivial

theorem switchActivate_resolverRestore :
    Triple (At C E s) (switchActivate qt (platform key .resolverRestore) lastConfig config) X
      (Recorded qt key lastConfig config C E s) :=
  triple_andThen (at_switchServer_recorded (by decide) (by decide) (by simp) (by simp)) <|
    triple_andThen_failed (at_call_refused rfl)

theorem switchActivate_resolverUpdate (hop : config.hopType = .multiHopExit ∨ config.hopType = .singleHop) :
    Triple (At C E s) (switchActivate qt (platform key .resolverUpdate) lastConfig config) X
      (Recorded qt key lastConfig config C E s) := by
  refine triple_andThen (at_switchServer_recorded (by decide) (by decide) (by simp) (by simp)) ?_
  refine triple_andThen (at_call rfl) (triple_andThen_failed ?_)
  rw [maybeUpdateResolvers, if_pos hop]
  exact at_call_refused rfl

end Outcomes

def Unchanged (d d' : State (Interface κ)) : Prop :=
  d'.platform.peers = d.platform.peers ∧ d'.platform.routes = d.platform.routes ∧ (∀ ip, d'.count ip = d.count ip) ∧
    d'.connections = d.connections

def SwitchInvisible (qt : Qt) (key : String → κ) (state : ConnectionState) (config : InterfaceConfig)
    (d : State (Interface κ)) : Prop :=
  state = { config := config } ∧ key config.serverPublicKey ∈ d.platform.peers ∧
    (∀ ip ∈ config.allowedIPAddressRanges, ip ∈ d.platform.routes) ∧ CountsKept qt config config d.count

def RollsBack (qt : Qt) (key : String → κ) (fault : Fault) (state : ConnectionState) (config : InterfaceConfig)
    (d : State (Interface κ)) : Prop :=
  match fault with
  | .exclusionAdd | .peerUpdate => True
  | .routeAdd k =>
    k < config.allowedIPAddressRanges.length →
      key config.serverPublicKey ∈ d.platform.peers ∧ key state.config.serverPublicKey ∈ d.platform.peers ∧
        ∀ ip ∈ config.allowedIPAddressRanges.take k,
          ip ∈ state.config.allowedIPAddressRanges ↔ ip ∈ d.platform.routes
  | .peerDelete =>
    config.serverPublicKey ≠ state.config.serverPublicKey →
      key config.serverPublicKey ∈ d.platform.peers ∧ RoutesKept state.config config d.platform.routes ∧
        CountsKept qt state.config config d.count
  | .resolverRestore => SwitchInvisible qt key state config d
  | .resolverUpdate =>
    config.hopType = .multiHopExit ∨ config.hopType = .singleHop → SwitchInvisible qt key state config d

section Activate

variable {qt : Qt} {key : String → κ} {fault : Fault} {d : State (Interface κ)} {state : ConnectionState}
  {config : InterfaceConfig}

theorem activate_succeeds (hconn : d.connections config.hopType = some state)
    (hs : supportServerSwitching state.config config = true)
    (h : Triple (At d.connections d.count d.platform) (switchActivate qt (platform key fault) state.config config)
      (fun _ => True) fun _ => False) : (activate qt (platform key fault) config d).1 = true := by
  have hrun := h d ⟨rfl, fun _ => rfl, rfl⟩
  rw [activate_switch hconn hs, onFailure]
  split at hrun
  next hr => rw [if_pos hr, hr]
  · exact hrun.elim

theorem undone_iff (hconn : d.connections config.hopType = some state)
    (hs : supportServerSwitching state.config config = true) {C : HopType → Option ConnectionState}
    {E : IPAddress → Nat} {s : Interface κ}
    (h : Triple (At d.connections d.count d.platform) (switchActivate qt (platform key fault) state.config config)
      (fun _ => False) (At C E s)) :
    ((activate qt (platform key fault) config d).1 = false →
        Unchanged d (activate qt (platform key fault) config d).2) ↔
      s.peers = d.platform.peers ∧ s.routes = d.platform.routes ∧ (∀ ip, E ip = d.count ip) ∧ C = d.connections := by
  have hrun := h d ⟨rfl, fun _ => rfl, rfl⟩
  rw [activate_switch hconn hs, onFailure]
  split at hrun
  · exact hrun.elim
  next hr =>
    rw [if_neg hr, ← hrun.connections, ← hrun.platform]
    simp only [← hrun.counts]
    exact ⟨fun hu => hu trivial, fun hu _ => hu⟩

theorem recorded_undone_iff {s : Interface κ} (hconn : d.connections config.hopType = some state)
    (hp : s.peers = d.platform.peers) (hr : s.routes = d.platform.routes) :
    ((completed key state.config config s).peers = d.platform.peers ∧
      (completed key state.config config s).routes = d.platform.routes ∧
      (∀ ip, newCounts qt state.config config d.count ip = d.count ip) ∧
      Function.update d.connections config.hopType (some { config := config }) = d.connections) ↔
      SwitchInvisible qt key state config d := by
  have hC : Function.update d.connections config.hopType (some { config := config }) = d.connections ↔
      state = { config := config } := by
    rw [Function.update_eq_self_iff, hconn, Option.some.injEq, eq_comm]
  rw [hC, newCounts_eq_iff, SwitchInvisible]
  constructor
  · rintro ⟨hpeers, hroutes, hcounts, rfl⟩
    rw [completed, if_neg (not_not.mpr rfl)] at hpeers hroutes
    rw [switched, hp] at hpeers
    rw [switched, hr] at hroutes
    exact ⟨rfl, Finset.insert_eq_self.mp hpeers, (newRoutes_eq_iff.mp hroutes).1, hcounts⟩
  · rintro ⟨rfl, hpeers, hroutes, hcounts⟩
    rw [completed, if_neg (not_not.mpr rfl), switched, hp, hr]
    exact ⟨Finset.insert_eq_self.mpr hpeers, newRoutes_eq_iff.mpr ⟨hroutes, fun ip hl hc => absurd hl hc⟩, hcounts, rfl⟩

theorem refused_routes_eq_iff (L ips : List IPAddress) (R : Finset IPAddress) :
    (R ∪ ips.toFinset) \ (ips.filter (· ∉ L)).toFinset = R ↔ ∀ ip ∈ ips, (ip ∈ L ↔ ip ∈ R) := by
  have hmem (ip : IPAddress) : ip ∈ (R ∪ ips.toFinset) \ (ips.filter (· ∉ L)).toFinset ↔
      (ip ∈ R ∨ ip ∈ ips) ∧ ¬(ip ∈ ips ∧ ip ∉ L) := by simp
  rw [Finset.ext_iff]
  refine forall_congr' fun ip => ?_
  rw [hmem]
  tauto

theorem insert_insert_eq_iff {a b : κ} {P : Finset κ} : insert a (insert b P) = P ↔ a ∈ P ∧ b ∈ P := by
  constructor
  · intro h
    rw [← h]
    simp
  · rintro ⟨ha, hb⟩
    rw [Finset.insert_eq_of_mem hb, Finset.insert_eq_of_mem ha]

/-- When one operation of a server switch fails, the state is that of before the call exactly under
the condition that goes with the operation. -/
theorem switch_undone_iff (qt : Qt) (key : String → κ) (fault : Fault)
    (hconn : d.connections config.hopType = some state) (hs : supportServerSwitching state.config config = true)
    (hadds : d.platform.adds = 0) :
    ((activate qt (platform key fault) config d).1 = false →
        Unchanged d (activate qt (platform key fault) config d).2) ↔ RollsBack qt key fault state config d := by
  have hvacuous {p : Prop} (hp : ¬p) {q : Prop} (h : (activate qt (platform key fault) config d).1 = true) :
      ((activate qt (platform key fault) config d).1 = false →
        Unchanged d (activate qt (platform key fault) config d).2) ↔ (p → q) :=
    iff_of_true (fun hf => absurd (h.symm.trans hf) (by decide)) fun h => absurd h hp
  cases fault with
  | exclusionAdd =>
    rw [undone_iff hconn hs (triple_andThen_failed at_switchServer_exclusionAdd)]
    exact iff_of_true ⟨rfl, rfl, fun _ => rfl, rfl⟩ trivial
  | peerUpdate =>
    rw [undone_iff hconn hs (triple_andThen_failed at_switchServer_peerUpdate)]
    exact iff_of_true ⟨rfl, rfl, fun _ => rfl, rfl⟩ trivial
  | routeAdd k =>
    rw [RollsBack]
    by_cases hk : k < config.allowedIPAddressRanges.length
    · have hfail : Triple (At d.connections d.count d.platform)
          (switchServer qt (platform key (.routeAdd (d.platform.adds + k))) state.config config) (fun _ => False) _ :=
        at_switchServer_routeAdd hk
      rw [hadds, Nat.zero_add] at hfail
      rw [undone_iff hconn hs (triple_andThen_failed hfail), refused_routes_eq_iff, insert_insert_eq_iff]
      exact ⟨fun h _ => ⟨h.1.2, h.1.1, h.2.1⟩, fun h => ⟨⟨(h hk).2.1, (h hk).1⟩, (h hk).2.2, fun _ => rfl, rfl⟩⟩
    · refine hvacuous hk (activate_succeeds hconn hs (switchActivate_succeeds (by simp) (by simp) (fun i hi => ?_)
        (by simp) (by simp) (by simp)))
      rw [hadds]
      simp
      omega
  | peerDelete =>
    rw [RollsBack]
    by_cases hne : config.serverPublicKey ≠ state.config.serverPublicKey
    · rw [undone_iff hconn hs (triple_andThen_failed (at_switchServer_peerDelete hne)), newCounts_eq_iff, switched,
        Finset.insert_eq_self, newRoutes_eq_iff]
      exact ⟨fun h _ => ⟨h.1, h.2.1, h.2.2.1⟩, fun h => ⟨(h hne).1, (h hne).2.1, (h hne).2.2, rfl⟩⟩
    · exact hvacuous hne (activate_succeeds hconn hs (switchActivate_succeeds (by simp) (by simp) (by simp)
        (fun h => absurd h hne) (by simp) (by simp)))
  | resolverRestore =>
    rw [undone_iff hconn hs switchActivate_resolverRestore]
    exact recorded_undone_iff hconn rfl rfl
  | resolverUpdate =>
    rw [RollsBack]
    by_cases hop : config.hopType = .multiHopExit ∨ config.hopType = .singleHop
    · rw [undone_iff hconn hs (switchActivate_resolverUpdate hop), recorded_undone_iff hconn rfl rfl]
      exact ⟨fun h _ => h, fun h => h hop⟩
    · exact hvacuous hop (activate_succeeds hconn hs (switchActivate_succeeds (by simp) (by simp) (by simp)
        (by simp) (by simp) fun h => absurd h hop))

end Activate

def connected (config : InterfaceConfig) : State (Interface String) :=
  (start { peers := {config.serverPublicKey}, routes := config.allowedIPAddressRanges.toFinset, adds := 0 }).connect config

def peerConfig (publicKey : String) (allowed : List IPAddress) : InterfaceConfig where
  serverPublicKey := publicKey
  allowedIPAddressRanges := allowed

theorem switch_undone_same_key :
    let old := peerConfig "a" [⟨.ipv4 0, 0⟩]
    let new := peerConfig "a" [⟨.ipv4 0, 0⟩, ⟨.ipv4 0x0A000000, 8⟩]
    (activate sampleQt (platform id (.routeAdd 1)) new (connected old)).1 = false ∧
      Unchanged (connected old) (activate sampleQt (platform id (.routeAdd 1)) new (connected old)).2 := by
  refine ⟨by decide, (switch_undone_iff sampleQt id (.routeAdd 1) rfl rfl rfl).mpr (fun _ => ?_) (by decide)⟩
  decide

/-- The first route of a new peer is refused: the peer stays. -/
theorem refused_route_leaves_peer :
    let old := peerConfig "a" []
    let after := activate sampleQt (platform id (.routeAdd 0)) (peerConfig "b" [⟨.ipv4 0x0A000000, 8⟩]) (connected old)
    after.1 = false ∧ (connected old).platform.peers = {"a"} ∧ after.2.platform.peers = {"a", "b"} ∧
      ¬Unchanged (connected old) after.2 := by
  refine ⟨by decide, by decide, by decide, fun h => absurd h.1 (by decide)⟩

end TunnelCore.Daemon.ServerSwitch
