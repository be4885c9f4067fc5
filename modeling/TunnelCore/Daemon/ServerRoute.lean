import TunnelCore.Daemon.Hosts
import TunnelCore.Daemon.Operations
import TunnelCore.Library.Runs

namespace TunnelCore.Daemon

open TunnelCore.Action

def InterfaceConfig.serverAddress (config : InterfaceConfig) : Option String :=
  config.serverIpv4AddrIn.orElse fun _ => config.serverIpv6AddrIn

def server (qt : Qt) (config : InterfaceConfig) : IPAddress := .ofString qt (config.serverAddress.getD "")

def Call.isQuiet : Call → Bool
  | .interfaceExists | .addInterface _ | .deleteInterface | .updatePeer _ | .deletePeer _
  | .addExclusionRoutes _ | .deleteExclusionRoute _ => false
  | _ => true

section Quiet

variable {qt : Qt} {routable : QHostAddress → Bool} {host : Host} {P : HostState → Prop}

theorem triple_routePrefix {f : IPAddress → Action HostState} (hf : ∀ ip, Triple P (f ip) P P)
    {g : IPAddress → Action HostState} (hg : ∀ ip, Triple P (g ip) P P) (ip : IPAddress) :
    Triple P (whenMonitored <| if 0 < ip.prefixLength then f ip
      else if ip.Valid then (g (Linux.lowerHalf ip.address)).andThen (g (Linux.upperHalf ip.address))
      else fails) P P := by
  refine triple_whenMonitored ?_
  split
  · exact hf ip
  · split
    · exact triple_andThen (hg _) (hg _)
    · exact fun _ => id

theorem triple_quiet (hP : ∀ s r, P s → P { s with routes := r }) {c : Call} (hc : c.isQuiet = true) :
    Triple P ((host.platform qt routable).call c) P P := by
  have hinsert (ip : IPAddress) : Triple P (Linux.insertRoute ip) P P := triple_rtmSendRoute (fun s => hP s _) ip
  have hdelete (ip : IPAddress) : Triple P (Linux.deleteRoute ip) P P := triple_rtmSendRoute (fun s => hP s _) ip
  cases host with
  | linux =>
    cases c with
    | updateRoutePrefix ip => exact triple_routePrefix hinsert hinsert ip
    | deleteRoutePrefix ip => exact triple_routePrefix hinsert hdelete ip
    | prepareActivation | addInterfaceIPs | setMTUAndUp | updateResolvers | restoreResolvers | run => exact triple_skip
    | _ => simp [Call.isQuiet] at hc
  | windows =>
    cases c with
    | updateRoutePrefix ip => exact triple_update fun s => hP s _
    | deleteRoutePrefix ip => exact triple_update fun s => hP s _
    | prepareActivation | addInterfaceIPs | setMTUAndUp | updateResolvers | restoreResolvers | run => exact triple_skip
    | _ => simp [Call.isQuiet] at hc

end Quiet

section Exclusions

variable {qt : Qt} {routable : QHostAddress → Bool} {host : Host} {S : Finset IPAddress}

def Holds (S : Finset IPAddress) (s : HostState) : Prop := s.monitor = true ∧ S ⊆ s.exclusions

def Host.Installs (routable : QHostAddress → Bool) (host : Host) (ip : IPAddress) : Prop :=
  ip.Valid ∧ (host = .windows → routable ip.address = true)

variable {ip : IPAddress} {s : HostState}

theorem holds_insert (h : Holds S s) :
    Holds (insert ip S) { s with exclusions := insert ip s.exclusions } :=
  ⟨h.1, Finset.insert_subset_insert ip h.2⟩

theorem holds_erase (hip : ip ∉ S) (h : Holds S s) :
    Holds S { s with exclusions := s.exclusions.erase ip } :=
  ⟨h.1, fun _ hq => Finset.mem_erase.mpr ⟨fun he => hip (he ▸ hq), h.2 hq⟩⟩

theorem Holds.mono {T : Finset IPAddress} (h : Holds T s) (hST : S ⊆ T) : Holds S s :=
  ⟨h.1, hST.trans h.2⟩

def Host.addOne (routable : QHostAddress → Bool) : Host → IPAddress → Action HostState
  | .linux => Linux.addExclusionRoute
  | .windows => fun ip => Windows.addExclusionRoutes routable [ip]

def Host.deleteOne : Host → IPAddress → Action HostState
  | .linux => Linux.deleteExclusionRoute
  | .windows => Windows.deleteExclusionRoute

theorem holds_addOne (ip : IPAddress) : Triple (Holds S) (host.addOne routable ip) (Holds S) (Holds S) := by
  cases host with
  | linux => exact triple_rtmSendRoute (fun s h => (holds_insert h).mono (Finset.subset_insert ip S)) ip
  | windows =>
    change Triple _ (Windows.addExclusionRoutes routable [ip]) _ _
    rw [Windows.addExclusionRoutes]
    split
    · exact triple_update fun s h => ⟨h.1, h.2.trans Finset.subset_union_left⟩
    · exact fun _ => id

theorem holds_addOne_installs (h : host.Installs routable ip) {Y : HostState → Prop} :
    Triple (Holds S) (host.addOne routable ip) (Holds (insert ip S)) Y := by
  cases host with
  | linux =>
    rw [Host.addOne, Linux.addExclusionRoute, Linux.rtmSendRoute, if_pos h.1]
    exact triple_update fun _ => holds_insert
  | windows =>
    change Triple _ (Windows.addExclusionRoutes routable [ip]) _ _
    rw [Windows.addExclusionRoutes, if_pos (by simpa using h.1)]
    refine triple_update fun s hs => ⟨hs.1, ?_⟩
    have hr := h.2 rfl
    intro q hq
    rcases Finset.mem_insert.mp hq with rfl | hq
    · simp [hr]
    · exact Finset.mem_union_left _ (hs.2 hq)

theorem holds_deleteOne (hip : ip ∉ S) : Triple (Holds S) (host.deleteOne ip) (Holds S) (Holds S) := by
  cases host with
  | linux => exact triple_rtmSendRoute (fun s h => holds_erase hip h) ip
  | windows => exact triple_update fun s h => holds_erase hip h

theorem holds_deletePeer {config : InterfaceConfig} (h4 : .ofString qt (config.serverIpv4AddrIn.getD "") ∉ S)
    (h6 : .ofString qt (config.serverIpv6AddrIn.getD "") ∉ S) :
    Triple (Holds S) ((host.platform qt routable).call (.deletePeer config)) (Holds S) (Holds S) := by
  have hbody : Triple (Holds S) (forServer qt host.deleteOne config) (Holds S) (Holds S) :=
    triple_forServer (holds_deleteOne h4) (holds_deleteOne h6)
  cases host <;> exact hbody

theorem holds_updatePeer {config : InterfaceConfig} (hhop : config.hopType ≠ .multiHopExit)
    (hinst : host.Installs routable (server qt config)) :
    Triple (Holds S) ((host.platform qt routable).call (.updatePeer config)) (Holds (insert (server qt config) S))
      fun _ => True := by
  have hadd : Triple (Holds S) (updatePeer qt (host.addOne routable) config) (Holds (insert (server qt config) S))
      fun _ => True := by
    rw [updatePeer]
    split
    next => exact fun _ _ => trivial
    next hsome =>
      refine triple_branch ?_ fun s h => absurd h.2 (by simp [hhop, h.1.1])
      refine Triple.weaken (P := Holds S) ?_ (fun _ h => h.1) (fun _ => id) fun _ => id
      rw [server, InterfaceConfig.serverAddress] at hinst ⊢
      cases h4 : config.serverIpv4AddrIn with
      | some a =>
        rw [h4] at hinst
        exact triple_andThen (triple_ignore (holds_addOne_installs hinst)) (triple_ignore (holds_addOne _))
      | none =>
        cases h6 : config.serverIpv6AddrIn with
        | none => exact absurd ⟨h4, h6⟩ hsome
        | some b =>
          rw [h4, h6] at hinst
          exact triple_andThen (triple_ignore (holds_addOne _)) (triple_ignore (holds_addOne_installs hinst))
  cases host <;> exact hadd

theorem holds_addExclusionRoutes_linux (ips added : List IPAddress) :
    Triple (Holds S) (Linux.addExclusionRoutes ips added) (fun s => Holds S s ∧ ∀ ip ∈ ips, ip.Valid)
      fun _ => True := by
  induction ips generalizing added with
  | nil => exact triple_skip.weaken (fun _ => id) (fun _ h => ⟨h, by simp⟩) fun _ => id
  | cons ip ips ih =>
    have hone : Triple (Holds S) (whenMonitored (Linux.addExclusionRoute ip)) (fun s => Holds S s ∧ ip.Valid)
        fun _ => True := by
      refine triple_branch ?_ fun _ _ => trivial
      by_cases hv : ip.Valid
      · have hadd : Triple (Holds S) (Host.linux.addOne (fun _ => true) ip) (Holds S) (Holds S) := holds_addOne ip
        exact hadd.weaken (fun _ h => h.1) (fun _ h => ⟨h, hv⟩) fun _ _ => trivial
      · rw [Linux.addExclusionRoute, Linux.rtmSendRoute, if_neg hv]
        exact fun _ _ => trivial
    refine triple_andThen (triple_onFailure hone ?_) (triple_of_fact fun hv => ?_)
    · exact fun _ _ => by simp
    · exact (ih _).weaken (fun _ => id) (fun _ h => ⟨h.1, by simpa using ⟨hv, h.2⟩⟩) fun _ => id

theorem holds_addExclusionRoutes (ips : List IPAddress) :
    Triple (Holds S) ((host.platform qt routable).call (.addExclusionRoutes ips))
      (fun s => Holds S s ∧ ∀ ip ∈ ips, ip.Valid) fun _ => True := by
  cases host with
  | linux => exact holds_addExclusionRoutes_linux ips []
  | windows =>
    refine triple_branch ?_ fun _ _ => trivial
    rw [Windows.addExclusionRoutes]
    split
    next hv => exact triple_update fun s h => ⟨⟨h.1.1, h.1.2.trans Finset.subset_union_left⟩, hv⟩
    · exact fun _ _ => trivial

theorem holds_deleteExclusionRoute (hip : ip ∉ S) :
    Triple (Holds S) ((host.platform qt routable).call (.deleteExclusionRoute ip)) (Holds S) (Holds S) := by
  have h : Triple (Holds S) (whenMonitored (host.deleteOne ip)) (Holds S) (Holds S) :=
    triple_whenMonitored (holds_deleteOne hip)
  cases host <;> exact h

end Exclusions

section

variable {qt : Qt} {routable : QHostAddress → Bool} {host : Host} {f : IPAddress → Nat} {S : Finset IPAddress}
  {Y : State HostState → Prop}

/-- Every key of `m_excludedAddrSet` is a real prefix, or the one an unparsed text leads to. -/
def KeysKnown (d : State HostState) : Prop := ∀ ip ∈ d.excludedAddrSet, ip.Valid ∨ ip = .ofHost .null

/-- The counts are at least `f` on real prefixes and the monitor holds the prefixes `S`. -/
structure Safe (f : IPAddress → Nat) (S : Finset IPAddress) (d : State HostState) : Prop where
  holds : Holds S d.platform
  keys : KeysKnown d
  counts : ∀ ip, ip.Valid → f ip ≤ d.count ip

theorem safe_call {T : Finset IPAddress} {c : Call} {p : Prop} {Z : HostState → Prop}
    (h : Triple (Holds S) ((host.platform qt routable).call c) (fun s => Holds T s ∧ p) Z)
    (hz : ∀ d s, Safe f S d → Z s → Y { d with platform := s }) :
    Triple (Safe f S) (call (host.platform qt routable) c) (fun d => Safe f T d ∧ p) Y := by
  intro d hd
  have := h d.platform hd.holds
  rw [call]
  split
  next hr =>
    rw [if_pos hr] at this
    exact ⟨⟨this.1, hd.keys, hd.counts⟩, this.2⟩
  next hr =>
    rw [if_neg hr] at this
    exact hz d _ hd this

theorem safe_keep {c : Call} (h : Triple (Holds S) ((host.platform qt routable).call c) (Holds S) (Holds S)) :
    Triple (Safe f S) (call (host.platform qt routable) c) (Safe f S) (Safe f S) := by
  intro d hd
  rw [ite_self]
  exact ⟨h.final hd.holds, hd.keys, hd.counts⟩

theorem safe_quiet {c : Call} (hc : c.isQuiet = true) :
    Triple (Safe f S) (call (host.platform qt routable) c) (Safe f S) (Safe f S) :=
  safe_keep (triple_quiet (fun _ _ h => h) hc)

variable {d : State HostState} {q : IPAddress} {config : InterfaceConfig}

theorem Safe.mono {g : IPAddress → Nat} {T : Finset IPAddress} (h : Safe g T d)
    (hf : ∀ ip, ip.Valid → f ip ≤ g ip) (hS : S ⊆ T) : Safe f S d :=
  ⟨h.holds.mono hS, h.keys, fun ip hv => (hf ip hv).trans (h.counts ip hv)⟩

theorem safe_addExclusionRoutes (hqt : qt.Documented) (addresses : List String) :
    Triple (Safe f S) (addExclusionRoutes qt (host.platform qt routable) addresses)
      (fun d => Safe (fun ip => f ip + (prefixes qt addresses).count ip) S d ∧ ∀ ip ∈ prefixes qt addresses, ip.Valid)
      fun _ => True := by
  intro d hd
  rw [addExclusionRoutes_eq]
  have hvalid : (∀ ip ∈ (prefixes qt addresses).dedup.filter (· ∉ d.excludedAddrSet), ip.Valid) →
      ∀ ip ∈ prefixes qt addresses, ip.Valid := by
    intro hnew ip hip
    by_cases hold : ip ∈ d.excludedAddrSet
    · obtain ⟨a, -, rfl⟩ := List.mem_map.mp hip
      exact (hd.keys _ hold).resolve_right (IPAddress.ofString_ne_ofHost_null hqt a)
    · exact hnew ip (by simpa using And.intro hip hold)
  have hcall : Triple (Safe f S) (call (host.platform qt routable) _) _ (fun _ => True) :=
    safe_call (holds_addExclusionRoutes ((prefixes qt addresses).dedup.filter (· ∉ d.excludedAddrSet)))
      fun _ _ _ _ => trivial
  refine triple_andThen (X := fun d => Safe (fun ip => f ip + (prefixes qt addresses).count ip) S d ∧
    ∀ ip ∈ prefixes qt addresses, ip.Valid) hcall (triple_of_fact fun hnew => triple_update fun d' hd' => ?_) d hd
  refine ⟨⟨?_, ?_, ?_⟩, hvalid hnew⟩
  · rw [(d'.addCounts_platform _ _).1]
    exact hd'.holds
  · intro ip hip
    rw [State.mem_iff_lookup, State.lookup_addCounts _ (List.nodup_dedup _)] at hip
    split at hip
    next hmem => exact .inl (hvalid hnew ip (List.mem_dedup.mp hmem))
    · exact hd'.keys ip (State.mem_iff_lookup.mpr hip)
  · intro ip hv
    have := hd'.counts ip hv
    rw [State.count, State.lookup_addCounts _ (List.nodup_dedup _)]
    split
    · simp only [Option.getD_some]
      omega
    next hmem =>
      rw [List.count_eq_zero_of_not_mem (mt List.mem_dedup.mpr hmem)]
      exact this

theorem KeysKnown.touch (h : KeysKnown d) (hq : q.Valid ∨ q = .ofHost .null) : KeysKnown (d.touch q) := by
  intro ip hip
  rw [State.mem_iff_lookup, State.lookup_touch] at hip
  split at hip
  next he => exact he ▸ hq
  · exact h ip (State.mem_iff_lookup.mpr hip)

theorem KeysKnown.setCount (h : KeysKnown d)
    (hq : q.Valid ∨ q = .ofHost .null) (n : Nat) : KeysKnown (d.setCount q n) := by
  intro ip hip
  rw [State.mem_iff_lookup, State.lookup_setCount] at hip
  split at hip
  next he => exact he ▸ hq
  · exact h ip (State.mem_iff_lookup.mpr hip)

theorem KeysKnown.removeCount (h : KeysKnown d) (q : IPAddress) :
    KeysKnown (d.removeCount q) := by
  intro ip hip
  rw [State.mem_iff_lookup, State.lookup_removeCount] at hip
  split at hip
  · simp at hip
  · exact h ip (State.mem_iff_lookup.mpr hip)

theorem safe_delExclusionRoute (hS : ∀ ip ∈ S, ip.Valid ∧ 0 < f ip) (hq : q.Valid ∨ q = .ofHost .null) :
    Triple (Safe (fun ip => f ip + if ip = q then 1 else 0) S) (delExclusionRoute (host.platform qt routable) q)
      (Safe f S) (Safe f S) := by
  intro d hd
  have hkeys : KeysKnown (d.touch q) := hd.keys.touch hq
  have hcount : ∀ ip, ip.Valid → f ip ≤ (d.touch q).count ip := by
    intro ip hv
    have := hd.counts ip hv
    rw [State.count_touch]
    omega
  by_cases h : 1 < d.count q
  · rw [delExclusionRoute_of_many h]
    refine ⟨by rw [State.setCount, State.touch_platform]; exact hd.holds, hkeys.setCount hq _, fun ip hv => ?_⟩
    have := hd.counts ip hv
    rw [State.count, State.lookup_setCount]
    split
    next he =>
      simp only [he, if_true] at this
      simp only [Option.getD_some, he]
      omega
    · exact hcount ip hv
  · have hqS : q ∉ S := by
      intro hm
      obtain ⟨hv, hpos⟩ := hS q hm
      have := hd.counts q hv
      simp only [if_true] at this
      omega
    rw [delExclusionRoute_of_last (Nat.le_of_not_lt h)]
    have htouch : Safe f S (d.touch q) := ⟨by rw [State.touch_platform]; exact hd.holds, hkeys, hcount⟩
    refine triple_andThen (safe_keep (holds_deleteExclusionRoute hqS)) (triple_update fun d' hd' => ?_) _ htouch
    refine ⟨hd'.holds, hd'.keys.removeCount q, fun ip hv => ?_⟩
    rw [State.count, State.lookup_removeCount]
    split
    next he =>
      have := hd.counts ip hv
      simp only [he, if_true] at this
      rw [Option.getD_none, he]
      omega
    · exact hd'.counts ip hv

theorem safe_delAll (hS : ∀ ip ∈ S, ip.Valid ∧ 0 < f ip) {keys : List IPAddress}
    (hk : ∀ q ∈ keys, q.Valid ∨ q = .ofHost .null) :
    Triple (Safe (fun ip => f ip + keys.count ip) S) (forEach (delExclusionRoute (host.platform qt routable)) keys)
      (Safe f S) Y := by
  induction keys with
  | nil => exact triple_skip.weaken (fun _ h => h) (fun _ => id) fun _ => id
  | cons q keys ih =>
    refine triple_andThen (triple_ignore ((safe_delExclusionRoute (fun ip hip => ?_) (hk q (.head _))).weaken
      (fun d hd => hd.mono (fun ip _ => ?_) (subset_refl S)) (fun _ => id) fun _ => id)) (ih fun p hp => hk p (.tail _ hp))
    · exact ⟨(hS ip hip).1, Nat.add_pos_left (hS ip hip).2 _⟩
    · rw [List.count_cons, Nat.add_assoc]
      by_cases he : ip = q
      · simp [he]
      · simp [he, Ne.symm he]

theorem hostKeys_known (addresses : List String) : ∀ q ∈ hostKeys qt addresses, q.Valid ∨ q = .ofHost .null := by
  intro q hq
  obtain ⟨a, -, rfl⟩ := List.mem_map.mp hq
  cases qt.hostAddress a with
  | null => exact .inr rfl
  | ipv4 a => exact .inl (by simp [IPAddress.Valid, IPAddress.ofHost])
  | ipv6 a => exact .inl (by simp [IPAddress.Valid, IPAddress.ofHost])

theorem hostKeys_count_le (hqt : qt.Documented) (addresses : List String) {ip : IPAddress} (hv : ip.Valid) :
    (hostKeys qt addresses).count ip ≤ (prefixes qt addresses).count ip := by
  induction addresses with
  | nil => simp [hostKeys]
  | cons a addresses ih =>
    rw [hostKeys, prefixes, List.map_cons, List.map_cons, List.count_cons, List.count_cons]
    by_cases he : IPAddress.ofHost (qt.hostAddress a) = ip
    · have hn : qt.hostAddress a ≠ .null := fun h => hv (by rw [← he, h]; rfl)
      have hs : a.toList.contains '/' = false := by
        by_contra hc
        exact hn (hqt.hostAddress_slash a (by simpa using hc))
      have hp : Plain qt a := ⟨hs, hn⟩
      rw [← hp.ofHost_eq, he]
      exact Nat.add_le_add_right ih _
    · rw [if_neg (by simpa using he)]
      exact Nat.le_add_right_of_le ih

def Idle (d : State HostState) : Prop := (d.platform.tunnel = true → d.platform.monitor = true) ∧ KeysKnown d

/-- The configuration is the active one and its server is excluded from the tunnel. -/
structure Serving (qt : Qt) (config : InterfaceConfig) (d : State HostState) : Prop where
  safe : Safe (prefixes qt config.excludedAddresses).count {server qt config} d
  connection : d.connections .singleHop = some { config := config }

/-- A single-hop configuration that lists its server among the excluded addresses, as the client
always sends it. -/
def ListsServer (config : InterfaceConfig) : Prop :=
  config.hopType = .singleHop ∧ ∃ a, config.serverAddress = some a ∧ a ∈ config.excludedAddresses

theorem ListsServer.server_mem (h : ListsServer config) :
    server qt config ∈ prefixes qt config.excludedAddresses := by
  obtain ⟨-, a, ha, hm⟩ := h
  rw [server, ha]
  exact List.mem_map_of_mem hm

theorem idle_interface (config : InterfaceConfig) :
    Triple Idle ((call (host.platform qt routable) .interfaceExists).orElse
      (call (host.platform qt routable) (.addInterface config))) (Safe (fun _ => 0) ∅) fun _ => True := by
  intro d hd
  have hsafe (s : HostState) (hs : s.monitor = true) : Safe (fun _ => 0) ∅ { d with platform := s } :=
    ⟨⟨hs, Finset.empty_subset _⟩, hd.2, fun _ _ => Nat.zero_le _⟩
  cases ht : d.platform.tunnel with
  | true => cases host <;> simpa [orElse, call, Host.platform, Linux.platform, Windows.platform, branch, ht, skip]
      using hsafe _ (hd.1 ht)
  | false =>
    cases host with
    | linux =>
      simpa [orElse, call, Host.platform, Linux.platform, Linux.addInterface, branch, ht, fails, update]
        using hsafe { d.platform with tunnel := true, monitor := true } rfl
    | windows =>
      simpa [orElse, call, Host.platform, Windows.platform, Windows.addInterface, branch, ht, fails, update]
        using hsafe { d.platform with tunnel := true, monitor := true, exclusions := ∅ } rfl

theorem idle_prepare (config : InterfaceConfig) :
    Triple Idle (call (host.platform qt routable) (.prepareActivation config)) Idle Idle := by
  intro d hd
  cases host <;> exact hd

theorem serving_connect (hc : ListsServer config) :
    Triple (Safe (prefixes qt config.excludedAddresses).count {server qt config}) (update (State.connect config))
      (Serving qt config) Y :=
  triple_update fun d hd => ⟨⟨hd.holds, hd.keys, hd.counts⟩, by rw [State.connect_same, hc.1, Function.update_self]⟩

theorem safe_updatePeer (hhop : config.hopType ≠ .multiHopExit) (hinst : host.Installs routable (server qt config)) :
    Triple (Safe f ∅) (call (host.platform qt routable) (.updatePeer config)) (Safe f {server qt config})
      fun _ => True :=
  (safe_call (p := True) (Y := fun _ => True) ((holds_updatePeer hhop hinst).weaken (fun _ => id)
    (fun _ h => ⟨h, trivial⟩) fun _ => id) fun _ _ _ _ => trivial).weaken (fun _ => id) (fun _ h => h.1) fun _ => id

theorem serving_activateNew (hqt : qt.Documented) (hc : ListsServer config)
    (hroute : host = .windows → routable (server qt config).address = true) :
    Triple Idle (activateNew qt (host.platform qt routable) config) (Serving qt config) fun _ => True := by
  refine triple_onFailure (M := fun _ => True) ?_ triple_top
  refine triple_andThen (triple_ignore (idle_prepare config)) ?_
  refine triple_andThen (idle_interface config) ?_
  refine triple_andThen (M := Safe (fun _ => 0) ∅) ?_ ?_
  · split
    · exact triple_andThen (safe_quiet rfl).onSuccess (safe_quiet rfl).onSuccess
    · exact triple_skip
  refine triple_andThen (safe_addExclusionRoutes hqt _) (triple_of_fact fun hvalid => ?_)
  have hinst : host.Installs routable (server qt config) := ⟨hvalid _ hc.server_mem, hroute⟩
  simp only [Nat.zero_add]
  refine triple_onFailure (M := fun _ => True) ?_ triple_top
  refine triple_andThen (safe_updatePeer (by rw [hc.1]; decide) hinst) ?_
  refine triple_andThen (keeps_maybeUpdateResolvers (safe_quiet rfl)).onSuccess ?_
  refine triple_andThen (triple_forAll fun ip _ => (safe_quiet rfl).onSuccess) ?_
  exact triple_andThen (safe_quiet rfl).onSuccess (serving_connect hc)

theorem idle_deactivate (emitSignals : Bool) {P : State HostState → Prop} :
    Triple P (deactivate (host.platform qt routable) emitSignals) Idle fun _ => True := by
  refine triple_andThen triple_top <| triple_andThen triple_top <| triple_andThen triple_top <|
    triple_andThen triple_top <| triple_andThen triple_top ?_
  refine triple_andThen (M := KeysKnown) (triple_update fun d _ ip hip => absurd hip (AList.notMem_empty ip)) ?_
  intro d hd
  cases host with
  | linux =>
    cases ht : d.platform.tunnel <;>
      simp [call, Host.platform, Linux.platform, Linux.deleteInterface, andThen, branch, update, fails, ht, Idle]
    exact hd
  | windows => exact ⟨fun h => by simp [call, Host.platform, Windows.platform, update] at h, hd⟩

theorem safe_switchRoutes (lastConfig : InterfaceConfig) (ips updated : List IPAddress) :
    Triple (Safe f S) (switchRoutes (host.platform qt routable) lastConfig ips updated) (Safe f S) fun _ => True := by
  induction ips generalizing updated with
  | nil => exact triple_skip
  | cons ip ips ih =>
    exact triple_andThen (triple_onFailure (M := fun _ => True) (safe_quiet rfl).onSuccess triple_top) (ih _)

theorem serving_switchActivate (hqt : qt.Documented) {lastConfig config : InterfaceConfig} (hc : ListsServer config)
    (hroute : host = .windows → routable (server qt config).address = true)
    (hpeer : config.serverPublicKey ≠ lastConfig.serverPublicKey →
      server qt config ≠ .ofString qt (lastConfig.serverIpv4AddrIn.getD "") ∧
        server qt config ≠ .ofString qt (lastConfig.serverIpv6AddrIn.getD "")) :
    Triple (Safe (prefixes qt lastConfig.excludedAddresses).count ∅)
      (switchActivate qt (host.platform qt routable) lastConfig config) (Serving qt config) fun _ => True := by
  have hswitch : Triple (Safe (prefixes qt lastConfig.excludedAddresses).count ∅)
      (switchServer qt (host.platform qt routable) lastConfig config)
      (Safe (prefixes qt config.excludedAddresses).count {server qt config}) fun _ => True := by
    refine triple_andThen (safe_addExclusionRoutes hqt _) (triple_of_fact fun hvalid => ?_)
    have hserver : (server qt config).Valid := hvalid _ hc.server_mem
    refine triple_andThen (triple_onFailure (M := fun _ => True) (triple_andThen (safe_updatePeer
      (by rw [hc.1]; decide) ⟨hserver, hroute⟩) (safe_switchRoutes _ _ _)) triple_top) ?_
    have hdel : Triple (Safe (fun ip => (prefixes qt config.excludedAddresses).count ip +
        (hostKeys qt lastConfig.excludedAddresses).count ip) {server qt config})
        (forEach (fun a => delExclusionRoute (host.platform qt routable) (.ofHost (qt.hostAddress a)))
          lastConfig.excludedAddresses)
        (Safe (prefixes qt config.excludedAddresses).count {server qt config}) fun _ => True := by
      rw [← forEach_map (delExclusionRoute (host.platform qt routable)) fun a => .ofHost (qt.hostAddress a)]
      exact safe_delAll (by simpa using ⟨hserver, hc.server_mem⟩) (hostKeys_known _)
    refine triple_andThen (hdel.weaken (fun d hd => hd.mono (fun ip hv => ?_) (subset_refl _)) (fun _ => id)
      fun _ => id) ?_
    · have := hostKeys_count_le hqt lastConfig.excludedAddresses hv
      omega
    refine triple_andThen (triple_forEach fun ip _ => keeps_unlessAllowed (safe_quiet rfl) _) ?_
    refine triple_andThen ?_ ((serving_connect hc).weaken (fun _ => id) (fun _ h => h.safe) fun _ => id)
    split
    next hne =>
      obtain ⟨h4, h6⟩ := hpeer hne
      exact (safe_keep (holds_deletePeer (by simpa using Ne.symm h4) (by simpa using Ne.symm h6))).onSuccess
    · exact triple_skip
  refine triple_andThen hswitch ?_
  refine triple_andThen (safe_quiet rfl).onSuccess ?_
  refine triple_andThen (keeps_maybeUpdateResolvers (safe_quiet rfl)).onSuccess ?_
  exact triple_andThen (safe_quiet rfl).onSuccess (serving_connect hc)

end

def Between (qt : Qt) (d : State HostState) : Prop :=
  Idle d ∧ ∀ state, d.connections .singleHop = some state →
    Safe (prefixes qt state.config.excludedAddresses).count ∅ d

/-- On Windows the server's address is one the monitor installs, and a switch to another key does
not stay on the old peer's server. -/
def KeepsServer (qt : Qt) (routable : QHostAddress → Bool) (host : Host) (d : State HostState)
    (config : InterfaceConfig) : Prop :=
  (host = .windows → routable (server qt config).address = true) ∧
    ∀ state, d.connections .singleHop = some state → supportServerSwitching state.config config = true →
      config.serverPublicKey ≠ state.config.serverPublicKey →
        server qt config ≠ .ofString qt (state.config.serverIpv4AddrIn.getD "") ∧
          server qt config ≠ .ofString qt (state.config.serverIpv6AddrIn.getD "")

theorem serving_activate {qt : Qt} (hqt : qt.Documented) {routable : QHostAddress → Bool} {host : Host}
    {config : InterfaceConfig} (hc : ListsServer config) {d : State HostState} (hd : Between qt d)
    (hk : KeepsServer qt routable host d config) (hok : (activate qt (host.platform qt routable) config d).1 = true) :
    Serving qt config (activate qt (host.platform qt routable) config d).2 := by
  rw [activate, inspect, hc.1] at hok ⊢
  cases hconn : d.connections .singleHop with
  | none =>
    rw [hconn] at hok
    exact (serving_activateNew hqt hc hk.1).success hd.1 hok
  | some state =>
    rw [hconn] at hok
    dsimp only at hok ⊢
    by_cases hs : supportServerSwitching state.config config = true
    · rw [if_pos hs] at hok ⊢
      exact (triple_onFailure (M := fun _ => True) (serving_switchActivate hqt hc hk.1 (hk.2 state hconn hs))
        triple_top).success (hd.2 state hconn) hok
    · rw [if_neg hs] at hok ⊢
      exact (triple_onFailure (M := fun _ => True) (triple_andThen (idle_deactivate false)
        (serving_activateNew hqt hc hk.1)) triple_top).success hd.1 hok

theorem Serving.between {qt : Qt} {config : InterfaceConfig} {d : State HostState} (h : Serving qt config d) :
    Between qt d := by
  refine ⟨⟨fun _ => h.safe.holds.1, h.safe.keys⟩, fun state hs => ?_⟩
  obtain rfl : { config := config } = state := Option.some.inj (h.connection.symm.trans hs)
  exact h.safe.mono (fun _ _ => Nat.le_refl _) (Finset.empty_subset _)

/-- Over every run of successful activations of single-hop configurations that list their server,
the server just activated is among the monitor's exclusion routes, as long as no switch replaces
the key and stays on the server. -/
theorem server_stays_excluded {qt : Qt} (hqt : qt.Documented) (routable : QHostAddress → Bool) (host : Host)
    {s : HostState} (hs : s.tunnel = true → s.monitor = true) {configs : List InterfaceConfig}
    (h : Along (fun d c => (activate qt (host.platform qt routable) c d).2)
      (fun d c => ListsServer c ∧ (activate qt (host.platform qt routable) c d).1 = true ∧
        KeepsServer qt routable host d c) (start s) configs) :
    Along (fun d c => (activate qt (host.platform qt routable) c d).2)
      (fun d c => server qt c ∈ (activate qt (host.platform qt routable) c d).2.platform.exclusions)
      (start s) configs := by
  have hstart : Between qt (start s) := ⟨⟨hs, fun ip hip => absurd hip (AList.notMem_empty ip)⟩, fun _ h => nomatch h⟩
  refine Along.of_invariant (I := Between qt) (fun d c hd hc => ?_) hstart h
  have hserving := serving_activate hqt hc.1 hd hc.2.2 hc.2.1
  exact ⟨hserving.between, hserving.safe.holds.2 (Finset.mem_singleton_self _)⟩

def serverConfig (address publicKey : String) : InterfaceConfig where
  serverPublicKey := publicKey
  serverIpv4AddrIn := some address
  excludedAddresses := [address]

theorem server_stays_excluded_other :
    Along (fun d c => (activate sampleQt (Host.linux.platform sampleQt fun _ => true) c d).2)
      (fun d c => server sampleQt c ∈
        (activate sampleQt (Host.linux.platform sampleQt fun _ => true) c d).2.platform.exclusions)
      (start stopped) [serverConfig "192.0.2.1" "a", serverConfig "192.0.2.2" "b"] := by
  refine server_stays_excluded sampleQt_documented _ .linux (by decide)
    ⟨⟨⟨rfl, "192.0.2.1", rfl, by decide⟩, by decide, nofun, ?_⟩,
      ⟨⟨rfl, "192.0.2.2", rfl, by decide⟩, by decide, nofun, ?_⟩, trivial⟩
  · intro state h
    cases h
  · intro state h _ _
    cases h
    decide

/-- The key of the server changes: deleting the old peer deletes the exclusion route of the new one. -/
theorem key_change_drops_server :
    let d := (activate sampleQt (Host.linux.platform sampleQt fun _ => true) (serverConfig "192.0.2.1" "a")
      (start stopped)).2
    let after := activate sampleQt (Host.linux.platform sampleQt fun _ => true) (serverConfig "192.0.2.1" "b") d
    server sampleQt (serverConfig "192.0.2.1" "a") ∈ d.platform.exclusions ∧ after.1 = true ∧
      server sampleQt (serverConfig "192.0.2.1" "b") ∉ after.2.platform.exclusions := by
  decide

end TunnelCore.Daemon
