import TunnelCore.Daemon.Operations
import TunnelCore.Library.Runs
import Mathlib.Algebra.Ring.Nat
import Mathlib.Data.List.Dedup

namespace TunnelCore.Daemon

open TunnelCore.Action

abbrev History := List (Call × Bool)

/-- A platform whose every result is chosen freely, given what happened before. -/
def oracle (answer : History → Call → Bool) (supportIPUtils : Bool) : Platform History where
  call c h := (answer h c, (c, answer h c) :: h)
  supportIPUtils := supportIPUtils

def Installed : History → IPAddress → Prop
  | [], _ => False
  | (.addExclusionRoutes ps, true) :: h, ip => ip ∈ ps ∨ Installed h ip
  | (.deleteExclusionRoute q, true) :: h, ip => q ≠ ip ∧ Installed h ip
  | _ :: h, ip => Installed h ip

def Reliable (answer : History → Call → Bool) : Prop :=
  ∀ h ip, Installed h ip → answer h (.deleteExclusionRoute ip) = true

/-- The counts of `m_excludedAddrSet` are `m`, with a key for exactly the nonzero ones. -/
def Counted (m : IPAddress → Nat) (d : State History) : Prop :=
  ∀ ip, d.excludedAddrSet.lookup ip = if m ip = 0 then none else some (m ip)

structure Good (m : IPAddress → Nat) (connections : HopType → Option ConnectionState) (d : State History) : Prop where
  counted : Counted m d
  installed : ∀ ip, ip ∈ d.excludedAddrSet → Installed d.platform ip
  connections_eq : d.connections = connections

def Call.isExclusion : Call → Bool
  | .addExclusionRoutes _ | .deleteExclusionRoute _ => true
  | _ => false

theorem installed_cons_of_not_exclusion {c : Call} (hc : c.isExclusion = false) (b : Bool) (h : History)
    (ip : IPAddress) : Installed ((c, b) :: h) ip ↔ Installed h ip := by
  cases c <;> first | rfl | simp [Call.isExclusion] at hc

theorem installed_cons_false (c : Call) (h : History) (ip : IPAddress) :
    Installed ((c, false) :: h) ip ↔ Installed h ip := by
  cases c <;> rfl

section

variable {qt : Qt} {answer : History → Call → Bool} {ipUtils : Bool} {m : IPAddress → Nat}
  {conns : HopType → Option ConnectionState} {Y : State History → Prop}

theorem triple_call {c : Call} (hc : c.isExclusion = false) :
    Triple (Good m conns) (call (oracle answer ipUtils) c) (Good m conns) (Good m conns) := by
  intro d hd
  rw [ite_self]
  exact ⟨hd.counted, fun ip hip => (installed_cons_of_not_exclusion hc _ _ _).mpr (hd.installed ip hip),
    hd.connections_eq⟩

variable {d : State History}

theorem Counted.count_eq (h : Counted m d) (ip : IPAddress) : d.count ip = m ip := by
  rw [State.count, h ip]
  split <;> simp_all

theorem Counted.mem_iff (h : Counted m d) (ip : IPAddress) : ip ∈ d.excludedAddrSet ↔ m ip ≠ 0 := by
  rw [State.mem_iff_lookup, h ip]
  split <;> simp_all

theorem Counted.addCounts (h : Counted m d) (ips : List IPAddress) :
    Counted (fun ip => m ip + ips.count ip) (d.addCounts ips.count ips.dedup) := by
  intro ip
  change _ = if m ip + ips.count ip = 0 then none else some (m ip + ips.count ip)
  rw [State.lookup_addCounts _ (List.nodup_dedup _), h.count_eq, h ip]
  by_cases hip : ip ∈ ips
  · have := List.count_pos_iff.mpr hip
    rw [if_pos (List.mem_dedup.mpr hip), if_neg (by omega)]
  · rw [if_neg (mt List.mem_dedup.mp hip), List.count_eq_zero_of_not_mem hip, Nat.add_zero]

theorem triple_addExclusionRoutes (addresses : List String) :
    Triple (Good m conns) (addExclusionRoutes qt (oracle answer ipUtils) addresses)
      (Good (fun ip => m ip + (prefixes qt addresses).count ip) conns) (Good m conns) := by
  intro d hd
  rw [addExclusionRoutes_eq]
  generalize hps : (prefixes qt addresses).dedup.filter (· ∉ d.excludedAddrSet) = ps
  cases ha : answer d.platform (.addExclusionRoutes ps) with
  | false =>
    simp only [andThen, call, oracle, ha, Bool.false_eq_true, if_false]
    exact ⟨hd.counted, fun ip hip => (installed_cons_false _ _ _).mpr (hd.installed ip hip), hd.connections_eq⟩
  | true =>
    simp only [andThen, call, oracle, ha, if_true, update]
    generalize hd' : ({ d with platform := (Call.addExclusionRoutes ps, true) :: d.platform } : State History) = d'
    have hc : Counted m d' := hd' ▸ hd.counted
    have hlookup := hc.addCounts (prefixes qt addresses)
    obtain ⟨hp, hk⟩ := d'.addCounts_platform (prefixes qt addresses).count (prefixes qt addresses).dedup
    refine ⟨hlookup, fun ip hip => ?_, by rw [hk, ← hd']; exact hd.connections_eq⟩
    rw [hp, ← hd']
    by_cases hold : ip ∈ d.excludedAddrSet
    · exact .inr (hd.installed ip hold)
    · left
      rw [State.mem_iff_lookup, hlookup ip] at hip
      have hm : m ip = 0 := by_contra fun h => hold ((hd.counted.mem_iff ip).mpr h)
      have hmem : ip ∈ prefixes qt addresses := by
        by_contra hn
        simp [hm, List.count_eq_zero_of_not_mem hn] at hip
      rw [← hps]
      simpa using And.intro hmem hold

theorem triple_delExclusionRoute (hrel : Reliable answer) {ip : IPAddress} (hm : 0 < m ip) :
    Triple (Good m conns) (delExclusionRoute (oracle answer ipUtils) ip)
      (Good (Function.update m ip (m ip - 1)) conns) Y := by
  intro d hd
  have hmem : ip ∈ d.excludedAddrSet := (hd.counted.mem_iff ip).mpr (by omega)
  have htouch : d.touch ip = d := if_pos hmem
  have hcount := hd.counted.count_eq ip
  by_cases h : 1 < d.count ip
  · rw [delExclusionRoute_of_many h, htouch]
    refine ⟨fun q => ?_, fun q hq => ?_, hd.connections_eq⟩
    · rw [State.lookup_setCount, hd.counted q, hcount, Function.update_apply]
      split
      · rw [if_neg (by omega)]
      · rfl
    · refine hd.installed q ?_
      rw [State.mem_iff_lookup, State.lookup_setCount] at hq
      split at hq
      next he => exact he ▸ hmem
      · exact State.mem_iff_lookup.mpr hq
  · have ha : answer d.platform (.deleteExclusionRoute ip) = true := hrel _ _ (hd.installed ip hmem)
    rw [delExclusionRoute_of_last (Nat.le_of_not_lt h), htouch]
    simp only [andThen, call, oracle, ha, if_true, update]
    refine ⟨fun q => ?_, fun q hq => ?_, hd.connections_eq⟩
    · rw [State.lookup_removeCount, Function.update_apply]
      split
      · rw [if_pos (by omega)]
      · exact hd.counted q
    · rw [State.mem_iff_lookup, State.lookup_removeCount] at hq
      split at hq
      · simp at hq
      next hne => exact ⟨Ne.symm hne, hd.installed q (State.mem_iff_lookup.mpr hq)⟩

theorem triple_delAll (hrel : Reliable answer) (ips : List IPAddress) :
    Triple (Good (fun ip => m ip + ips.count ip) conns) (forEach (delExclusionRoute (oracle answer ipUtils)) ips)
      (Good m conns) Y := by
  induction ips with
  | nil => exact triple_skip.weaken (fun _ hd => by simpa using hd) (fun _ => id) fun _ => id
  | cons p ips ih =>
    refine triple_andThen (triple_ignore ((triple_delExclusionRoute hrel ?_).weaken (fun _ => id)
      (fun d hd => ?_) fun _ => id)) ih
    · simp only [List.count_cons_self]
      omega
    · convert hd using 1
      funext q
      rw [Function.update_apply]
      split
      next h => simp [h]
      next h => simp [Ne.symm h]

theorem triple_exclusionRoutesGuard (hrel : Reliable answer) (addresses : List String) :
    Triple (Good (fun ip => m ip + (prefixes qt addresses).count ip) conns)
      (exclusionRoutesGuard qt (oracle answer ipUtils) addresses) (Good m conns) Y :=
  triple_delAll hrel _

theorem triple_emit (signal : Signal) : Triple (Good m conns) (update (State.emit signal)) (Good m conns) Y :=
  triple_update fun _ hd => ⟨hd.counted, hd.installed, hd.connections_eq⟩

theorem triple_connect (config : InterfaceConfig) : Triple (Good m conns) (update (State.connect config))
    (Good m (Function.update conns config.hopType (some { config := config }))) Y :=
  triple_update fun _ hd => ⟨hd.counted, hd.installed, by rw [State.connect_same, hd.connections_eq]⟩

theorem triple_activateNew (hrel : Reliable answer) (config : InterfaceConfig) :
    Triple (Good m conns) (activateNew qt (oracle answer ipUtils) config)
      (Good (fun ip => m ip + (prefixes qt config.excludedAddresses).count ip)
        (Function.update conns config.hopType (some { config := config }))) (Good m conns) := by
  refine triple_onFailure (M := Good m conns) ?_ (triple_emit _)
  refine triple_andThen (triple_ignore (triple_call rfl)) ?_
  refine triple_andThen (triple_orElse (triple_call rfl) (triple_call rfl)) ?_
  refine triple_andThen (M := Good m conns) ?_ ?_
  · split
    · exact triple_andThen (triple_call rfl) (triple_call rfl)
    · exact triple_skip
  refine triple_andThen (triple_addExclusionRoutes _) ?_
  refine triple_onFailure ?_ (triple_exclusionRoutesGuard hrel _)
  exact triple_andThen (triple_call rfl) <| triple_andThen (keeps_maybeUpdateResolvers (triple_call rfl)) <|
    triple_andThen (triple_forAll fun _ _ => triple_call rfl) <| triple_andThen (triple_call rfl) (triple_connect _)

/-- `switchServer` swaps the old references for the new ones when the old addresses are plain and
the old peer can be deleted. -/
theorem triple_switchServer (hrel : Reliable answer) {lastConfig config : InterfaceConfig}
    (hplain : ∀ a ∈ lastConfig.excludedAddresses, Plain qt a)
    (hpeer : config.serverPublicKey ≠ lastConfig.serverPublicKey → ∀ h, answer h (.deletePeer lastConfig) = true) :
    Triple (Good (fun ip => m ip + (prefixes qt lastConfig.excludedAddresses).count ip) conns)
      (switchServer qt (oracle answer ipUtils) lastConfig config)
      (Good (fun ip => m ip + (prefixes qt config.excludedAddresses).count ip)
        (Function.update conns config.hopType (some { config := config })))
      (Good (fun ip => m ip + (prefixes qt lastConfig.excludedAddresses).count ip) conns) := by
  refine triple_andThen (triple_addExclusionRoutes _) ?_
  refine triple_andThen (triple_onFailure (triple_andThen (triple_call rfl) (keeps_switchRoutes (triple_call rfl)
    (fun _ => triple_call rfl) (fun _ => triple_call rfl) _ _)) (triple_exclusionRoutesGuard hrel _)) ?_
  have hkeys : forEach (fun a => delExclusionRoute (oracle answer ipUtils) (.ofHost (qt.hostAddress a)))
      lastConfig.excludedAddresses =
        forEach (delExclusionRoute (oracle answer ipUtils)) (prefixes qt lastConfig.excludedAddresses) := by
    rw [prefixes, forEach_map]
    exact forEach_congr fun a ha => by rw [(hplain a ha).ofHost_eq]
  have hdel : Triple (Good (fun ip => m ip + (prefixes qt lastConfig.excludedAddresses).count ip +
      (prefixes qt config.excludedAddresses).count ip) conns)
      (forEach (delExclusionRoute (oracle answer ipUtils)) (prefixes qt lastConfig.excludedAddresses))
      (Good (fun ip => m ip + (prefixes qt config.excludedAddresses).count ip) conns)
      (Good (fun ip => m ip + (prefixes qt lastConfig.excludedAddresses).count ip) conns) := by
    rw [show (fun ip => m ip + (prefixes qt lastConfig.excludedAddresses).count ip +
      (prefixes qt config.excludedAddresses).count ip) = fun ip => m ip + (prefixes qt config.excludedAddresses).count ip +
      (prefixes qt lastConfig.excludedAddresses).count ip from funext fun ip => Nat.add_right_comm _ _ _]
    exact triple_delAll hrel _
  refine triple_andThen (hkeys ▸ hdel) ?_
  refine triple_andThen (triple_forEach fun ip _ => keeps_unlessAllowed (triple_call rfl) _) ?_
  refine triple_andThen ?_ (triple_connect _)
  split
  next hne =>
    intro d hd
    rw [if_pos (show (call (oracle answer ipUtils) (.deletePeer lastConfig) d).1 = true from hpeer hne d.platform)]
    exact (triple_call rfl).final hd
  · exact triple_skip

theorem good_deactivate (emitSignals : Bool) :
    Triple (Good m conns) (deactivate (oracle answer ipUtils) emitSignals) (Good (fun _ => 0) fun _ => none)
      (fun d => Good m conns d ∨ Good (fun _ => 0) (fun _ => none) d) := by
  refine triple_deactivate (Q := fun _ => True)
    (fun _ => (triple_call rfl).weaken (fun _ => id) (fun _ => id) fun _ => .inl)
    (fun _ hd => ⟨hd.counted, hd.installed, hd.connections_eq⟩) (triple_call rfl) (fun d _ => ?_) (fun _ => triple_top)
    (triple_andThen (M := Good (fun _ => 0) fun _ => none) (triple_update fun d _ => ?_) ?_) emitSignals
  · exact (triple_forEach (P := fun _ => True) fun _ _ => triple_top).weaken (fun _ _ => trivial) (fun _ => id) fun _ => id
  · exact ⟨fun ip => by simp, fun ip hip => absurd hip (AList.notMem_empty ip), rfl⟩
  · exact (triple_call rfl).weaken (fun _ => id) (fun _ => id) fun _ => .inr

end

def hopCount (qt : Qt) (connections : HopType → Option ConnectionState) (ip : IPAddress) (hop : HopType) : Nat :=
  match connections hop with
  | none => 0
  | some state => (prefixes qt state.config.excludedAddresses).count ip

def total (qt : Qt) (connections : HopType → Option ConnectionState) (ip : IPAddress) : Nat :=
  (HopType.all.map (hopCount qt connections ip)).sum

theorem total_update (qt : Qt) (connections : HopType → Option ConnectionState) (ip : IPAddress)
    (config : InterfaceConfig) :
    total qt (Function.update connections config.hopType (some { config := config })) ip +
        hopCount qt connections ip config.hopType =
      total qt connections ip + (prefixes qt config.excludedAddresses).count ip := by
  have hself : hopCount qt (Function.update connections config.hopType (some { config := config })) ip config.hopType =
      (prefixes qt config.excludedAddresses).count ip := by simp [hopCount]
  have hother : ∀ hop, hop ≠ config.hopType →
      hopCount qt (Function.update connections config.hopType (some { config := config })) ip hop =
        hopCount qt connections ip hop := fun hop h => by simp [hopCount, Function.update_of_ne h]
  simp only [total, HopType.all, List.map_cons, List.map_nil, List.sum_cons, List.sum_nil]
  cases h : config.hopType <;> rw [h] at hself hother
  · rw [hself, hother .multiHopEntry (by decide), hother .multiHopExit (by decide)]
    omega
  · rw [hself, hother .singleHop (by decide), hother .multiHopExit (by decide)]
    omega
  · rw [hself, hother .singleHop (by decide), hother .multiHopEntry (by decide)]
    omega

theorem hopCount_le_total (qt : Qt) (connections : HopType → Option ConnectionState) (ip : IPAddress) (hop : HopType) :
    hopCount qt connections ip hop ≤ total qt connections ip := by
  simp only [total, HopType.all, List.map_cons, List.map_nil, List.sum_cons, List.sum_nil]
  cases hop <;> omega

/-- `m_excludedAddrSet` maps each prefix to its multiplicity over the active connections and has
no other key. -/
def Exact (qt : Qt) (d : State History) : Prop := Counted (total qt d.connections) d

def Settled (qt : Qt) (conns : HopType → Option ConnectionState) : State History → Prop := Good (total qt conns) conns

def Balanced (qt : Qt) (d : State History) : Prop := Settled qt d.connections d

theorem Settled.balanced {qt : Qt} {conns : HopType → Option ConnectionState} {d : State History}
    (h : Settled qt conns d) : Balanced qt d := by
  rw [Balanced, h.connections_eq]
  exact h

section

variable {qt : Qt} {answer : History → Call → Bool} {ipUtils : Bool}

theorem settled_activateNew (hrel : Reliable answer) {conns : HopType → Option ConnectionState}
    {config : InterfaceConfig} (hnone : conns config.hopType = none) :
    Triple (Settled qt conns) (activateNew qt (oracle answer ipUtils) config) (Balanced qt) (Balanced qt) := by
  have htotal : (fun ip => total qt conns ip + (prefixes qt config.excludedAddresses).count ip) =
      total qt (Function.update conns config.hopType (some { config := config })) := by
    funext ip
    have := total_update qt conns ip config
    rw [hopCount, hnone] at this
    exact this.symm
  have h : Triple (Settled qt conns) (activateNew qt (oracle answer ipUtils) config) _ (Settled qt conns) :=
    triple_activateNew hrel config
  rw [htotal] at h
  exact h.weaken (fun _ => id) (fun _ => Settled.balanced) fun _ => Settled.balanced

theorem settled_switchActivate (hrel : Reliable answer) {conns : HopType → Option ConnectionState}
    {state : ConnectionState} {config : InterfaceConfig} (hconn : conns config.hopType = some state)
    (hplain : ∀ a ∈ state.config.excludedAddresses, Plain qt a)
    (hpeer : config.serverPublicKey ≠ state.config.serverPublicKey →
      ∀ h, answer h (.deletePeer state.config) = true) :
    Triple (Settled qt conns) (switchActivate qt (oracle answer ipUtils) state.config config)
      (Balanced qt) (Balanced qt) := by
  have hcount : ∀ ip, hopCount qt conns ip config.hopType = (prefixes qt state.config.excludedAddresses).count ip :=
    fun ip => by rw [hopCount, hconn]
  have hold : ∀ ip, total qt conns ip - (prefixes qt state.config.excludedAddresses).count ip +
      (prefixes qt state.config.excludedAddresses).count ip = total qt conns ip := fun ip =>
    Nat.sub_add_cancel (hcount ip ▸ hopCount_le_total qt conns ip config.hopType)
  have hswitch : Triple (Good _ conns) (switchServer qt (oracle answer ipUtils) state.config config) _ _ :=
    triple_switchServer hrel hplain hpeer
      (m := fun ip => total qt conns ip - (prefixes qt state.config.excludedAddresses).count ip)
  generalize hconns : Function.update conns config.hopType (some { config := config }) = conns' at hswitch
  have hnew : ∀ ip, total qt conns ip - (prefixes qt state.config.excludedAddresses).count ip +
      (prefixes qt config.excludedAddresses).count ip = total qt conns' ip := fun ip => by
    have := total_update qt conns ip config
    have := hold ip
    have := hcount ip
    rw [← hconns]
    omega
  simp only [hold, hnew] at hswitch
  have hkeep {a : Action (State History)} (ha : Triple (Settled qt conns') a (Settled qt conns') (Settled qt conns')) :
      Triple (Settled qt conns') a (Settled qt conns') (Balanced qt) :=
    ha.weaken (fun _ => id) (fun _ => id) fun _ => Settled.balanced
  refine triple_andThen (M := Settled qt conns')
    (hswitch.weaken (fun _ => id) (fun _ => id) fun _ => Settled.balanced) ?_
  refine triple_andThen (hkeep (triple_call rfl)) ?_
  refine triple_andThen (hkeep (keeps_maybeUpdateResolvers (triple_call rfl))) ?_
  refine triple_andThen (hkeep (triple_call rfl)) ?_
  have hconnect : Triple (Settled qt conns') (update (State.connect config)) _ (Balanced qt) := triple_connect config
  refine hconnect.weaken (fun _ => id) (fun d hd => ?_) fun _ => id
  rw [← hconns, Function.update_idem, hconns] at hd
  exact Settled.balanced hd

theorem balanced_emit (signal : Signal) :
    Triple (Balanced qt) (update (State.emit signal)) (Balanced qt) (Balanced qt) :=
  triple_update fun _ hd => ⟨hd.counted, hd.installed, hd.connections_eq⟩

end

/-- One call on the daemon and how the platform answers while it lasts. -/
inductive Request
  | activate (config : InterfaceConfig)
  | deactivate (emitSignals : Bool)

structure Step where
  request : Request
  answer : History → Call → Bool

def Step.run (qt : Qt) (ipUtils : Bool) (s : Step) : Action (State History) :=
  match s.request with
  | .activate config => activate qt (oracle s.answer ipUtils) config
  | .deactivate emitSignals => deactivate (oracle s.answer ipUtils) emitSignals

/-- A server switch leaves a connection whose excluded addresses are all plain, and the platform
does not refuse to delete the old peer in it. -/
def CleanSwitch (qt : Qt) (d : State History) (s : Step) : Prop :=
  ∀ config state, s.request = .activate config → d.connections config.hopType = some state →
    supportServerSwitching state.config config = true →
      (∀ a ∈ state.config.excludedAddresses, Plain qt a) ∧
        (config.serverPublicKey ≠ state.config.serverPublicKey → ∀ h, s.answer h (.deletePeer state.config) = true)

theorem balanced_step {qt : Qt} {ipUtils : Bool} {d : State History} {s : Step} (hrel : Reliable s.answer)
    (hclean : CleanSwitch qt d s) (hd : Balanced qt d) : Balanced qt (s.run qt ipUtils d).2 := by
  obtain ⟨request, answer⟩ := s
  have hdeact (emitSignals : Bool) : Triple (Settled qt d.connections) (deactivate (oracle answer ipUtils) emitSignals)
      (Settled qt fun _ => none) (Balanced qt) :=
    (good_deactivate emitSignals).weaken (fun _ => id) (fun _ => id) fun _ h =>
      h.elim Settled.balanced fun h : Settled qt (fun _ => none) _ => h.balanced
  cases request with
  | deactivate emitSignals =>
    exact ((hdeact emitSignals).weaken (fun _ => id) (fun _ => Settled.balanced) fun _ => id).final hd
  | activate config =>
    change Balanced qt (activate qt (oracle answer ipUtils) config d).2
    rw [activate, inspect]
    cases hc : d.connections config.hopType with
    | none => exact (settled_activateNew hrel hc).final hd
    | some state =>
      refine (triple_onFailure (P := Settled qt d.connections) ?_ (balanced_emit _)).final hd
      by_cases hs : supportServerSwitching state.config config
      · rw [if_pos hs]
        obtain ⟨hplain, hpeer⟩ := hclean config state rfl hc hs
        exact settled_switchActivate hrel hc hplain hpeer
      · rw [if_neg hs]
        exact triple_andThen (hdeact false) (settled_activateNew hrel rfl)

/-- From a daemon without connections, as long as every server switch leaves plain excluded
addresses behind and the old peer can be deleted, the counts are exact after every call. -/
theorem exclusion_counts_exact (qt : Qt) (ipUtils : Bool) {steps : List Step}
    (h : Along (fun d s => (s.run qt ipUtils d).2) (fun d s => Reliable s.answer ∧ CleanSwitch qt d s)
      (start []) steps) :
    Along (fun d s => (s.run qt ipUtils d).2)
      (fun d s => (s.run qt ipUtils d).1 = true → Exact qt (s.run qt ipUtils d).2) (start []) steps := by
  have hstart : Balanced qt (start []) := ⟨fun ip => rfl, fun ip hip => absurd hip (AList.notMem_empty ip), rfl⟩
  refine Along.of_invariant (I := Balanced qt) (fun d s hd hs => ?_) hstart h
  have hnext : Balanced qt (s.run qt ipUtils d).2 := balanced_step hs.1 hs.2 hd
  exact ⟨hnext, fun _ => hnext.counted⟩

def succeeding (request : Request) : Step := ⟨request, fun _ _ => true⟩

theorem exclusion_counts_exact_plain :
    Along (fun d s => (s.run sampleQt false d).2)
      (fun d s => (s.run sampleQt false d).1 = true → Exact sampleQt (s.run sampleQt false d).2) (start [])
      [succeeding (.activate { excludedAddresses := ["192.0.2.1"] }),
        succeeding (.activate { excludedAddresses := ["192.0.2.1", "192.0.2.1"] })] := by
  refine exclusion_counts_exact sampleQt false ⟨⟨fun _ _ _ => rfl, ?_⟩, ⟨fun _ _ _ => rfl, ?_⟩, trivial⟩
  · intro config state hr hc
    cases hr
    cases hc
  · intro config state hr hc _
    cases hr
    cases hc
    exact ⟨by decide, fun _ _ => rfl⟩

/-- After a switch away from a connection that excluded a network, the network keeps its count. -/
theorem cidr_exclusion_leaks :
    ((succeeding (.activate {})).run sampleQt false
        ((succeeding (.activate { excludedAddresses := ["10.0.0.0/8"] })).run sampleQt false (start [])).2).1 = true ∧
      ¬Exact sampleQt ((succeeding (.activate {})).run sampleQt false
        ((succeeding (.activate { excludedAddresses := ["10.0.0.0/8"] })).run sampleQt false (start [])).2).2 := by
  refine ⟨by decide, fun h => ?_⟩
  have hkey := h ⟨.ipv4 0x0A000000, 8⟩
  revert hkey
  decide

end TunnelCore.Daemon
