import TunnelCore.KillSwitch.Windows

namespace TunnelCore.WindowsFirewall

open Daemon

theorem filters_enableFilters (filters : List Filter) (peer : String) (s : State) :
    (enableFilters filters peer s).filters = s.filters ++ filters := by
  induction filters generalizing s with
  | nil => simp [enableFilters]
  | cons f filters ih =>
    rw [enableFilters, List.foldl_cons, ← enableFilters, ih]
    simp [State.filters, enableFilter]

theorem filters_allowLoopbackTraffic (host : Host) (weight : Nat) (s : State) :
    (allowLoopbackTraffic host weight s).filters =
      s.filters ++ host.loopbackInterfaces.flatMap fun index => adapterFilters index weight := by
  rw [allowLoopbackTraffic]
  induction host.loopbackInterfaces generalizing s with
  | nil => rw [List.foldl_nil, List.flatMap_nil, List.append_nil]
  | cons index indices ih =>
    rw [List.foldl_cons, ih, allowTrafficOfAdapter, filters_enableFilters, List.flatMap_cons, List.append_assoc]

def interfaceFilters (host : Host) (index : Int) : List Filter :=
  (if index < 0 then rangeFilters .block allv4 medWeight ++ rangeFilters .block allv6 medWeight
    else adapterFilters index medWeight) ++
    dhcpFilters medWeight ++ hyperVFilters maxWeight ++ appFilters host.currentPath maxWeight ++
    portFilters 53 medWeight ++ host.loopbackInterfaces.flatMap fun index => adapterFilters index medWeight

theorem filters_enableInterface (host : Host) (index : Int) (s : State) :
    (enableInterface host index s).filters = s.filters ++ interfaceFilters host index := by
  rw [enableInterface, filters_allowLoopbackTraffic, blockTrafficOnPort, filters_enableFilters,
    allowTrafficForAppOnAll, filters_enableFilters, allowHyperVTraffic, filters_enableFilters, allowDHCPTraffic,
    filters_enableFilters, interfaceFilters]
  split
  · rw [blockTrafficTo, filters_enableFilters, blockTrafficTo, filters_enableFilters]
    simp only [List.append_assoc]
  · rw [allowTrafficOfAdapter, filters_enableFilters]
    simp only [List.append_assoc]

variable {f : Filter} {index : Int}

theorem filters_deleteFilters {ids : List Nat} {s : State} (h : f ∈ (deleteFilters ids s).filters) :
    f ∈ s.filters := by
  obtain ⟨e, he, rfl⟩ := List.mem_map.mp h
  exact List.mem_map.mpr ⟨e, (List.mem_filter.mp he).1, rfl⟩

/-- An outbound connection that no filter of the kill switch has a reason to let out: not of the service, not by one
of the given adapters or loopback, and no DHCP. -/
structure Ordinary (host : Host) (adapters : List Int) (t : Traffic) : Prop where
  outbound : (t.layer = .connectV4 ∧ ∃ a, t.remoteAddress = .uint32 a) ∨
    (t.layer = .connectV6 ∧ ∃ a, t.remoteAddress = .byteArray16 a)
  program : t.appId ≠ host.currentPath
  adapter : t.interfaceIndex ∉ adapters
  loopback : t.interfaceIndex ∉ host.loopbackInterfaces
  dhcp : ¬ (t.protocol = .udp ∧ t.localPort = 68 ∧ t.remotePort = 67)

/-- For this connection a permit is of the high weight or below every block of the kill switch itself. -/
def Tame (t : Traffic) (f : Filter) : Prop :=
  f.covers t → (f.action = .permit → f.weight = highWeight ∨ f.weight < medWeight) ∧
    (f.action = .block → f.weight ≤ medWeight)

def Tamed (t : Traffic) (s : State) : Prop := ∀ f ∈ s.filters, Tame t f

variable {host : Host} {adapters : List Int} {t : Traffic} {s : State}

theorem tame_permit (ha : f.action = .permit) (hw : f.weight = highWeight ∨ f.weight < medWeight) :
    Tame t f := by
  intro _
  refine ⟨fun _ => hw, fun hb => ?_⟩
  rw [ha] at hb
  cases hb

theorem tame_block (ha : f.action = .block) (hw : f.weight ≤ medWeight) : Tame t f := by
  intro _
  refine ⟨fun hp => ?_, fun _ => hw⟩
  rw [ha] at hp
  cases hp

theorem tame_of_not_covers (h : ¬ f.covers t) : Tame t f := fun hc => absurd hc h

theorem Tamed.enableFilters (hs : Tamed t s) {filters : List Filter} (hf : ∀ f ∈ filters, Tame t f) (peer : String) :
    Tamed t (enableFilters filters peer s) := by
  intro f hmem
  rw [filters_enableFilters] at hmem
  obtain h | h := List.mem_append.mp hmem
  · exact hs f h
  · exact hf f h

theorem Tamed.deleteFilters (hs : Tamed t s) (ids : List Nat) : Tamed t (deleteFilters ids s) :=
  fun f hf => hs f (filters_deleteFilters hf)

theorem Tamed.allowTrafficTo (hs : Tamed t s) (addr : IPAddress) {weight : Nat}
    (hw : weight = highWeight ∨ weight < medWeight) (peer : String) : Tamed t (allowTrafficTo addr weight peer s) := by
  apply hs.enableFilters
  intro f hf
  obtain ⟨layer, -, rfl⟩ := List.mem_map.mp hf
  exact tame_permit rfl hw

theorem Tamed.blockTrafficTo (hs : Tamed t s) (addr : IPAddress) {weight : Nat} (hw : weight ≤ medWeight)
    (peer : String) : Tamed t (blockTrafficTo addr weight peer s) := by
  apply hs.enableFilters
  intro f hf
  obtain ⟨layer, -, rfl⟩ := List.mem_map.mp hf
  exact tame_block rfl hw

theorem Tamed.allowTrafficToPort (hs : Tamed t s) (targetIP : QHostAddress) (port : Nat) (peer : String) :
    Tamed t (allowTrafficToPort targetIP port highWeight peer s) := by
  apply hs.enableFilters
  intro f hf
  obtain ⟨layer, -, rfl⟩ := List.mem_map.mp hf
  exact tame_permit rfl (.inl rfl)

theorem tame_adapterFilters (h : t.interfaceIndex ≠ index) (weight : Nat) :
    ∀ f ∈ adapterFilters index weight, Tame t f := by
  intro f hf
  obtain ⟨layer, -, rfl⟩ := List.mem_map.mp hf
  apply tame_of_not_covers
  simp [Filter.covers, Condition.holds, h]

theorem tame_appFilters {path : String} (h : t.appId ≠ path) (weight : Nat) :
    ∀ f ∈ appFilters path weight, Tame t f := by
  intro f hf
  obtain ⟨layer, -, rfl⟩ := List.mem_map.mp hf
  apply tame_of_not_covers
  simp [Filter.covers, Condition.holds, h]

theorem tame_hyperVFilters (ho : Ordinary host adapters t) (weight : Nat) :
    ∀ f ∈ hyperVFilters weight, Tame t f := by
  intro f hf
  obtain ⟨layer, hl, rfl⟩ := List.mem_map.mp hf
  apply tame_of_not_covers
  have hne : layer ≠ t.layer := by
    obtain ⟨ht, -⟩ | ⟨ht, -⟩ := ho.outbound <;> rw [ht] <;> rintro rfl <;> exact absurd hl (by decide)
  simp [Filter.covers, hne]

theorem tame_dhcpFilters (ho : Ordinary host adapters t) (weight : Nat) : ∀ f ∈ dhcpFilters weight, Tame t f := by
  intro f hf
  apply tame_of_not_covers
  intro hcovers
  apply ho.dhcp
  simp only [dhcpFilters, List.mem_cons, List.not_mem_nil, or_false] at hf
  obtain rfl | rfl | rfl | rfl := hf <;>
    simp_all [Filter.covers, dhcpConditions, Condition.field, Condition.holds]

theorem tame_interfaceFilters (ho : Ordinary host adapters t) (hi : 0 ≤ index → index ∈ adapters) :
    ∀ f ∈ interfaceFilters host index, Tame t f := by
  intro f hf
  simp only [interfaceFilters, List.mem_append, List.mem_flatMap] at hf
  obtain ((((hf | hf) | hf) | hf) | hf) | ⟨i, hmem, hf⟩ := hf
  · split at hf
    · obtain hf | hf := List.mem_append.mp hf <;>
      · obtain ⟨layer, -, rfl⟩ := List.mem_map.mp hf
        exact tame_block rfl le_rfl
    next hneg =>
      refine tame_adapterFilters (fun heq => ?_) _ f hf
      exact ho.adapter (heq ▸ hi (Int.not_lt.mp hneg))
  · exact tame_dhcpFilters ho _ f hf
  · exact tame_hyperVFilters ho _ f hf
  · exact tame_appFilters ho.program _ f hf
  · obtain ⟨layer, -, rfl⟩ := List.mem_map.mp hf
    exact tame_block rfl le_rfl
  · exact tame_adapterFilters (fun heq => ho.loopback (heq ▸ hmem)) _ f hf

theorem Tamed.enableInterface (hs : Tamed t s) (ho : Ordinary host adapters t)
    (hi : 0 ≤ index → index ∈ adapters) : Tamed t (enableInterface host index s) := by
  intro f hf
  rw [filters_enableInterface] at hf
  obtain h | h := List.mem_append.mp hf
  · exact hs f h
  · exact tame_interfaceFilters ho hi f h

theorem Tamed.enableLanBypass (hs : Tamed t s) (ranges : List IPAddress) : Tamed t (enableLanBypass ranges s) :=
  List.foldlRecOn ranges _ hs fun _ h addr _ => h.allowTrafficTo addr (.inr (by decide)) _

theorem Tamed.allowTrafficRange (hs : Tamed t s) (qt : Qt) (ranges : List String) :
    Tamed t (allowTrafficRange qt ranges s) :=
  List.foldlRecOn ranges _ hs fun _ h _ _ => h.allowTrafficTo _ (.inl rfl) _

theorem Tamed.allowDnsServer (hs : Tamed t s) (qt : Qt) (config : InterfaceConfig) (server : String) :
    Tamed t (allowDnsServer qt config server s) := by
  rw [WindowsFirewall.allowDnsServer]
  split
  · exact hs
  · split
    · exact (hs.allowTrafficToPort _ _ _).allowTrafficToPort _ _ _
    · exact hs.allowTrafficToPort _ _ _

theorem Tamed.enablePeerTraffic (hs : Tamed t s) (qt : Qt) (config : InterfaceConfig) :
    Tamed t (enablePeerTraffic qt config s) := by
  have hblock := List.foldlRecOn (motive := Tamed t) config.allowedIPAddressRanges _ hs
    fun _ h range _ => h.blockTrafficTo range (Nat.zero_le medWeight) config.serverPublicKey
  have hdns := (hblock.allowDnsServer qt config config.primaryDnsServer).allowDnsServer qt config
    config.secondaryDnsServer
  have hallowed := List.foldlRecOn (motive := Tamed t) config.allowedDnsServers _ hdns
    fun _ h dns _ => h.allowTrafficToPort (qt.hostAddress dns) 53 config.serverPublicKey
  exact List.foldlRecOn config.excludedAddresses _ hallowed
    fun _ h i _ => h.allowTrafficTo (.ofString qt i) (.inl rfl) config.serverPublicKey

theorem Tamed.disablePeerTraffic (hs : Tamed t s) (pubkey : String) : Tamed t (disablePeerTraffic pubkey s) :=
  hs.deleteFilters _

theorem Tamed.allowAllTraffic (hs : Tamed t s) : Tamed t (allowAllTraffic s) := hs.deleteFilters _

theorem allv4_covers {t : Traffic} (hl : t.layer = .connectV4) {a : BitVec 32} (ha : t.remoteAddress = .uint32 a)
    (action : FilterAction) (weight : Nat) :
    (⟨.connectV4, [rangeCondition allv4], action, weight⟩ : Filter).covers t = true := by
  have hlow : (0 : BitVec 32) ≤ a := by bv_omega
  have hhigh : a ≤ (0 : BitVec 32) ||| (0xFFFFFFFF >>> 0) := by
    have hones : (0 : BitVec 32) ||| (0xFFFFFFFF >>> 0) = 0xFFFFFFFF := by decide
    rw [hones]
    bv_omega
  simp only [Filter.covers, hl, decide_true, Bool.true_and, List.all_cons, List.any_cons, List.all_nil, List.any_nil,
    Bool.and_true, Bool.or_false, rangeCondition, Condition.holds, ha, Bool.and_eq_true]
  exact ⟨decide_eq_true hlow, decide_eq_true hhigh⟩

theorem allv6_covers {t : Traffic} (hl : t.layer = .connectV6) {a : BitVec 128}
    (ha : t.remoteAddress = .byteArray16 a) (action : FilterAction) (weight : Nat) :
    (⟨.connectV6, [rangeCondition allv6], action, weight⟩ : Filter).covers t = true := by
  have hlow : (0 : BitVec 128) ≤ a := by bv_omega
  have hhigh : a ≤ (0 : BitVec 128) ||| (BitVec.allOnes 128 >>> 0) := by
    have hones : (0 : BitVec 128) ||| (BitVec.allOnes 128 >>> 0) = BitVec.allOnes 128 := by decide
    rw [hones]
    have := a.isLt
    rw [BitVec.le_def, BitVec.toNat_allOnes]
    omega
  simp only [Filter.covers, hl, decide_true, Bool.true_and, List.all_cons, List.any_cons, List.all_nil, List.any_nil,
    Bool.and_true, Bool.or_false, rangeCondition, Condition.holds, ha, Bool.and_eq_true]
  exact ⟨decide_eq_true hlow, decide_eq_true hhigh⟩

theorem enableInterface_blocks (ho : Ordinary host adapters t) (s : State) :
    ∃ f ∈ (enableInterface host (-1) s).filters, f.covers t ∧ f.action = .block ∧ f.weight = medWeight := by
  have hmem {f : Filter} (h : f ∈ rangeFilters .block allv4 medWeight ++ rangeFilters .block allv6 medWeight) :
      f ∈ (enableInterface host (-1) s).filters := by
    rw [filters_enableInterface]
    refine List.mem_append_right _ ?_
    simp only [interfaceFilters, List.mem_append]
    exact .inl (.inl (.inl (.inl (.inl h))))
  obtain ⟨hl, a, ha⟩ | ⟨hl, a, ha⟩ := ho.outbound
  · exact ⟨_, hmem (.head _), allv4_covers hl ha _ _, rfl, rfl⟩
  · exact ⟨_, hmem (.tail _ (.tail _ (.head _))), allv6_covers hl ha _ _, rfl, rfl⟩

theorem interfaceFilters_weight (hf : f ∈ interfaceFilters host index) :
    f.weight ≠ highWeight := by
  have hmed : medWeight ≠ highWeight := by decide
  have hmax : maxWeight ≠ highWeight := by decide
  simp only [interfaceFilters, List.mem_append, List.mem_flatMap] at hf
  obtain ((((hf | hf) | hf) | hf) | hf) | ⟨i, -, hf⟩ := hf
  · split at hf
    · obtain hf | hf := List.mem_append.mp hf <;>
      · obtain ⟨layer, -, rfl⟩ := List.mem_map.mp hf
        exact hmed
    · obtain ⟨layer, -, rfl⟩ := List.mem_map.mp hf
      exact hmed
  · simp only [dhcpFilters, List.mem_cons, List.not_mem_nil, or_false] at hf
    obtain rfl | rfl | rfl | rfl := hf <;> exact hmed
  · obtain ⟨layer, -, rfl⟩ := List.mem_map.mp hf
    exact hmax
  · obtain ⟨layer, -, rfl⟩ := List.mem_map.mp hf
    exact hmax
  · obtain ⟨layer, -, rfl⟩ := List.mem_map.mp hf
    exact hmed
  · obtain ⟨layer, -, rfl⟩ := List.mem_map.mp hf
    exact hmed

end TunnelCore.WindowsFirewall

namespace TunnelCore.KillSwitch.Windows

open WindowsFirewall

def Call.adapter : Call → Option Int
  | .enableKillSwitch _ index | .firewallEnableInterface index => if 0 ≤ index then some index else none
  | _ => none

variable {env : Env} {adapters : List Int} {t : Traffic} {s : State}

theorem tamed_disableAllTraffic (ho : Ordinary env.host adapters t) (hs : Tamed t s.firewall) :
    Tamed t (disableAllTraffic env s).firewall :=
  hs.enableInterface ho fun h => absurd h (by decide)

theorem tamed_disableKillSwitch (ho : Ordinary env.host adapters t) (hs : Tamed t s.firewall) :
    Tamed t (disableKillSwitch env s).firewall := by
  rw [disableKillSwitch]
  split
  · exact tamed_disableAllTraffic ho hs
  · exact hs.allowAllTraffic

theorem tamed_resetAllowedRange (ho : Ordinary env.host adapters t) (hs : Tamed t s.firewall) (ranges : List String) :
    Tamed t (resetAllowedRange env ranges s).firewall := by
  rw [resetAllowedRange]
  split
  · apply Tamed.allowTrafficRange
    split
    · exact hs.enableInterface ho fun h => absurd h (by decide)
    · exact hs
  · exact hs

theorem tamed_step (ho : Ordinary env.host adapters t) (hs : Tamed t s.firewall) {call : Call}
    (hc : ∀ i, call.adapter = some i → i ∈ adapters) : Tamed t (step env s call).firewall := by
  cases call with
  | init =>
    rw [step, Windows.init]
    split
    · exact tamed_disableAllTraffic ho hs
    · exact hs
  | refresh enabled =>
    rw [step, Windows.refresh]
    split
    · exact tamed_disableAllTraffic (s := { s with strictKillSwitchEnabled := enabled }) ho hs
    · exact tamed_disableKillSwitch (s := { s with strictKillSwitchEnabled := enabled }) ho hs
  | enableKillSwitch config index =>
    refine Tamed.enableInterface ?_ ho fun h => hc index (if_pos h)
    split
    · exact hs.allowAllTraffic
    · exact hs
  | disableKillSwitch => exact tamed_disableKillSwitch ho hs
  | enablePeerTraffic config =>
    rw [step, Windows.enablePeerTraffic]
    split
    · exact hs.enablePeerTraffic _ _
    · exact hs
  | addAllowedRange ranges =>
    rw [step, Windows.addAllowedRange]
    split
    · exact tamed_resetAllowedRange (s := { s with allowedRanges := appendRanges s.allowedRanges ranges }) ho hs _
    · exact hs
  | resetAllowedRange ranges => exact tamed_resetAllowedRange ho hs ranges
  | firewallEnableInterface index => exact hs.enableInterface ho fun h => hc index (if_pos h)
  | firewallEnableLanBypass ranges => exact hs.enableLanBypass ranges
  | firewallEnablePeerTraffic config => exact hs.enablePeerTraffic _ config
  | firewallDisablePeerTraffic pubkey => exact hs.disablePeerTraffic pubkey
  | firewallAllowAllTraffic => exact hs.allowAllTraffic

theorem tamed_run (strict : Bool) {calls : List Call} (ho : Ordinary env.host (calls.filterMap Call.adapter) t) :
    Tamed t (run env strict calls).firewall := by
  have h : ∀ rest : List Call, (∀ c ∈ rest, ∀ i, c.adapter = some i → i ∈ calls.filterMap Call.adapter) →
      ∀ s : State, Tamed t s.firewall → Tamed t (rest.foldl (step env) s).firewall := by
    intro rest
    induction rest with
    | nil => exact fun _ s hs => hs
    | cons c rest ih =>
      intro hrest s hs
      exact ih (fun d hd => hrest d (.tail _ hd)) _ (tamed_step ho hs (hrest c (.head _)))
  refine h calls (fun c hc i hi => List.mem_filterMap.mpr ⟨c, hc, hi⟩) (start strict) ?_
  intro f hf
  exact absurd hf List.not_mem_nil

/-- With strict mode on a disconnect adds the block of everything, and deletes no filter. -/
theorem strict_disableKillSwitch_blocks_iff (env : Env) (strict : Bool) (calls : List Call)
    (hstrict : (run env strict calls).strictKillSwitchEnabled = true) (t : Traffic)
    (ho : Ordinary env.host (calls.filterMap Call.adapter) t) :
    Blocked (step env (run env strict calls) .disableKillSwitch).firewall.filters t ↔
      ¬ ∃ f ∈ (run env strict calls).firewall.filters, f.covers t ∧ f.action = .permit ∧ f.weight = highWeight := by
  have hnew : (step env (run env strict calls) .disableKillSwitch).firewall =
      enableInterface env.host (-1) (run env strict calls).firewall := by
    rw [step, Windows.disableKillSwitch, if_pos hstrict]
    rfl
  have htamed : Tamed t (enableInterface env.host (-1) (run env strict calls).firewall) :=
    (tamed_run strict ho).enableInterface ho fun h => absurd h (by decide)
  rw [hnew, blocked_iff (enableInterface_blocks ho _) fun f hf hc ha => (htamed f hf hc).2 ha]
  constructor
  · rintro h ⟨f, hf, hc, ha, hw⟩
    have hmem : f ∈ (enableInterface env.host (-1) (run env strict calls).firewall).filters := by
      rw [filters_enableInterface]
      exact List.mem_append_left _ hf
    have hlt := h f hmem hc ha
    rw [hw] at hlt
    exact absurd hlt (by decide)
  · intro h g hg hc ha
    obtain hw | hw := (htamed g hg hc).1 ha
    · rw [filters_enableInterface] at hg
      obtain hold | hadded := List.mem_append.mp hg
      · exact absurd ⟨g, hold, hc, ha, hw⟩ h
      · exact absurd hw (interfaceFilters_weight hadded)
    · exact hw

def sampleEnv : Env where
  qt := Daemon.sampleQt
  host := { currentPath := "tunnelcore-service.exe", loopbackInterfaces := [1] }

def sampleTraffic : Traffic where
  layer := .connectV4
  remoteAddress := .uint32 0xC0000201
  protocol := .tcp
  localPort := 50000
  remotePort := 443
  interfaceIndex := 12
  appId := "browser.exe"

theorem sampleTraffic_ordinary : Ordinary sampleEnv.host [] sampleTraffic where
  outbound := .inl ⟨rfl, _, rfl⟩
  program := by decide
  adapter := List.not_mem_nil
  loopback := by decide
  dhcp := by decide

theorem strict_disableKillSwitch_blocks_sample :
    (run sampleEnv true [.init]).strictKillSwitchEnabled = true ∧ Ordinary sampleEnv.host [] sampleTraffic ∧
      Blocked (step sampleEnv (run sampleEnv true [.init]) .disableKillSwitch).firewall.filters sampleTraffic :=
  ⟨rfl, sampleTraffic_ordinary,
    (strict_disableKillSwitch_blocks_iff sampleEnv true [.init] rfl sampleTraffic sampleTraffic_ordinary).mpr
      (by decide)⟩

/-- A range once allowed stays open. -/
theorem strict_disableKillSwitch_leaves_range :
    (run sampleEnv true [.init, .addAllowedRange ["192.0.2.1"]]).strictKillSwitchEnabled = true ∧
      Ordinary sampleEnv.host [] sampleTraffic ∧
      ¬ Blocked (step sampleEnv (run sampleEnv true [.init, .addAllowedRange ["192.0.2.1"]])
        .disableKillSwitch).firewall.filters sampleTraffic := by
  refine ⟨by decide, sampleTraffic_ordinary, ?_⟩
  decide +kernel

end TunnelCore.KillSwitch.Windows
