import TunnelCore.KillSwitch.Linux
import TunnelCore.KillSwitch.LinuxLayout

namespace TunnelCore.LinuxFirewall.View

open KillSwitch.Linux

variable (v : View)

def lockdown : View :=
  (((v.set .both .blockAll true).set .both .allowMarkedXray false).set .both .allowLoopback true).set .ipv6 .blockIPv6
    true

def standby : View :=
  v.set .both .allowLoopback true
    |>.set .both .blockAll true
    |>.set .ipv4 .allowNets false
    |>.set .ipv4 .blockNets false
    |>.set .both .allowMarkedXray false
    |>.set .ipv4 .allowVPN false
    |>.set .ipv6 .blockIPv6 true
    |>.set .both .allowDHCP false
    |>.set .both .allowLAN false
    |>.set .ipv4 .blockDNS false
    |>.set .ipv4 .allowDNS false
    |>.set .both .allowPIA false

def allowRanges (ranges : List String) : View := { v.set .ipv4 .allowNets true with allowNets := ranges }

/-- The anchors that `enableKillSwitch` and `applyFirewallRules` set in the same way. -/
def tunnelled (params : FirewallParams) : View :=
  { enabled := fun family a =>
      match family, a with
      | _, .allowLoopback | _, .allowDHCP | _, .allowLAN | _, .allowPIA => true
      | _, .blockAll => params.blockAll
      | .ipv4, .allowNets => params.allowNets
      | .ipv4, .blockNets => params.blockNets
      | .ipv4, .allowVPN | .ipv6, .blockIPv6 | .ipv4, .blockDNS | .ipv4, .allowDNS => true
      | family, a => v.enabled family a
    dnsServers := params.dnsServers
    allowNets := params.allowAddrs
    blockNets := params.blockAddrs }

def Untouched : Prop := v.enabled .ipv6 .blockDNS = false ∧ v.enabled .ipv6 .allowVPN = false

variable {v}

theorem Untouched.lockdown (h : v.Untouched) : v.lockdown.Untouched := h

theorem Untouched.standby (h : v.Untouched) : v.standby.Untouched := h

theorem Untouched.allowRanges (h : v.Untouched) (ranges : List String) : (v.allowRanges ranges).Untouched := h

theorem Untouched.tunnelled (h : v.Untouched) (params : FirewallParams) : (v.tunnelled params).Untouched := h

theorem untouched_getD {o : Option View} (h : ∀ v, o = some v → v.Untouched) : (o.getD .fresh).Untouched := by
  cases o with
  | none => exact ⟨rfl, rfl⟩
  | some v => exact h v rfl

end TunnelCore.LinuxFirewall.View

namespace TunnelCore.KillSwitch.Linux

open LinuxFirewall

/-- `enableKillSwitch` in the terms of `applyFirewallRules`. -/
def firewallParams (config : JsonObject) : FirewallParams where
  dnsServers := dnsServers config
  allowAddrs := allownets config
  blockAddrs := blocknets config
  blockAll := blockAll config
  allowNets := allowNets config
  blockNets := blockNets config

def viewStep (s : State) (o : Option View) : Call → Option View
  | .init => if s.strictKillSwitchEnabled then some (o.getD .fresh).lockdown else o
  | .refresh enabled => if enabled then some (o.getD .fresh).lockdown else none
  | .enableKillSwitch config =>
    if isAccepted config then
      some (((o.getD .fresh).tunnelled (firewallParams config)).set .both .allowMarkedXray true)
    else o
  | .disableKillSwitch => if s.strictKillSwitchEnabled then o.map View.standby else none
  | .addAllowedRange ranges =>
    if ranges.all isValidIpOrCidr then o.map (·.allowRanges (appendRanges s.allowedRanges ranges)) else o
  | .resetAllowedRange ranges => if ranges.all isValidIpOrCidr then o.map (·.allowRanges ranges) else o
  | .applyFirewallRules params => some ((o.getD .fresh).tunnelled params)

/-- The chains of a state are those of a view, and its ranges have passed the check. -/
structure Represents (s : State) (o : Option View) : Prop where
  tables : s.tables = tablesOf o
  valid : s.allowedRanges.all isValidIpOrCidr

variable {o : Option View} {s : State}

theorem disableAllTraffic_tables (h : s.tables = tablesOf o) :
    (disableAllTraffic s).2.tables = tablesOf (some (o.getD .fresh).lockdown) := by
  simp only [disableAllTraffic, Action.update, h, ensure_installed, setAnchorEnabled_view]
  rfl

theorem disableKillSwitch_tables (h : s.tables = tablesOf o) :
    (disableKillSwitch s).2.tables =
      tablesOf (if s.strictKillSwitchEnabled then o.map View.standby else none) := by
  simp only [disableKillSwitch, Action.update, h]
  split
  · cases o with
    | none => simp only [setAnchorEnabled_absent, Option.map_none]
    | some v =>
      simp only [tablesOf, setAnchorEnabled_view, Option.map_some]
      rfl
  · cases o with
    | none => simp only [setAnchorEnabled_absent, uninstall_tablesOf]
    | some v =>
      simp only [tablesOf, setAnchorEnabled_view]
      exact uninstall_tablesOf (some _)

theorem allowRanges_tables (o : Option View) (ranges : List String) :
    updateAllowNets ranges (setAnchorEnabled .ipv4 .allowNets true (tablesOf o)) =
      tablesOf (o.map (·.allowRanges ranges)) := by
  cases o with
  | none => rw [setAnchorEnabled_absent, updateAllowNets_absent, Option.map_none]
  | some v =>
    simp only [tablesOf, setAnchorEnabled_view, updateAllowNets_view, Option.map_some]
    rfl

theorem view_ext {v w : View} (he : ∀ family a, v.enabled family a = w.enabled family a)
    (hd : v.dnsServers = w.dnsServers) (ha : v.allowNets = w.allowNets) (hb : v.blockNets = w.blockNets) : v = w := by
  obtain ⟨e, d, a, b⟩ := v
  obtain rfl : e = w.enabled := funext fun family => funext fun x => he family x
  cases hd
  cases ha
  cases hb
  rfl

theorem applyFirewallRules_tables (o : Option View) (params : FirewallParams) :
    LinuxFirewall.applyFirewallRules params (tablesOf o) = tablesOf (some ((o.getD .fresh).tunnelled params)) := by
  simp only [LinuxFirewall.applyFirewallRules, ensure_installed, ensureRootAnchorPriority_view,
    setAnchorEnabled_view, updateAllowNets_view, updateBlockNets_view, updateDNSServers_view]
  apply congrArg View.table
  refine view_ext (fun family a => ?_) rfl rfl rfl
  cases family <;> cases a <;> rfl

theorem enableKillSwitch_tables (h : s.tables = tablesOf o) {config : JsonObject}
    (hc : isAccepted config) : (Linux.enableKillSwitch config s).2.tables =
      tablesOf (some (((o.getD .fresh).tunnelled (firewallParams config)).set .both .allowMarkedXray true)) := by
  simp only [Linux.enableKillSwitch, Action.branch, hc, if_true, Action.update, h, ensure_installed,
    setAnchorEnabled_view, updateAllowNets_view, updateBlockNets_view, updateDNSServers_view]
  apply congrArg View.table
  refine view_ext (fun family a => ?_) rfl rfl rfl
  cases family <;> cases a <;> rfl

theorem Represents.step (h : Represents s o) (call : Call) :
    Represents (step s call) (viewStep s o call) := by
  obtain ⟨ht, hv⟩ := h
  cases call with
  | init =>
    rw [viewStep, Linux.step, Call.action, Linux.init, Action.branch]
    split
    · exact ⟨disableAllTraffic_tables ht, rfl⟩
    · exact ⟨ht, hv⟩
  | refresh enabled =>
    cases enabled with
    | false => exact ⟨disableKillSwitch_tables (s := { s with strictKillSwitchEnabled := false }) ht, rfl⟩
    | true => exact ⟨disableAllTraffic_tables (s := { s with strictKillSwitchEnabled := true }) ht, rfl⟩
  | enableKillSwitch config =>
    rw [viewStep]
    split
    next hc =>
      refine ⟨enableKillSwitch_tables ht hc, ?_⟩
      rw [Linux.step, Call.action, Linux.enableKillSwitch, Action.branch, if_pos hc]
      exact hv
    next hc =>
      rw [Linux.step, Call.action, Linux.enableKillSwitch, Action.branch, if_neg hc]
      exact ⟨ht, hv⟩
  | disableKillSwitch => exact ⟨disableKillSwitch_tables ht, rfl⟩
  | addAllowedRange ranges =>
    rw [viewStep, Linux.step, Call.action, Linux.addAllowedRange, Action.branch]
    split
    next hr =>
      have happ := appendRanges_valid hv hr
      simp only [Action.andThen, Action.update, if_true, Action.inspect, Linux.resetAllowedRange, Action.branch, happ]
      refine ⟨?_, happ⟩
      rw [ht]
      exact allowRanges_tables o _
    · exact ⟨ht, hv⟩
  | resetAllowedRange ranges =>
    rw [viewStep, Linux.step, Call.action, Linux.resetAllowedRange, Action.branch]
    split
    next hr =>
      refine ⟨?_, hr⟩
      simp only [Action.update]
      rw [ht]
      exact allowRanges_tables o _
    · exact ⟨ht, hv⟩
  | applyFirewallRules params =>
    refine ⟨?_, hv⟩
    rw [viewStep, ← applyFirewallRules_tables, ← ht]
    rfl

structure Tracked (s : State) (o : Option View) : Prop extends Represents s o where
  untouched : ∀ v, o = some v → v.Untouched
  installed : s.strictKillSwitchEnabled → o.isSome

theorem resetAllowedRange_strict (s : State) (ranges : List String) :
    (Linux.resetAllowedRange ranges s).2.strictKillSwitchEnabled = s.strictKillSwitchEnabled := by
  rw [Linux.resetAllowedRange, Action.branch]
  split <;> rfl

theorem step_strict (s : State) (call : Call) :
    (step s call).strictKillSwitchEnabled =
      match call with
      | .refresh enabled => enabled
      | _ => s.strictKillSwitchEnabled := by
  cases call with
  | init =>
    rw [step, Call.action, Linux.init, Action.branch]
    split <;> rfl
  | refresh enabled => cases enabled <;> rfl
  | enableKillSwitch config =>
    rw [step, Call.action, Linux.enableKillSwitch, Action.branch]
    split <;> rfl
  | disableKillSwitch => rfl
  | addAllowedRange ranges =>
    rw [step, Call.action, Linux.addAllowedRange, Action.branch]
    split
    · exact resetAllowedRange_strict _ _
    · rfl
  | resetAllowedRange ranges => exact resetAllowedRange_strict s ranges
  | applyFirewallRules params => rfl

theorem viewStep_cases (s : State) (o : Option View) (call : Call) :
    (viewStep s o call = none ∧ (step s call).strictKillSwitchEnabled = false) ∨
      ∃ f : View → View, (∀ v, v.Untouched → (f v).Untouched) ∧
        (viewStep s o call = some (f (o.getD .fresh)) ∨
          viewStep s o call = o.map f ∧ (step s call).strictKillSwitchEnabled = s.strictKillSwitchEnabled) := by
  have hkept : o = o.map id := (congrFun Option.map_id o).symm
  rw [step_strict]
  cases call with
  | init =>
    rw [viewStep]
    split
    · exact .inr ⟨View.lockdown, fun _ h => h.lockdown, .inl rfl⟩
    · exact .inr ⟨id, fun _ h => h, .inr ⟨hkept, rfl⟩⟩
  | refresh enabled =>
    cases enabled with
    | false => exact .inl ⟨rfl, rfl⟩
    | true => exact .inr ⟨View.lockdown, fun _ h => h.lockdown, .inl rfl⟩
  | enableKillSwitch config =>
    rw [viewStep]
    split
    · exact .inr ⟨fun v => (v.tunnelled (firewallParams config)).set .both .allowMarkedXray true,
        fun _ h => h.tunnelled (firewallParams config), .inl rfl⟩
    · exact .inr ⟨id, fun _ h => h, .inr ⟨hkept, rfl⟩⟩
  | disableKillSwitch =>
    rw [viewStep]
    split
    · exact .inr ⟨View.standby, fun _ h => h.standby, .inr ⟨rfl, rfl⟩⟩
    next hs => exact .inl ⟨rfl, Bool.eq_false_iff.mpr hs⟩
  | addAllowedRange ranges | resetAllowedRange ranges =>
    rw [viewStep]
    split
    · exact .inr ⟨_, fun _ h => h.allowRanges _, .inr ⟨rfl, rfl⟩⟩
    · exact .inr ⟨id, fun _ h => h, .inr ⟨hkept, rfl⟩⟩
  | applyFirewallRules params => exact .inr ⟨_, fun _ h => h.tunnelled params, .inl rfl⟩

theorem viewStep_untouched (h : ∀ v, o = some v → v.Untouched) (call : Call) :
    ∀ v, viewStep s o call = some v → v.Untouched := by
  intro v hv
  obtain ⟨hnone, -⟩ | ⟨f, hf, hsome | ⟨hmap, -⟩⟩ := viewStep_cases s o call
  · exact absurd (hnone.symm.trans hv) (Option.some_ne_none v).symm
  · obtain rfl := Option.some.inj (hsome.symm.trans hv)
    exact hf _ (View.untouched_getD h)
  · obtain ⟨w, hw, rfl⟩ := Option.map_eq_some_iff.mp (hmap.symm.trans hv)
    exact hf w (h w hw)

theorem viewStep_installed (h : s.strictKillSwitchEnabled → o.isSome) (call : Call)
    (hs : (step s call).strictKillSwitchEnabled) : (viewStep s o call).isSome := by
  obtain ⟨-, hoff⟩ | ⟨f, -, hsome | ⟨hmap, hstrict⟩⟩ := viewStep_cases s o call
  · exact absurd (hoff.symm.trans hs) Bool.false_ne_true
  · rw [hsome]
    rfl
  · rw [hmap, Option.isSome_map]
    exact h (hstrict ▸ hs)

theorem Tracked.step (h : Tracked s o) (call : Call) :
    Tracked (step s call) (viewStep s o call) :=
  ⟨h.toRepresents.step call, viewStep_untouched h.untouched call, viewStep_installed h.installed call⟩

theorem tracked_start (strict : Bool) :
    Tracked (start strict) (viewStep ⟨fun _ => absent, strict, []⟩ none .init) := by
  have h : Represents ⟨fun _ => absent, strict, []⟩ none := ⟨rfl, rfl⟩
  refine ⟨h.step .init, viewStep_untouched (fun _ hv => absurd hv.symm (Option.some_ne_none _)) .init, fun hs => ?_⟩
  rw [start, step_strict] at hs
  rw [viewStep, if_pos hs]
  rfl

theorem exists_tracked (strict : Bool) (calls : List Call) : ∃ o, Tracked (run strict calls) o := by
  induction calls using List.reverseRecOn with
  | nil => exact ⟨_, tracked_start strict⟩
  | append_singleton calls call ih =>
    obtain ⟨o, h⟩ := ih
    rw [run, List.foldl_append]
    exact ⟨_, h.step call⟩

end TunnelCore.KillSwitch.Linux
