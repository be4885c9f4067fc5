import TunnelCore.KillSwitch.LinuxRuns

namespace TunnelCore.KillSwitch.Linux

open LinuxFirewall Text

def numericIptables : Iptables where
  addresses text a :=
    let address (s : List Char) : BitVec 32 :=
      (s.splitOn '.').foldl (fun n octet => n <<< 8 ||| BitVec.ofNat 32 (decimal octet)) 0
    match (dropNewline text.toList).splitOn '/' with
    | [s] => a = address s
    | [s, length] => a >>> (32 - decimal length) = address s >>> (32 - decimal length)
    | _ => false

def sampleConfig : JsonObject := [("splitTunnelType", .number 0), ("vpnServer", .string "192.0.2.1")]

def samplePacket : Packet where
  destination := .ipv6 (0xFE80 <<< 112 ||| 1)
  outInterface := "eth0"
  protocol := .udp
  sport := 40000
  dport := 53

theorem sampleConfig_accepted : (Linux.enableKillSwitch sampleConfig (run false [])).1 = true := by decide

section EnableKillSwitch

variable (ip : Iptables) (strict : Bool) (calls : List Call) {config : JsonObject}

theorem enableKillSwitch_view (h : (Linux.enableKillSwitch config (run strict calls)).1 = true) :
    ∃ v : View, v.Untouched ∧ (Linux.enableKillSwitch config (run strict calls)).2.tables =
      ((v.tunnelled (firewallParams config)).set .both .allowMarkedXray true).table := by
  obtain ⟨o, ht⟩ := exists_tracked strict calls
  have hc : isAccepted config := by
    by_contra hc
    rw [Linux.enableKillSwitch, Action.branch, if_neg hc] at h
    exact Bool.false_ne_true h
  exact ⟨o.getD .fresh, View.untouched_getD ht.untouched, enableKillSwitch_tables ht.tables hc⟩

inductive Exempt (config : JsonObject) (p : Packet) : Prop
  | lan (n : Net) (hn : n ∈ lanNets p.destination.family) (h : n.contains p.destination)
  | dhcp (h : (dhcpMatch p.destination.family).holds ip p)
  | xray (h : p.mark = xrayTrafficMark)
  | vpnServer (a : BitVec 32) (ha : p.destination = .ipv4 a) (h : ip.addresses (vpnServer config) a)
  | site (a : BitVec 32) (ha : p.destination = .ipv4 a) (htype : splitTunnelType config = 2) (site : String)
      (hsite : site ∈ splitTunnelSites config) (h : ip.addresses site a)

variable {ip}

theorem exempt_of_allownets {p : Packet} {text : String} (ht : text ∈ allownets config)
    (h : (Destination.text text).contains ip p.destination = true) : Exempt ip config p := by
  cases hd : p.destination with
  | ipv6 a =>
    rw [hd] at h
    exact absurd h Bool.false_ne_true
  | ipv4 a =>
    rw [hd] at h
    rw [allownets] at ht
    split at ht
    · obtain rfl := List.mem_singleton.mp ht
      exact .vpnServer a hd h
    · split at ht
      next htype =>
        obtain rfl | hsite := List.mem_cons.mp ht
        · exact .vpnServer a hd h
        · exact .site a hd htype text hsite h
      · exact absurd ht List.not_mem_nil

theorem exempt_of_fires {v : View} {p : Packet} (hv : v.allowNets = allownets config)
    (hlo : loopbackInterface.covers p.outInterface = false)
    (htun : tunnelInterfaces.any (·.covers p.outInterface) = false) {a : Anchor} (ha : a.verdict = .accept)
    (h : v.fires ip p a = true) : Exempt ip config p := by
  cases a with
  | blockAll | blockNets | blockIPv6 | blockDNS => cases ha
  | allowLoopback =>
    rw [fires_allowLoopback, hlo, Bool.and_false] at h
    exact absurd h Bool.false_ne_true
  | allowVPN =>
    rw [fires_allowVPN, htun, Bool.and_false] at h
    exact absurd h Bool.false_ne_true
  | allowDNS =>
    have := (fires_allowDNS h).2.2
    rw [htun] at this
    exact absurd this Bool.false_ne_true
  | allowPIA =>
    rw [fires_allowPIA] at h
    exact absurd h Bool.false_ne_true
  | allowLAN =>
    rw [fires_allowLAN, Bool.and_eq_true, List.any_eq_true] at h
    obtain ⟨-, n, hn, hc⟩ := h
    exact .lan n hn hc
  | allowDHCP =>
    rw [fires_allowDHCP, Bool.and_eq_true] at h
    exact .dhcp h.2
  | allowMarkedXray =>
    rw [fires_allowMarkedXray, Bool.and_eq_true, decide_eq_true_eq] at h
    exact .xray h.2
  | allowNets =>
    rw [fires_allowNets, Bool.and_eq_true, List.any_eq_true, hv] at h
    obtain ⟨-, text, ht, hc⟩ := h
    exact exempt_of_allownets ht hc

theorem enableKillSwitch_full_tunnel (h : (Linux.enableKillSwitch config (run strict calls)).1 = true)
    (htype : splitTunnelType config = 0 ∨ splitTunnelType config = 2) (p : Packet)
    (hlo : loopbackInterface.covers p.outInterface = false)
    (htun : tunnelInterfaces.any (·.covers p.outInterface) = false) :
    (Accepts ip (Linux.enableKillSwitch config (run strict calls)).2.tables p → Exempt ip config p) ∧
      (¬ Exempt ip config p →
        verdict ip (Linux.enableKillSwitch config (run strict calls)).2.tables p = some .reject) := by
  obtain ⟨v, -, hv⟩ := enableKillSwitch_view strict calls h
  rw [Accepts, not_imp_comm, and_self, hv]
  intro hexempt
  have hall : ((v.tunnelled (firewallParams config)).set .both .allowMarkedXray true).fires ip p .blockAll = true := by
    rw [fires_blockAll]
    exact decide_eq_true htype
  refine verdict_of_fires (mem_anchors_blockAll _) hall fun a _ ha => ?_
  cases hva : a.verdict with
  | reject => rfl
  | accept => exact absurd (exempt_of_fires rfl hlo htun hva ha) hexempt

theorem enableKillSwitch_full_tunnel_sample :
    (Linux.enableKillSwitch sampleConfig (run false [])).1 = true ∧ splitTunnelType sampleConfig = 0 ∧
      loopbackInterface.covers samplePacket.outInterface = false ∧
      tunnelInterfaces.any (·.covers samplePacket.outInterface) = false ∧
      (Accepts numericIptables (Linux.enableKillSwitch sampleConfig (run false [])).2.tables samplePacket →
        Exempt numericIptables sampleConfig samplePacket) :=
  ⟨sampleConfig_accepted, by decide, by decide, by decide,
    (enableKillSwitch_full_tunnel false [] sampleConfig_accepted (.inl (by decide)) samplePacket (by decide)
      (by decide)).1⟩

/-- In the IPv6 table the anchor that blocks DNS stays off, and the one for local networks comes before the block of
all IPv6 traffic. -/
theorem enableKillSwitch_dns_rejected_iff (h : (Linux.enableKillSwitch config (run strict calls)).1 = true)
    (p : Packet) (hprotocol : p.protocol = .udp ∨ p.protocol = .tcp) (hport : p.dport = 53)
    (hlo : loopbackInterface.covers p.outInterface = false)
    (htun : tunnelInterfaces.any (·.covers p.outInterface) = false) :
    verdict ip (Linux.enableKillSwitch config (run strict calls)).2.tables p = some .reject ↔
      ¬ (p.destination.family = .ipv6 ∧ ∃ n ∈ lanNets .ipv6, n.contains p.destination) := by
  obtain ⟨v, hu, hv⟩ := enableKillSwitch_view strict calls h
  rw [hv, verdict_view]
  generalize hw : (v.tunnelled (firewallParams config)).set .both .allowMarkedXray true = w
  have hloopback : w.fires ip p .allowLoopback = false := by rw [fires_allowLoopback, hlo, Bool.and_false]
  cases hf : p.destination.family with
  | ipv4 =>
    have hallow : w.fires ip p .allowDNS = false := by
      by_contra hfires
      have := (fires_allowDNS (Bool.not_eq_false _ ▸ hfires)).2.2
      exact Bool.false_ne_true (htun.symm.trans this)
    have hblock : w.fires ip p .blockDNS = true := by
      rw [fires_blockDNS, hf, ← hw]
      simp [View.set, View.tunnelled, hprotocol, hport]
    simp [anchors, hloopback, hallow, hblock, Anchor.verdict]
  | ipv6 =>
    have hdns : w.fires ip p .blockDNS = false := by
      rw [fires_blockDNS, hf, ← hw]
      simp [View.set, View.tunnelled, hu.1]
    have hlan : w.fires ip p .allowLAN = (lanNets .ipv6).any (·.contains p.destination) := by
      rw [fires_allowLAN, hf, ← hw]
      simp [View.set, View.tunnelled]
    have hdhcp : w.fires ip p .allowDHCP = false := by
      rw [fires_allowDHCP, hf]
      simp [Match.holds, dhcpMatch, hport]
    have hblock : w.fires ip p .blockIPv6 = true := by
      rw [fires_blockIPv6, hf, ← hw, hlo]
      simp [View.set, View.tunnelled]
    rw [← List.any_eq_true, ← hlan]
    cases hfires : w.fires ip p .allowLAN <;>
      simp [anchors, hloopback, hdns, hdhcp, hblock, hfires, Anchor.verdict]

theorem enableKillSwitch_dns_rejected_sample :
    (Linux.enableKillSwitch sampleConfig (run false [])).1 = true ∧
      (verdict numericIptables (Linux.enableKillSwitch sampleConfig (run false [])).2.tables samplePacket =
          some .reject ↔
        ¬ (samplePacket.destination.family = .ipv6 ∧
          ∃ n ∈ lanNets .ipv6, n.contains samplePacket.destination)) :=
  ⟨sampleConfig_accepted, enableKillSwitch_dns_rejected_iff false [] sampleConfig_accepted samplePacket
    (.inl rfl) rfl (by decide) (by decide)⟩

/-- A link-local DNS server is asked outside the tunnel. -/
theorem enableKillSwitch_link_local_dns :
    (Linux.enableKillSwitch sampleConfig (run false [])).1 = true ∧ samplePacket.protocol = .udp ∧
      samplePacket.dport = 53 ∧ loopbackInterface.covers samplePacket.outInterface = false ∧
      tunnelInterfaces.any (·.covers samplePacket.outInterface) = false ∧ samplePacket.mark ≠ xrayTrafficMark ∧
      verdict numericIptables (Linux.enableKillSwitch sampleConfig (run false [])).2.tables samplePacket =
        some .accept := by
  refine ⟨sampleConfig_accepted, rfl, rfl, by decide, by decide, by decide, ?_⟩
  decide +kernel

theorem table_tunnelled {v w : View} (hv : v.Untouched) (hw : w.Untouched) (params : FirewallParams) :
    ((v.tunnelled params).set .both .allowMarkedXray true).table =
      ((w.tunnelled params).set .both .allowMarkedXray true).table := by
  funext family chain
  cases chain with
  | output | root | actual a => rfl
  | anchor a =>
    cases family with
    | ipv4 => cases a <;> rfl
    | ipv6 =>
      -- two anchors are not set from `params`
      obtain ⟨hdns, hvpn⟩ := hv
      obtain ⟨hdns', hvpn'⟩ := hw
      cases a <;> simp [View.table, View.set, View.tunnelled, IPVersion.covers, anchors, hdns, hvpn, hdns', hvpn']

/-- The chains depend on the configuration alone, not on what was called before. -/
theorem enableKillSwitch_forgets (config : JsonObject) :
    (Linux.enableKillSwitch config (run strict calls)).2.tables =
      if isAccepted config then (Linux.enableKillSwitch config (run false [])).2.tables
      else (run strict calls).tables := by
  split
  next hc =>
    obtain ⟨o, ho⟩ := exists_tracked strict calls
    obtain ⟨o', ho'⟩ := exists_tracked false []
    rw [enableKillSwitch_tables ho.tables hc, enableKillSwitch_tables ho'.tables hc]
    exact table_tunnelled (View.untouched_getD ho.untouched) (View.untouched_getD ho'.untouched) _
  next hc => simp [Linux.enableKillSwitch, Action.branch, hc]

end EnableKillSwitch

section Strict

def Locked (v : View) : Prop :=
  ∀ family, ∀ a ∈ anchors family, v.enabled family a = decide (a = .allowLoopback ∨ a = .blockAll ∨ a = .blockIPv6)

theorem locked_standby {v : View} (h : v.Untouched) : Locked v.standby := by
  intro family a ha
  cases family with
  | ipv4 =>
    revert ha a
    simp [anchors, View.standby, View.set, IPVersion.covers]
  | ipv6 =>
    revert ha a
    simp [anchors, View.standby, View.set, IPVersion.covers, h.1, h.2]

theorem Locked.lockdown {v : View} (h : Locked v) : Locked v.lockdown := by
  intro family a ha
  have hv := h family a ha
  cases a <;> simp_all [View.lockdown, View.set, IPVersion.covers]

theorem locked_fresh : Locked View.fresh.lockdown := by
  intro family a ha
  cases family <;> revert a <;> decide

theorem Locked.verdict {ip : Iptables} {v : View} (h : Locked v) (p : Packet) :
    verdict ip v.table p = some (if loopbackInterface.covers p.outInterface then .accept else .reject) := by
  split
  next hlo =>
    -- the anchor for loopback is the first of both tables
    have hfires : v.fires ip p .allowLoopback = true := by
      rw [fires_allowLoopback, hlo, Bool.and_true]
      exact h _ _ (by cases p.destination.family <;> decide)
    rw [verdict_view]
    cases p.destination.family <;> simp [anchors, hfires, Anchor.verdict]
  next hlo =>
    have hall : v.fires ip p .blockAll = true := by
      rw [fires_blockAll]
      exact h _ _ (mem_anchors_blockAll _)
    refine verdict_of_fires (mem_anchors_blockAll _) hall fun a ha hfires => ?_
    have hon : a = .allowLoopback ∨ a = .blockAll ∨ a = .blockIPv6 := by
      by_contra hoff
      rw [fires_of_disabled ((h _ a ha).trans (decide_eq_false hoff))] at hfires
      exact Bool.false_ne_true hfires
    obtain rfl | rfl | rfl := hon
    · rw [fires_allowLoopback, Bool.eq_false_iff.mpr hlo, Bool.and_false] at hfires
      exact absurd hfires Bool.false_ne_true
    · rfl
    · rfl

def Call.opensTraffic : Call → Bool
  | .enableKillSwitch _ | .applyFirewallRules _ | .addAllowedRange _ | .resetAllowedRange _ => true
  | _ => false

/-- `refresh(false)` calls `disableKillSwitch` too. -/
def Call.endsSession : Call → Bool
  | .disableKillSwitch | .refresh false => true
  | _ => false

/-- The VPN is down: nothing was let out since the start of the service or the end of the last session. -/
def Quiet (calls : List Call) : Prop :=
  ∃ before after, calls = before ++ after ∧ (∀ c ∈ after, c.opensTraffic = false) ∧
    (before = [] ∨ ∃ earlier c, before = earlier ++ [c] ∧ c.endsSession = true)

/-- With the VPN down the chains are locked in strict mode, and absent otherwise. -/
def Idle (strict : Bool) (o : Option View) : Prop := if strict then ∃ v, o = some v ∧ Locked v else o = none

variable {o : Option View}

theorem Idle.lockdown {strict : Bool} (h : Idle strict o) : Locked (o.getD .fresh).lockdown := by
  cases strict with
  | false =>
    obtain rfl : o = none := h
    exact locked_fresh
  | true =>
    obtain ⟨v, rfl, hv⟩ := h
    exact hv.lockdown

theorem idle_ends {s : State} (h : Tracked s o) {call : Call} (hc : call.endsSession = true) :
    Idle (step s call).strictKillSwitchEnabled (viewStep s o call) := by
  rw [step_strict]
  cases call with
  | disableKillSwitch =>
    change Idle s.strictKillSwitchEnabled (if s.strictKillSwitchEnabled then o.map View.standby else none)
    cases hs : s.strictKillSwitchEnabled with
    | false => rfl
    | true =>
      obtain ⟨v, rfl⟩ := Option.isSome_iff_exists.mp (h.installed hs)
      exact ⟨_, rfl, locked_standby (h.untouched v rfl)⟩
  | refresh enabled =>
    cases enabled with
    | false => rfl
    | true => exact absurd hc Bool.false_ne_true
  | init | enableKillSwitch config | addAllowedRange ranges | resetAllowedRange ranges | applyFirewallRules params =>
    exact absurd hc Bool.false_ne_true

theorem Idle.step {s : State} (ht : Tracked s o) (h : Idle s.strictKillSwitchEnabled o) {call : Call}
    (hc : call.opensTraffic = false) : Idle (step s call).strictKillSwitchEnabled (viewStep s o call) := by
  cases call with
  | init =>
    rw [step_strict]
    change Idle s.strictKillSwitchEnabled (if s.strictKillSwitchEnabled then some (o.getD .fresh).lockdown else o)
    cases hs : s.strictKillSwitchEnabled with
    | false => rwa [hs] at h
    | true => exact ⟨_, rfl, h.lockdown⟩
  | refresh enabled =>
    cases enabled with
    | false => exact idle_ends ht rfl
    | true =>
      rw [step_strict]
      exact ⟨_, rfl, h.lockdown⟩
  | disableKillSwitch => exact idle_ends ht rfl
  | enableKillSwitch config | addAllowedRange ranges | resetAllowedRange ranges | applyFirewallRules params =>
    exact absurd hc.symm Bool.false_ne_true

theorem idle_start (strict : Bool) :
    Idle (start strict).strictKillSwitchEnabled (viewStep ⟨fun _ => absent, strict, []⟩ none .init) := by
  cases strict with
  | false => rfl
  | true => exact ⟨_, rfl, locked_fresh⟩

theorem idle_foldl {s : State} (ht : Tracked s o) (h : Idle s.strictKillSwitchEnabled o)
    {calls : List Call} (hc : ∀ c ∈ calls, c.opensTraffic = false) :
    ∃ o', Tracked (calls.foldl Linux.step s) o' ∧ Idle (calls.foldl Linux.step s).strictKillSwitchEnabled o' := by
  induction calls generalizing s o with
  | nil => exact ⟨o, ht, h⟩
  | cons call calls ih =>
    exact ih (ht.step call) (h.step ht (hc call (.head _))) fun c hmem => hc c (.tail _ hmem)

theorem idle_of_quiet (strict : Bool) {calls : List Call} (hq : Quiet calls) :
    ∃ o, Tracked (run strict calls) o ∧ Idle (run strict calls).strictKillSwitchEnabled o := by
  obtain ⟨before, after, rfl, hafter, rfl | ⟨earlier, c, rfl, hc⟩⟩ := hq
  · exact idle_foldl (tracked_start strict) (idle_start strict) hafter
  · obtain ⟨o, ho⟩ := exists_tracked strict earlier
    rw [run, List.foldl_append, List.foldl_append]
    exact idle_foldl (ho.step c) (idle_ends ho hc) hafter

theorem strict_accepts_iff_loopback (ip : Iptables) (strict : Bool) (calls : List Call)
    (hstrict : (run strict calls).strictKillSwitchEnabled = true) (hq : Quiet calls) (p : Packet) :
    Accepts ip (run strict calls).tables p ↔ loopbackInterface.covers p.outInterface = true := by
  obtain ⟨o, ho, hidle⟩ := idle_of_quiet strict hq
  rw [hstrict] at hidle
  obtain ⟨v, rfl, hv⟩ := hidle
  rw [Accepts, ho.tables, tablesOf, hv.verdict]
  cases loopbackInterface.covers p.outInterface <;> decide

/-- Strict mode is switched on while the VPN runs, which is then disconnected. -/
theorem strict_accepts_iff_loopback_sample :
    (run false [.enableKillSwitch sampleConfig, .refresh true, .disableKillSwitch, .init]).strictKillSwitchEnabled =
        true ∧
      (Accepts numericIptables
          (run false [.enableKillSwitch sampleConfig, .refresh true, .disableKillSwitch, .init]).tables samplePacket ↔
        loopbackInterface.covers samplePacket.outInterface = true) := by
  have hquiet : Quiet [.enableKillSwitch sampleConfig, .refresh true, .disableKillSwitch, .init] := by
    refine ⟨[.enableKillSwitch sampleConfig, .refresh true, .disableKillSwitch], [.init], rfl, ?_, .inr ?_⟩
    · intro c hc
      obtain rfl := List.mem_singleton.mp hc
      rfl
    · exact ⟨[.enableKillSwitch sampleConfig, .refresh true], .disableKillSwitch, rfl, rfl⟩
  exact ⟨rfl, strict_accepts_iff_loopback numericIptables false _ rfl hquiet samplePacket⟩

/-- With the VPN down and strict mode off, nothing of the firewall is left. -/
theorem idle_without_chains (strict : Bool) {calls : List Call}
    (hstrict : (run strict calls).strictKillSwitchEnabled = false) (hq : Quiet calls) :
    (run strict calls).tables = fun _ => absent := by
  obtain ⟨o, ho, hidle⟩ := idle_of_quiet strict hq
  rw [hstrict] at hidle
  rw [ho.tables, show o = none from hidle, tablesOf]

theorem idle_without_chains_sample :
    (run false [.enableKillSwitch sampleConfig, .disableKillSwitch]).tables = fun _ => absent :=
  idle_without_chains false rfl ⟨_, [], rfl, nofun, .inr ⟨[_], _, rfl, rfl⟩⟩

end Strict

end TunnelCore.KillSwitch.Linux
