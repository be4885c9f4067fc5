import TunnelCore.KillSwitch.LinuxFirewall

namespace TunnelCore.LinuxFirewall

open Chains

/-- The installed firewall without its chains: which anchors are on in which table, and the three lists that the
calls replace. -/
structure View where
  enabled : Family → Anchor → Bool
  dnsServers : List String
  allowNets : List String
  blockNets : List String

def anchors : Family → List Anchor
  | .ipv4 => [.allowLoopback, .allowDNS, .blockDNS, .allowLAN, .allowDHCP, .allowVPN, .allowMarkedXray, .blockNets,
      .allowNets, .allowPIA, .blockAll]
  | .ipv6 => [.allowLoopback, .blockDNS, .allowLAN, .allowDHCP, .blockIPv6, .allowVPN, .allowMarkedXray, .allowPIA,
      .blockAll]

namespace View

variable (v : View)

def rules (family : Family) : Anchor → List (Match × Verdict)
  | .allowLoopback => [({ outInterface := some loopbackInterface }, .accept)]
  | .allowDNS => dnsRules v.dnsServers
  | .blockDNS => [({ protocol := some .udp, dport := some 53 }, .reject),
      ({ protocol := some .tcp, dport := some 53 }, .reject)]
  | .allowLAN => lanRules family
  | .allowDHCP => [(dhcpMatch family, .accept)]
  | .blockIPv6 => [({ outInterface := some { loopbackInterface with inverted := true } }, .reject)]
  | .allowVPN => tunnelInterfaces.map fun i => ({ outInterface := some i }, .accept)
  | .allowMarkedXray => [({ mark := some xrayTrafficMark }, .accept)]
  | .blockNets => netRules v.blockNets .reject
  | .allowNets => netRules v.allowNets .accept
  | .allowPIA => []
  | .blockAll => [({}, .reject)]

def table (family : Family) : FilterTable
  | .output => some [jumpTo .root]
  | .root => some ((anchors family).map fun a => jumpTo (.anchor a))
  | .anchor a =>
    if a ∈ anchors family then some (if v.enabled family a then [jumpTo (.actual a)] else []) else none
  | .actual a => if a ∈ anchors family then some ((v.rules family a).map verdictRule) else none

def set (ip : IPVersion) (a : Anchor) (enabled : Bool) : View :=
  { v with enabled := fun family b => if ip.covers family ∧ b = a then enabled else v.enabled family b }

end View

def View.fresh : View := ⟨fun _ _ => false, [], [], []⟩

def tablesOf : Option View → Tables
  | none => fun _ => absent
  | some v => v.table

theorem on_apply (ip : IPVersion) (f : FilterTable → FilterTable) (s : Tables) (family : Family) :
    on ip f s family = if ip.covers family then f (s family) else s family := rfl

theorem appendRules_flush (chain : Chain) (rules : List (Match × Verdict)) (t : FilterTable) :
    appendRules chain rules (flush chain t) = modify chain (fun _ => rules.map verdictRule) t := by
  have h : (rules.map verdictRule).foldl (fun t r => append chain r t) (flush chain t) =
      modify chain (· ++ rules.map verdictRule) (flush chain t) := foldl_append _
  rw [List.foldl_map] at h
  rw [appendRules, h]
  funext c
  by_cases hc : c = chain
  · subst hc
    simp [flush, Function.comp_def]
  · rw [modify_of_ne hc, modify_of_ne hc, flush, modify_of_ne hc]

theorem isInstalled_tablesOf (o : Option View) : isInstalled (tablesOf o) = o.isSome := by
  cases o with
  | none => rfl
  | some v => rfl

theorem uninstall_tablesOf (o : Option View) : uninstall (tablesOf o) = tablesOf none := by
  funext family c
  cases o with
  | none | some v =>
    cases c with
    | output | root => cases family <;> rfl
    | anchor a | actual a => cases family <;> cases a <;> rfl

set_option maxRecDepth 2000 in
theorem install_absent : install (tablesOf none) = tablesOf (some .fresh) := by
  funext family c
  cases c with
  | output | root => cases family <;> rfl
  | anchor a | actual a => cases family <;> cases a <;> rfl

theorem ensure_installed (o : Option View) :
    (if isInstalled (tablesOf o) then tablesOf o else install (tablesOf o)) = (o.getD .fresh).table := by
  rw [isInstalled_tablesOf]
  cases o with
  | none => exact install_absent
  | some v => rfl

theorem ensureRootAnchorPriority_view (v : View) : ensureRootAnchorPriority v.table = v.table := by
  funext family c
  rw [ensureRootAnchorPriority, linkChain, on_apply]
  split
  · by_cases hc : c = .output
    · subst hc
      rfl
    · rw [modify_of_ne hc]
  · rfl

theorem on_modify_absent (ip : IPVersion) {chain : Chain} (hc : chain ≠ .output)
    (f : List (Rule Chain Match) → List (Rule Chain Match)) : on ip (modify chain f) (tablesOf none) = tablesOf none := by
  have hnone : absent chain = none := by
    cases chain with
    | output => exact absurd rfl hc
    | root | anchor a | actual a => rfl
  funext family c
  rw [on_apply]
  split
  · by_cases h : c = chain
    · subst h
      rw [modify_same]
      change (absent c).map f = absent c
      rw [hnone]
      rfl
    · exact modify_of_ne h f
  · rfl

theorem setAnchorEnabled_absent (ip : IPVersion) (a : Anchor) (enabled : Bool) :
    setAnchorEnabled ip a enabled (tablesOf none) = tablesOf none := by
  cases enabled <;> exact on_modify_absent ip Chain.noConfusion _

theorem on_modify_anchor (v : View) (ip : IPVersion) (a : Anchor) (enabled : Bool)
    {f : List (Rule Chain Match) → List (Rule Chain Match)}
    (hf : ∀ b : Bool, f (if b then [jumpTo (.actual a)] else []) = if enabled then [jumpTo (.actual a)] else []) :
    on ip (modify (.anchor a) f) v.table = (v.set ip a enabled).table := by
  funext family c
  rw [on_apply]
  cases c with
  | output => split <;> rfl
  | root => split <;> rfl
  | actual b => split <;> rfl
  | anchor b =>
    by_cases hb : b = a
    · subst hb
      by_cases hip : ip.covers family
      · rw [if_pos hip, modify_same]
        simp only [View.table, View.set, hip, true_and, if_true]
        split
        · rw [Option.map_some, hf]
        · rfl
      · rw [if_neg hip]
        simp [View.table, View.set, hip]
    · have hne : Chain.anchor b ≠ .anchor a := fun h => hb (Chain.anchor.inj h)
      have hsame : (v.set ip a enabled).table family (.anchor b) = v.table family (.anchor b) := by
        simp [View.table, View.set, hb]
      rw [hsame]
      split
      · exact modify_of_ne hne f
      · rfl

theorem setAnchorEnabled_view (v : View) (ip : IPVersion) (a : Anchor) (enabled : Bool) :
    setAnchorEnabled ip a enabled v.table = (v.set ip a enabled).table := by
  cases enabled with
  | false =>
    refine on_modify_anchor v ip a false fun b => ?_
    cases b <;> simp
  | true =>
    refine on_modify_anchor v ip a true fun b => ?_
    cases b <;> simp

theorem on_replace_actual {v w : View} {a : Anchor} {rules : List (Match × Verdict)} (h4 : a ∈ anchors .ipv4)
    (h6 : a ∉ anchors .ipv6) (he : w.enabled = v.enabled) (ha : w.rules .ipv4 a = rules)
    (hother : ∀ family b, b ≠ a → w.rules family b = v.rules family b) :
    on .ipv4 (fun t => appendRules (.actual a) rules (flush (.actual a) t)) v.table = w.table := by
  funext family c
  rw [on_apply, appendRules_flush]
  cases c with
  | output => split <;> rfl
  | root => split <;> rfl
  | anchor b => split <;> simp [modify_of_ne, View.table, he]
  | actual b =>
    by_cases hb : b = a
    · subst hb
      cases family with
      | ipv4 =>
        rw [IPVersion.covers, if_pos rfl, modify_same]
        simp only [View.table, if_pos h4, ha, Option.map_some]
      | ipv6 =>
        change v.table .ipv6 (.actual b) = w.table .ipv6 (.actual b)
        simp only [View.table, if_neg h6]
    · have hne : Chain.actual b ≠ .actual a := fun h => hb (Chain.actual.inj h)
      have hsame : w.table family (.actual b) = v.table family (.actual b) := by
        simp only [View.table, hother family b hb]
      rw [hsame]
      split
      · exact modify_of_ne hne _
      · rfl

theorem updateDNSServers_view (v : View) (servers : List String) :
    updateDNSServers servers v.table = View.table { v with dnsServers := servers } := by
  refine on_replace_actual (by decide) (by decide) rfl rfl fun family b hb => ?_
  cases b with
  | allowDNS => exact absurd rfl hb
  | _ => rfl

theorem updateAllowNets_view (v : View) (servers : List String) :
    updateAllowNets servers v.table = View.table { v with allowNets := servers } := by
  refine on_replace_actual (by decide) (by decide) rfl rfl fun family b hb => ?_
  cases b with
  | allowNets => exact absurd rfl hb
  | _ => rfl

theorem updateBlockNets_view (v : View) (servers : List String) :
    updateBlockNets servers v.table = View.table { v with blockNets := servers } := by
  refine on_replace_actual (by decide) (by decide) rfl rfl fun family b hb => ?_
  cases b with
  | blockNets => exact absurd rfl hb
  | _ => rfl

theorem updateAllowNets_absent (servers : List String) : updateAllowNets servers (tablesOf none) = tablesOf none := by
  rw [updateAllowNets]
  simp only [appendRules_flush]
  exact on_modify_absent _ Chain.noConfusion _

def Anchor.verdict : Anchor → Verdict
  | .blockAll | .blockNets | .blockIPv6 | .blockDNS => .reject
  | _ => .accept

theorem rules_verdict (v : View) (family : Family) (a : Anchor) : ∀ r ∈ v.rules family a, r.2 = a.verdict := by
  intro r hr
  cases a with
  | allowDNS =>
    simp only [View.rules, dnsRules, List.mem_flatMap, List.mem_map] at hr
    obtain ⟨server, -, i, -, protocol, -, rfl⟩ := hr
    rfl
  | allowLAN | allowVPN | allowNets | blockNets =>
    obtain ⟨x, -, rfl⟩ := List.mem_map.mp hr
    rfl
  | allowLoopback | allowDHCP | blockIPv6 | allowMarkedXray | blockAll =>
    obtain rfl := List.mem_singleton.mp hr
    rfl
  | allowPIA => exact absurd hr List.not_mem_nil
  | blockDNS =>
    obtain rfl | hr := List.mem_cons.mp hr
    · rfl
    · obtain rfl := List.mem_singleton.mp hr
      rfl

section Verdict

variable (ip : Iptables) (v : View) (p : Packet)

def View.fires (a : Anchor) : Bool :=
  v.enabled p.destination.family a && (v.rules p.destination.family a).any fun r => r.1.holds ip p

theorem holds_always : Match.holds ip {} p = true := rfl

variable {a : Anchor}

theorem traverse_anchor (ha : a ∈ anchors p.destination.family) :
    traverse (Match.holds ip) (v.table p.destination.family) 2 (.anchor a) p =
      if v.fires ip p a then some a.verdict else none := by
  by_cases he : v.enabled p.destination.family a
  · have hcalls : v.table p.destination.family (.anchor a) = some ([Chain.actual a].map jumpTo) := by
      simp only [View.table, if_pos ha, if_pos he, List.map_cons, List.map_nil]
    have hrules : v.table p.destination.family (.actual a) =
        some ((v.rules p.destination.family a).map verdictRule) := if_pos ha
    rw [traverse_calls (holds_always ip p) hcalls, List.findSome?_singleton, View.fires, he, Bool.true_and,
      ← firstMatch_const (rules_verdict v _ a)]
    exact traverse_rules hrules 0
  · have hempty : v.table p.destination.family (.anchor a) = some [] := by
      simp only [View.table, if_pos ha, if_neg he]
    rw [Chains.traverse, hempty, View.fires, Bool.eq_false_iff.mpr he]
    rfl

theorem verdict_view :
    verdict ip v.table p = ((anchors p.destination.family).find? (v.fires ip p)).map Anchor.verdict := by
  have hroot : v.table p.destination.family .root =
      some (((anchors p.destination.family).map Chain.anchor).map jumpTo) := by
    rw [List.map_map]
    rfl
  have houtput : v.table p.destination.family .output = some ([Chain.root].map jumpTo) := rfl
  rw [verdict, traverse_calls (holds_always ip p) houtput, List.findSome?_singleton,
    traverse_calls (holds_always ip p) hroot, List.findSome?_map, ← findSome?_guard]
  apply findSome?_congr
  intro a ha
  exact traverse_anchor ip v p ha

variable {ip v p}

theorem verdict_of_fires (ha : a ∈ anchors p.destination.family) (hfires : v.fires ip p a = true)
    {d : Verdict} (h : ∀ b ∈ anchors p.destination.family, v.fires ip p b = true → b.verdict = d) :
    verdict ip v.table p = some d := by
  rw [verdict_view]
  cases hfind : (anchors p.destination.family).find? (v.fires ip p) with
  | none => exact absurd hfires (List.find?_eq_none.mp hfind a ha)
  | some b => exact congrArg some (h b (List.mem_of_find?_eq_some hfind) (List.find?_some hfind))

theorem mem_anchors_blockAll (family : Family) : Anchor.blockAll ∈ anchors family := by cases family <;> decide

theorem fires_of_disabled (h : v.enabled p.destination.family a = false) : v.fires ip p a = false := by
  rw [View.fires, h, Bool.false_and]

theorem fires_allowLoopback :
    v.fires ip p .allowLoopback =
      (v.enabled p.destination.family .allowLoopback && loopbackInterface.covers p.outInterface) := by
  simp [View.fires, View.rules, Match.holds]

theorem fires_blockAll : v.fires ip p .blockAll = v.enabled p.destination.family .blockAll := by
  simp [View.fires, View.rules, Match.holds]

theorem fires_blockDNS :
    v.fires ip p .blockDNS =
      (v.enabled p.destination.family .blockDNS && (p.protocol = .udp ∨ p.protocol = .tcp) && p.dport = 53) := by
  simp only [View.fires, View.rules, Match.holds, List.any_cons, List.any_nil, Option.all_some, Option.all_none]
  grind

theorem fires_blockIPv6 :
    v.fires ip p .blockIPv6 =
      (v.enabled p.destination.family .blockIPv6 && !loopbackInterface.covers p.outInterface) := by
  simp [View.fires, View.rules, Match.holds, OutInterface.covers, loopbackInterface]

theorem fires_allowMarkedXray :
    v.fires ip p .allowMarkedXray =
      (v.enabled p.destination.family .allowMarkedXray && p.mark = xrayTrafficMark) := by
  simp [View.fires, View.rules, Match.holds, eq_comm]

theorem fires_allowVPN :
    v.fires ip p .allowVPN =
      (v.enabled p.destination.family .allowVPN && tunnelInterfaces.any (·.covers p.outInterface)) := by
  simp [View.fires, View.rules, Match.holds, List.any_map, Function.comp_def]

theorem fires_allowLAN :
    v.fires ip p .allowLAN =
      (v.enabled p.destination.family .allowLAN && (lanNets p.destination.family).any (·.contains p.destination)) := by
  simp [View.fires, View.rules, lanRules, Match.holds, List.any_map, Function.comp_def, Destination.contains]

theorem fires_allowDHCP :
    v.fires ip p .allowDHCP =
      (v.enabled p.destination.family .allowDHCP && (dhcpMatch p.destination.family).holds ip p) := by
  simp [View.fires, View.rules]

theorem fires_allowPIA : v.fires ip p .allowPIA = false := by simp [View.fires, View.rules]

theorem netRules_holds (servers : List String) (d : Verdict) :
    ((netRules servers d).any fun r => r.1.holds ip p) =
      servers.any fun s => (Destination.text s).contains ip p.destination := by
  simp [netRules, Match.holds, List.any_map, Function.comp_def]

theorem fires_allowNets :
    v.fires ip p .allowNets = (v.enabled p.destination.family .allowNets &&
      v.allowNets.any fun s => (Destination.text s).contains ip p.destination) := by
  rw [View.fires, View.rules, netRules_holds]

theorem fires_blockNets :
    v.fires ip p .blockNets = (v.enabled p.destination.family .blockNets &&
      v.blockNets.any fun s => (Destination.text s).contains ip p.destination) := by
  rw [View.fires, View.rules, netRules_holds]

theorem fires_allowDNS (h : v.fires ip p .allowDNS = true) :
    (p.protocol = .udp ∨ p.protocol = .tcp) ∧ p.dport = 53 ∧ tunnelInterfaces.any (·.covers p.outInterface) := by
  rw [View.fires, Bool.and_eq_true, List.any_eq_true] at h
  obtain ⟨-, r, hr, hholds⟩ := h
  simp only [View.rules, dnsRules, List.mem_flatMap, List.mem_map] at hr
  obtain ⟨server, -, i, hi, protocol, hprotocol, rfl⟩ := hr
  simp only [Match.holds, Option.all_some, Option.all_none, Bool.and_true, Bool.and_eq_true, decide_eq_true_eq]
    at hholds
  obtain ⟨⟨⟨hcovers, -⟩, rfl⟩, hport⟩ := hholds
  refine ⟨?_, hport.symm, List.any_eq_true.mpr ⟨i, hi, hcovers⟩⟩
  simpa using hprotocol

end Verdict

end TunnelCore.LinuxFirewall
