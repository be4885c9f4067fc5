import TunnelCore.KillSwitch.LinuxGuarantees
import Mathlib.Data.List.Find

namespace TunnelCore.LinuxFirewall

def destinations (a : Anchor) (s : Tables) : List String :=
  ((s .ipv4 (.actual a)).getD []).filterMap fun r =>
    match r.spec.destination with
    | some (.text text) => some text
    | _ => none

theorem isAnchorEnabled_view (v : View) {family : Family} {a : Anchor} (ha : a ∈ anchors family) :
    isAnchorEnabled family a v.table = v.enabled family a := by
  rw [isAnchorEnabled]
  simp only [View.table, if_pos ha, Option.getD_some]
  cases v.enabled family a <;> simp

theorem filterMap_netRules (servers : List String) (d : Chains.Verdict) :
    (((netRules servers d).map verdictRule).filterMap fun r =>
      match r.spec.destination with
      | some (.text text) => some text
      | _ => none) = servers := by
  rw [netRules, List.map_map, List.filterMap_map]
  exact List.filterMap_some

theorem destinations_allowNets (v : View) : destinations .allowNets v.table = v.allowNets :=
  filterMap_netRules v.allowNets .accept

theorem destinations_blockNets (v : View) : destinations .blockNets v.table = v.blockNets :=
  filterMap_netRules v.blockNets .reject

def earlierAnchors : List Anchor :=
  [.allowLoopback, .allowDNS, .blockDNS, .allowLAN, .allowDHCP, .allowVPN, .allowMarkedXray, .blockNets]

variable {ip : Iptables} {v : View} {p : Packet}

theorem accepts_ipv4_iff (hp : p.destination.family = .ipv4) :
    Accepts ip v.table p ↔
      match earlierAnchors.find? (v.fires ip p) with
      | some a => a.verdict = .accept
      | none => v.fires ip p .allowNets = true ∨ v.enabled .ipv4 .blockAll = false := by
  have hlist : anchors .ipv4 = earlierAnchors ++ [.allowNets, .allowPIA, .blockAll] := rfl
  rw [Accepts, verdict_view, hp, hlist, List.find?_append]
  cases earlierAnchors.find? (v.fires ip p) with
  | some a =>
    change some a.verdict ≠ some .reject ↔ a.verdict = .accept
    cases a.verdict <;> decide
  | none =>
    have hall : v.fires ip p .blockAll = v.enabled .ipv4 .blockAll := by rw [fires_blockAll, hp]
    cases hnets : v.fires ip p .allowNets <;> cases hblock : v.enabled .ipv4 .blockAll <;>
      simp [hnets, hall, hblock, fires_allowPIA, Anchor.verdict]

theorem fires_allowRanges {a : Anchor} (ha : a ≠ .allowNets) (ranges : List String) :
    (v.allowRanges ranges).fires ip p a = v.fires ip p a := by
  have henabled : (v.allowRanges ranges).enabled p.destination.family a = v.enabled p.destination.family a := by
    simp [View.allowRanges, View.set, ha]
  have hrules : (v.allowRanges ranges).rules p.destination.family a = v.rules p.destination.family a := by
    cases a with
    | allowNets => exact absurd rfl ha
    | _ => rfl
  rw [View.fires, View.fires, henabled, hrules]

theorem verdict_allowRanges_ipv6 (hp : p.destination.family = .ipv6) (ranges : List String) :
    verdict ip (v.allowRanges ranges).table p = verdict ip v.table p := by
  rw [verdict_view, verdict_view]
  congr 1
  apply List.find?_congr
  intro a ha
  apply fires_allowRanges
  rintro rfl
  rw [hp] at ha
  exact absurd ha (by decide)

/-- A packet that no anchor before `allowNets` decides, unless its destination does. -/
def plainPacket (a : BitVec 32) : Packet := { destination := .ipv4 a, outInterface := "eth0" }

variable {a : BitVec 32}

theorem plainPacket_earlier
    (hlan : ¬ (v.enabled .ipv4 .allowLAN = true ∧ ∃ n ∈ lanNets .ipv4, n.contains (.ipv4 a) = true))
    (hblock : ¬ (v.enabled .ipv4 .blockNets = true ∧ ∃ d ∈ v.blockNets, ip.addresses d a = true)) :
    earlierAnchors.find? (v.fires ip (plainPacket a)) = none := by
  rw [List.find?_eq_none]
  intro b hb hfires
  cases b with
  | allowLoopback =>
    have hlo : loopbackInterface.covers "eth0" = false := by decide
    rw [fires_allowLoopback, Bool.and_eq_true] at hfires
    exact Bool.false_ne_true (hlo.symm.trans hfires.2)
  | allowDNS =>
    obtain hudp | htcp := (fires_allowDNS hfires).1
    · cases hudp
    · cases htcp
  | blockDNS =>
    rw [fires_blockDNS, Bool.and_eq_true] at hfires
    exact absurd hfires.2 Bool.false_ne_true
  | allowLAN =>
    rw [fires_allowLAN, Bool.and_eq_true, List.any_eq_true] at hfires
    exact hlan hfires
  | allowDHCP =>
    rw [fires_allowDHCP, Bool.and_eq_true] at hfires
    simp [Match.holds, dhcpMatch, plainPacket, Address.family] at hfires
  | allowVPN =>
    have htun : tunnelInterfaces.any (·.covers "eth0") = false := by decide
    rw [fires_allowVPN, Bool.and_eq_true] at hfires
    exact Bool.false_ne_true (htun.symm.trans hfires.2)
  | allowMarkedXray =>
    rw [fires_allowMarkedXray, Bool.and_eq_true] at hfires
    exact absurd hfires.2 Bool.false_ne_true
  | blockNets =>
    rw [fires_blockNets, Bool.and_eq_true, List.any_eq_true] at hfires
    exact hblock hfires
  | blockAll | allowNets | blockIPv6 | allowPIA => exact absurd hb (by decide)

theorem earlier_allowRanges (ranges : List String) (p : Packet) :
    earlierAnchors.find? ((v.allowRanges ranges).fires ip p) = earlierAnchors.find? (v.fires ip p) := by
  apply List.find?_congr
  intro b hb
  apply fires_allowRanges
  rintro rfl
  exact absurd hb (by decide)

theorem fires_allowNets_ipv4_iff (hp : p.destination = .ipv4 a) :
    v.fires ip p .allowNets = true ↔
      v.enabled .ipv4 .allowNets = true ∧ ∃ d ∈ v.allowNets, ip.addresses d a = true := by
  rw [fires_allowNets, Bool.and_eq_true, List.any_eq_true, hp]
  rfl

theorem accepts_plainPacket_iff
    (hnone : earlierAnchors.find? (v.fires ip (plainPacket a)) = none) (hall : v.enabled .ipv4 .blockAll = true) :
    Accepts ip v.table (plainPacket a) ↔
      v.enabled .ipv4 .allowNets = true ∧ ∃ d ∈ v.allowNets, ip.addresses d a = true := by
  rw [accepts_ipv4_iff rfl, hnone, ← fires_allowNets_ipv4_iff (p := plainPacket a) rfl, hall]
  exact or_iff_left Bool.noConfusion

theorem not_earlier_of_find?_none (hp : p.destination = .ipv4 a) (hfind : earlierAnchors.find? (v.fires ip p) = none) :
    ¬ (v.enabled .ipv4 .allowLAN = true ∧ ∃ n ∈ lanNets .ipv4, n.contains (.ipv4 a) = true) ∧
      ¬ (v.enabled .ipv4 .blockNets = true ∧ ∃ d ∈ v.blockNets, ip.addresses d a = true) := by
  have hlan := List.find?_eq_none.mp hfind .allowLAN (by decide)
  have hblock := List.find?_eq_none.mp hfind .blockNets (by decide)
  rw [fires_allowLAN, Bool.and_eq_true, List.any_eq_true, hp] at hlan
  rw [fires_blockNets, Bool.and_eq_true, List.any_eq_true, hp] at hblock
  exact ⟨hlan, hblock⟩

theorem allowRanges_keeps_iff (ranges : List String) :
    (∀ p, Accepts ip v.table p → Accepts ip (v.allowRanges ranges).table p) ↔
      (v.enabled .ipv4 .allowNets = true → v.enabled .ipv4 .blockAll = true → ∀ d ∈ v.allowNets, ∀ a,
        ip.addresses d a = true → (∃ r ∈ ranges, ip.addresses r a = true) ∨
          (v.enabled .ipv4 .allowLAN = true ∧ ∃ n ∈ lanNets .ipv4, n.contains (.ipv4 a) = true) ∨
          (v.enabled .ipv4 .blockNets = true ∧ ∃ d ∈ v.blockNets, ip.addresses d a = true)) := by
  constructor
  · intro h hnets hall d hd a ha
    by_contra hno
    rw [not_or, not_or] at hno
    obtain ⟨hranges, hlan, hblock⟩ := hno
    have hnone := plainPacket_earlier hlan hblock
    have hafter := h _ ((accepts_plainPacket_iff hnone hall).mpr ⟨hnets, d, hd, ha⟩)
    rw [accepts_plainPacket_iff ((earlier_allowRanges ranges _).trans hnone) hall] at hafter
    exact hranges hafter.2
  · intro h p hp
    cases hdest : p.destination with
    | ipv6 a =>
      rw [Accepts, verdict_allowRanges_ipv6 (by rw [hdest]; rfl)]
      exact hp
    | ipv4 a =>
      have hfamily : p.destination.family = .ipv4 := by rw [hdest]; rfl
      rw [accepts_ipv4_iff hfamily] at hp ⊢
      rw [earlier_allowRanges]
      cases hfind : earlierAnchors.find? (v.fires ip p) with
      | some b =>
        rw [hfind] at hp
        exact hp
      | none =>
        rw [hfind] at hp
        obtain hfires | hoff := hp
        · by_cases hall : v.enabled .ipv4 .blockAll = true
          · obtain ⟨hnets, d, hd, ha⟩ := (fires_allowNets_ipv4_iff hdest).mp hfires
            obtain ⟨hlan, hblock⟩ := not_earlier_of_find?_none hdest hfind
            have hr := (h hnets hall d hd a ha).resolve_right (not_or.mpr ⟨hlan, hblock⟩)
            exact .inl ((fires_allowNets_ipv4_iff hdest).mpr ⟨rfl, hr⟩)
          · exact .inr (Bool.eq_false_iff.mpr hall)
        · exact .inr hoff

end TunnelCore.LinuxFirewall

namespace TunnelCore.KillSwitch.Linux

open LinuxFirewall

theorem addAllowedRange_keeps_accepted_iff (ip : Iptables) (strict : Bool) (calls : List Call) {ranges : List String}
    (hv : ranges.all isValidIpOrCidr = true) :
    (∀ p, Accepts ip (run strict calls).tables p →
        Accepts ip (step (run strict calls) (.addAllowedRange ranges)).tables p) ↔
      (isAnchorEnabled .ipv4 .allowNets (run strict calls).tables = true →
        isAnchorEnabled .ipv4 .blockAll (run strict calls).tables = true →
        ∀ d ∈ destinations .allowNets (run strict calls).tables, ∀ a, ip.addresses d a = true →
          (∃ r ∈ (run strict calls).allowedRanges ++ ranges, ip.addresses r a = true) ∨
          (isAnchorEnabled .ipv4 .allowLAN (run strict calls).tables = true ∧
            ∃ n ∈ lanNets .ipv4, n.contains (.ipv4 a) = true) ∨
          (isAnchorEnabled .ipv4 .blockNets (run strict calls).tables = true ∧
            ∃ d ∈ destinations .blockNets (run strict calls).tables, ip.addresses d a = true)) := by
  obtain ⟨o, ho⟩ := exists_tracked strict calls
  have hstep := (ho.step (.addAllowedRange ranges)).tables
  rw [viewStep, if_pos hv] at hstep
  rw [hstep, ho.tables]
  cases o with
  | none =>
    constructor
    · intro _ hoff
      exact absurd hoff (by decide)
    · intro _ p hp
      exact hp
  | some v =>
    simp only [Option.map_some, tablesOf]
    rw [allowRanges_keeps_iff, destinations_allowNets, destinations_blockNets, isAnchorEnabled_view v (by decide),
      isAnchorEnabled_view v (by decide), isAnchorEnabled_view v (by decide), isAnchorEnabled_view v (by decide)]
    simp only [mem_appendRanges_of_valid hv, List.mem_append]

/-- The server stays reachable once it is among the ranges. -/
theorem addAllowedRange_keeps_accepted_sample :
    ["198.51.100.7"].all isValidIpOrCidr = true ∧
      ∀ p, Accepts numericIptables
          (run false [.enableKillSwitch sampleConfig, .resetAllowedRange ["192.0.2.1"]]).tables p →
        Accepts numericIptables (step (run false [.enableKillSwitch sampleConfig, .resetAllowedRange ["192.0.2.1"]])
          (.addAllowedRange ["198.51.100.7"])).tables p := by
  refine ⟨by decide, (addAllowedRange_keeps_accepted_iff numericIptables false _ (by decide)).mpr ?_⟩
  intro _ _ d hd a ha
  have hdest : destinations .allowNets
      (run false [.enableKillSwitch sampleConfig, .resetAllowedRange ["192.0.2.1"]]).tables = ["192.0.2.1"] := by
    decide +kernel
  have hranges : (run false [.enableKillSwitch sampleConfig, .resetAllowedRange ["192.0.2.1"]]).allowedRanges =
      ["192.0.2.1"] := by
    decide +kernel
  rw [hdest] at hd
  rw [hranges]
  exact .inl ⟨d, List.mem_append_left _ hd, ha⟩

/-- The VPN server was let out by `enableKillSwitch`, which does not write it down. -/
theorem addAllowedRange_revokes_vpnServer :
    ["198.51.100.7"].all isValidIpOrCidr = true ∧
      Accepts numericIptables (run false [.enableKillSwitch sampleConfig]).tables (plainPacket 0xC0000201) ∧
      ¬ Accepts numericIptables
        (step (run false [.enableKillSwitch sampleConfig]) (.addAllowedRange ["198.51.100.7"])).tables
        (plainPacket 0xC0000201) := by
  refine ⟨by decide, ?_, ?_⟩ <;> decide +kernel

end TunnelCore.KillSwitch.Linux
