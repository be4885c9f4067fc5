import TunnelCore.Android.ProtocolConfig

namespace TunnelCore.Android

open Spans BigEndian

/-- The effect of one route on the set of tunnelled addresses of the old form. -/
def Route.meaning (ips : Set IpAddress) (r : Route) : Set IpAddress :=
  if r.included then ips ∪ {ip | r.inetNetwork.Contains ip} else ips \ {ip | r.inetNetwork.Contains ip}

theorem addresses_ofNetwork {n : InetNetwork} (h : n.Valid) :
    ∃ range, IpRange.ofNetwork n = .ok range ∧ IpRangeSet.addresses range = {ip | n.Contains ip} := by
  obtain ⟨range, hr, hc⟩ := IpRange.ofNetwork_spec h
  refine ⟨range, hr, Set.ext fun ip => ?_⟩
  rw [IpRangeSet.addresses_eq]
  exact (hc ip).symm

theorem applyRoute_spec {s : IpRangeSet} {r : Route} (hs : Separated s.ranges) (hv : r.inetNetwork.Valid) :
    ∃ s', Builder.applyRoute s r = .ok s' ∧ Separated s'.ranges ∧ s'.covered = r.meaning s.covered := by
  obtain ⟨range, hr, ha⟩ := addresses_ofNetwork hv
  obtain ⟨s', hc, hs', hm⟩ := s.call_spec (if r.included then .add range else .remove range) hs
  refine ⟨s', by rw [Builder.applyRoute, hr]; exact hc, hs', hm.trans ?_⟩
  rw [Route.meaning]
  split <;> simp only [IpRangeSet.Call.meaning, ha]

variable {routes : List Route} {ip : IpAddress}

theorem foldlM_applyRoute {s : IpRangeSet} (hs : Separated s.ranges) (hv : ∀ r ∈ routes, r.inetNetwork.Valid) :
    ∃ s', routes.foldlM Builder.applyRoute s = .ok s' ∧ Separated s'.ranges ∧
      s'.covered = routes.foldl Route.meaning s.covered := by
  induction routes generalizing s with
  | nil => exact ⟨s, rfl, hs, rfl⟩
  | cons r routes ih =>
    obtain ⟨t, ht, hts, htc⟩ := applyRoute_spec hs (hv r (.head _))
    obtain ⟨s', h, hs', hc⟩ := ih hts fun r' hr' => hv r' (.tail _ hr')
    exact ⟨s', by rw [List.foldlM_cons, ht]; exact h, hs', by rw [hc, htc, List.foldl_cons]⟩

theorem mem_foldl_includes (h : ∀ r ∈ routes, r.included = true) (ips : Set IpAddress) (ip : IpAddress) :
    ip ∈ routes.foldl Route.meaning ips ↔ ip ∈ ips ∨ ∃ r ∈ routes, r.inetNetwork.Contains ip := by
  induction routes generalizing ips with
  | nil => simp
  | cons r routes ih =>
    rw [List.foldl_cons, ih fun r' hr' => h r' (.tail _ hr'), Route.meaning, if_pos (h r (.head _))]
    simp only [Set.mem_union, Set.mem_ofPred_eq, List.mem_cons, exists_eq_or_imp, or_assoc]

theorem mem_foldl_exclusions (h : ∀ r ∈ routes, r.included = false) (ips : Set IpAddress) (ip : IpAddress) :
    ip ∈ routes.foldl Route.meaning ips ↔ ip ∈ ips ∧ ∀ r ∈ routes, ¬r.inetNetwork.Contains ip := by
  induction routes generalizing ips with
  | nil => simp
  | cons r routes ih =>
    rw [List.foldl_cons, ih fun r' hr' => h r' (.tail _ hr'), Route.meaning, h r (.head _)]
    simp [and_assoc]

theorem mem_foldl_append {incs excs : List Route} (hi : ∀ r ∈ incs, r.included = true)
    (hx : ∀ e ∈ excs, e.included = false) (ip : IpAddress) : ip ∈ (incs ++ excs).foldl Route.meaning ∅ ↔
      (∃ r ∈ incs, r.inetNetwork.Contains ip) ∧ ∀ e ∈ excs, ¬e.inetNetwork.Contains ip := by
  rw [List.foldl_append, mem_foldl_exclusions hx, mem_foldl_includes hi]
  simp only [Set.mem_empty_iff_false, false_or]

theorem foldl_meaning_exclusiveForm {excluded : List InetNetwork}
    (h : Builder.ExclusiveForm excluded routes) (ip : IpAddress) :
    ip ∈ routes.foldl Route.meaning ∅ ↔
      (ipv4Default.Contains ip ∨ ipv6Global.Contains ip) ∧ ∀ e ∈ excluded, ¬e.Contains ip := by
  obtain ⟨incs, excs, rfl, hi, hx⟩ := h
  obtain ⟨hinc, hexc⟩ := Builder.ExclusiveForm.flags hi hx
  rw [mem_foldl_append hinc hexc]
  simp only [hi, hx]
  constructor
  · rintro ⟨⟨r, rfl | rfl, hc⟩, he⟩
    · exact ⟨.inl hc, fun e hm => he ⟨e, false⟩ ⟨e, hm, rfl⟩⟩
    · exact ⟨.inr hc, fun e hm => he ⟨e, false⟩ ⟨e, hm, rfl⟩⟩
  · rintro ⟨hc, he⟩
    refine ⟨?_, by rintro _ ⟨e, hm, rfl⟩; exact he e hm⟩
    rcases hc with hc | hc
    · exact ⟨_, .inl rfl, hc⟩
    · exact ⟨_, .inr rfl, hc⟩

theorem mapM_subnets (ranges : List IpRange) :
    ∃ nets, ranges.mapM IpRange.subnets = .ok nets ∧
      (∀ n ∈ nets.flatten, ∃ r ∈ ranges, ∃ part, r.subnets = .ok part ∧ n ∈ part) ∧
      ∀ ip, (∃ n ∈ nets.flatten, n.Contains ip) ↔ ∃ r ∈ ranges, ip ∈ IpRangeSet.addresses r := by
  induction ranges with
  | nil => exact ⟨[], rfl, by simp, by simp⟩
  | cons r ranges ih =>
    obtain ⟨first, hf, -, hfc⟩ := r.subnets_spec
    obtain ⟨rest, hr, hrv, hrc⟩ := ih
    refine ⟨first :: rest, by rw [List.mapM_cons, hf, hr]; rfl, fun n hn => ?_, fun ip => ?_⟩
    · rcases List.mem_append.mp hn with hn | hn
      · exact ⟨r, .head _, first, hf, hn⟩
      · obtain ⟨r', hr', h⟩ := hrv n hn
        exact ⟨r', .tail _ hr', h⟩
    · have hmem : ip ∈ IpRangeSet.addresses r ↔ r.lo ≤ ip.rank ∧ ip.rank ≤ r.hi := by
        rw [IpRangeSet.addresses_eq]
        exact Iff.rfl
      simp only [List.flatten_cons, List.mem_append, or_and_right, exists_or, List.mem_cons, exists_eq_left,
        hfc, hrc, hmem]

theorem subnets_covered (s : IpRangeSet) :
    ∃ nets, s.subnets = .ok nets ∧ ∀ ip, (∃ n ∈ nets, n.Contains ip) ↔ ip ∈ s.covered := by
  obtain ⟨nets, h, -, hc⟩ := mapM_subnets s.ranges
  exact ⟨nets.flatten, by rw [IpRangeSet.subnets, h]; rfl, hc⟩

theorem mem_subnets {s : IpRangeSet} {nets : List InetNetwork} (h : s.subnets = .ok nets) {n : InetNetwork}
    (hn : n ∈ nets) : ∃ r ∈ s.ranges, ∃ part, r.subnets = .ok part ∧ n ∈ part := by
  obtain ⟨parts, hm, hp, -⟩ := mapM_subnets s.ranges
  rw [IpRangeSet.subnets, hm] at h
  exact hp n (Except.ok.inj h ▸ hn)

theorem subnets_valid {s : IpRangeSet} {nets : List InetNetwork} (h : s.subnets = .ok nets) :
    ∀ n ∈ nets, n.Valid ∧ n.Aligned := by
  intro n hn
  obtain ⟨r, -, part, hp, hn⟩ := mem_subnets h hn
  obtain ⟨_, hp', hv, -⟩ := r.subnets_splits
  obtain rfl := Except.ok.inj (hp.symm.trans hp')
  exact ⟨(hv n hn).1, (hv n hn).2.1⟩

theorem remainingSubnets_spec (hv : ∀ r ∈ routes, r.inetNetwork.Valid) :
    ∃ nets, Builder.remainingSubnets routes = .ok nets ∧ ∀ ip, (∃ n ∈ nets, n.Contains ip) ↔
      ip ∈ routes.foldl Route.meaning ∅ ∧ ¬ipv4Loopback.Contains ip ∧ ¬ipv6Loopback.Contains ip := by
  obtain ⟨s1, h1, hs1, hc1⟩ := foldlM_applyRoute (s := IpRangeSet.empty) List.Pairwise.nil hv
  obtain ⟨r4, hr4, ha4⟩ := addresses_ofNetwork (n := ipv4Loopback) (by decide)
  obtain ⟨r6, hr6, ha6⟩ := addresses_ofNetwork (n := ipv6Loopback) (by decide)
  obtain ⟨s2, h2, hs2, hc2⟩ := s1.call_spec (.remove r4) hs1
  obtain ⟨s3, h3, hs3, hc3⟩ := s2.call_spec (.remove r6) hs2
  obtain ⟨nets, hn, hcov⟩ := subnets_covered s3
  simp only [IpRangeSet.call] at h2 h3
  refine ⟨nets, by simp only [Builder.remainingSubnets, h1, hr4, hr6, h2, h3, hn, bind, Except.bind], fun ip => ?_⟩
  rw [hcov, hc3, IpRangeSet.Call.meaning, hc2, IpRangeSet.Call.meaning, hc1, ha4, ha6, IpRangeSet.covered_empty]
  simp only [Set.mem_sdiff, Set.mem_ofPred_eq, and_assoc]

theorem ipv4Loopback_contains (h4 : ip.size = 4) : ipv4Loopback.Contains ip ↔ ip.address.head? = some 127 := by
  obtain ⟨b, rest, hr⟩ := List.exists_cons_of_length_pos (show 0 < ip.size by omega)
  have hlen : rest.length = 3 := by
    rw [IpAddress.size, hr, List.length_cons] at h4
    omega
  have hlt := value_lt rest
  rw [InetNetwork.Contains, hr, value_cons, hlen, List.head?_cons, Option.some_inj, ← UInt8.toNat_inj]
  rw [hlen] at hlt
  change ip.size = 4 ∧ (b.toNat * 256 ^ 3 + value rest) / 2 ^ 24 = 127 * 256 ^ 3 / 2 ^ 24 ↔ b.toNat = 127
  omega

theorem ipv6Loopback_contains : ipv6Loopback.Contains ip ↔ ip = ipv6Loopback.address := by
  constructor
  · rintro ⟨hs, hv⟩
    have h0 : ipv6Loopback.hostBits = 0 := by decide
    rw [h0, Nat.pow_zero, Nat.div_one, Nat.div_one] at hv
    cases ip
    simpa [ipv6Loopback] using value_injective hs hv
  · rintro rfl
    exact InetNetwork.contains_self _

theorem isIncludedLoopback_iff (n : InetNetwork) :
    Builder.isIncludedLoopback ⟨n, true⟩ = true ↔ ipv4Loopback.Contains n.address ∨ n = ipv6Loopback := by
  by_cases hs : n.address.size = 4
  · have hne : n ≠ ipv6Loopback := by
      rintro rfl
      cases hs
    simp [Builder.isIncludedLoopback, InetNetwork.isIpv4, hs, ipv4Loopback_contains hs, hne]
  · have hno : ¬ipv4Loopback.Contains n.address := fun h => hs h.1
    simp [Builder.isIncludedLoopback, InetNetwork.isIpv4, hs, hno]

theorem isIncludedLoopback_false {nets : List InetNetwork}
    (h : ∀ n ∈ nets, ¬ipv4Loopback.Contains n.address ∧ ¬ipv6Loopback.Contains n.address) :
    ∀ n ∈ nets, Builder.isIncludedLoopback ⟨n, true⟩ = false := by
  intro n hn
  rw [Bool.eq_false_iff, Ne, isIncludedLoopback_iff]
  rintro (h4 | rfl)
  · exact (h n hn).1 h4
  · exact (h _ hn).2 (InetNetwork.contains_self _)

theorem processRoutes_old {b : Builder} {sdkInt : Nat} (hsdk : sdkInt < Builder.TIRAMISU)
    (hany : b.replaceIpv6Default.routes.any (!·.included) = true)
    (hvalid : ∀ r ∈ b.replaceIpv6Default.routes, r.inetNetwork.Valid) :
    ∃ b', b.processRoutes sdkInt = .ok b' ∧ (∀ r ∈ b'.routes, r.included = true) ∧
      ∀ ip, Covers b'.routes ip ↔ ip ∈ b.replaceIpv6Default.routes.foldl Route.meaning ∅ ∧
        ¬ipv4Loopback.Contains ip ∧ ¬ipv6Loopback.Contains ip := by
  obtain ⟨nets, hn, hcov⟩ := remainingSubnets_spec hvalid
  have hfilter := isIncludedLoopback_false fun n hm =>
    ((hcov n.address).mp ⟨n, hm, n.contains_self⟩).2
  have hmem : ∀ r, r ∈ (b.replaceIpv6Default.clearRoutes.addRoutes nets).dropLoopback.routes ↔
      ∃ n ∈ nets, r = ⟨n, true⟩ := by
    intro r
    simp only [Builder.dropLoopback, Builder.addRoutes, Builder.clearRoutes, List.mem_filter, mem_linkedAddAll,
      List.not_mem_nil, false_or, List.mem_map]
    constructor
    · rintro ⟨⟨n, hn, rfl⟩, -⟩
      exact ⟨n, hn, rfl⟩
    · rintro ⟨n, hn, rfl⟩
      exact ⟨⟨n, hn, rfl⟩, by rw [hfilter n hn]; rfl⟩
  refine ⟨_, by rw [Builder.processRoutes, if_pos ⟨hsdk, hany⟩, hn], ?_, fun ip => ?_⟩
  · intro r hr
    obtain ⟨n, -, rfl⟩ := (hmem r).mp hr
    rfl
  · rw [← hcov]
    constructor
    · rintro ⟨r, hr, -, hc⟩
      obtain ⟨n, hn, rfl⟩ := (hmem r).mp hr
      exact ⟨n, hn, hc⟩
    · rintro ⟨n, hn, hc⟩
      exact ⟨⟨n, true⟩, (hmem _).mpr ⟨n, hn, rfl⟩, rfl, hc⟩

/-- What below Android 13 becomes of the exclusive form: includes that cover what exclusions and loopback leave. -/
theorem processRoutes_exclusiveForm {b : Builder} {excluded : List InetNetwork} {sdkInt : Nat}
    (hsdk : sdkInt < Builder.TIRAMISU) (hform : Builder.ExclusiveForm excluded b.replaceIpv6Default.routes)
    (hne : excluded ≠ []) (hvalid : ∀ n ∈ excluded, n.Valid) :
    ∃ b', b.processRoutes sdkInt = .ok b' ∧ (∀ r ∈ b'.routes, r.included = true) ∧
      ∀ ip, Covers b'.routes ip ↔ (ipv4Default.Contains ip ∨ ipv6Global.Contains ip) ∧
        (∀ e ∈ excluded, ¬e.Contains ip) ∧ ¬ipv4Loopback.Contains ip ∧ ¬ipv6Loopback.Contains ip := by
  have hany : b.replaceIpv6Default.routes.any (!·.included) = true := by
    obtain ⟨n, hn⟩ := List.exists_mem_of_ne_nil _ hne
    obtain ⟨incs, excs, he, -, hx⟩ := hform
    rw [he, List.any_append, List.any_eq_true.mpr ⟨⟨n, false⟩, (hx _).mpr ⟨n, hn, rfl⟩, rfl⟩, Bool.or_true]
  have hroutes : ∀ r ∈ b.replaceIpv6Default.routes, r.inetNetwork.Valid :=
    hform.forall_mem (by decide) (by decide) hvalid
  obtain ⟨b', hb', hinc, hcov⟩ := processRoutes_old hsdk hany hroutes
  refine ⟨b', hb', hinc, fun ip => ?_⟩
  rw [hcov, foldl_meaning_exclusiveForm hform, and_assoc]

theorem builtRoutes_old {b : Builder} (h : b.Exclusive) {sdkInt : Nat} (hsdk : sdkInt < Builder.TIRAMISU) :
    ∃ routes, b.builtRoutes sdkInt = .ok routes ∧ (∀ r ∈ routes, r.included = true) ∧
      ∀ ip, Covers routes ip ↔ (ipv4Default.Contains ip ∨ ipv6Global.Contains ip) ∧
        (∀ e ∈ b.excludedAddresses, ¬e.Contains ip) ∧ ¬ipv4Loopback.Contains ip ∧ ¬ipv6Loopback.Contains ip := by
  obtain ⟨b₁, hb₁, hform⟩ := Builder.exclusive_routes h
  obtain ⟨b₂, hb₂, hinc, hcov⟩ := processRoutes_exclusiveForm hsdk hform h.excluded h.valid
  exact ⟨b₂.routes, by simp only [Builder.builtRoutes, hb₁, hb₂, bind, Except.bind, pure, Except.pure], hinc, hcov⟩

theorem ipv4Default_contains : ipv4Default.Contains ip ↔ ip.size = 4 := by
  refine ⟨And.left, fun h => ⟨h, ?_⟩⟩
  have hv := ip.value_lt_size
  rw [h] at hv
  change value ip.address / 2 ^ 32 = 0 / 2 ^ 32
  omega

theorem contains_of_short {n : InetNetwork} (hn : n.mask ≤ 3) (hip : ipv6Global.Contains ip) :
    n.Contains ip ↔ n.Contains ipv6Global.address :=
  ⟨fun h => InetNetwork.contains_of_mask_le hn h hip (InetNetwork.contains_self _),
    fun h => InetNetwork.contains_of_mask_le hn h (InetNetwork.contains_self _) hip⟩

def LeftOut (ip : IpAddress) : Prop :=
  ipv4Loopback.Contains ip ∨ ip = ipv6Loopback.address ∨ ip.size = 16 ∧ ¬ipv6Global.Contains ip

/-- The routes built for an old and a new system send the same addresses to the tunnel, up to what
the old form always leaves out. -/
def FormsAgree (b : Builder) (oldSdk newSdk : Nat) : Prop :=
  ∃ old new, b.builtRoutes oldSdk = .ok old ∧ b.builtRoutes newSdk = .ok new ∧
    (∀ r ∈ old, r.included = true) ∧ ∀ ip, Covers old ip ↔ Tunnels new ip ∧ ¬LeftOut ip

/-- Any exclusion around `2000::/3` is accompanied by exclusions inside it that fill it. -/
def ShortExclusionsFilled (excluded : List InetNetwork) : Prop :=
  ∀ n ∈ excluded, n.mask < 3 → n.Contains ipv6Global.address →
    ∀ ip, ipv6Global.Contains ip → ∃ m ∈ excluded, 3 ≤ m.mask ∧ m.Contains ip

/-- An exclusion is heard unless the included `2000::/3` is longer than it. -/
theorem tunnels_exclusive_iff {excluded : List InetNetwork} (h : Builder.ExclusiveForm excluded routes)
    (hip : ipv4Default.Contains ip ∨ ipv6Global.Contains ip) :
    Tunnels routes ip ↔ ∀ e ∈ excluded, e.Contains ip → ipv6Global.Contains ip ∧ e.mask < 3 := by
  rw [tunnels_exclusiveForm h]
  constructor
  · rintro ⟨n, rfl | rfl, hn, he⟩ e hm hc
    · exact absurd (he e hm hc) (Nat.not_lt_zero _)
    · exact ⟨hn, he e hm hc⟩
  · intro he
    by_cases hg : ipv6Global.Contains ip
    · exact ⟨_, .inr rfl, hg, fun e hm hc => (he e hm hc).2⟩
    · exact ⟨_, .inl rfl, hip.resolve_right hg, fun e hm hc => absurd (he e hm hc).1 hg⟩

section Pointwise

variable {excluded : List InetNetwork} {old new : List Route} {ip : IpAddress}
  (hold : Covers old ip ↔ (ipv4Default.Contains ip ∨ ipv6Global.Contains ip) ∧
    (∀ e ∈ excluded, ¬e.Contains ip) ∧ ¬ipv4Loopback.Contains ip ∧ ¬ipv6Loopback.Contains ip)
  (hnew : Builder.ExclusiveForm excluded new)

include hold hnew

theorem agree_of_ipv4 (h4 : ip.size = 4) : Covers old ip ↔ Tunnels new ip ∧ ¬LeftOut ip := by
  have hd : ipv4Default.Contains ip := ipv4Default_contains.mpr h4
  have hg : ¬ipv6Global.Contains ip := fun h => absurd (h4.symm.trans h.1) (by decide)
  have hl : ¬ipv6Loopback.Contains ip := fun h => absurd (h4.symm.trans h.1) (by decide)
  have hout : LeftOut ip ↔ ipv4Loopback.Contains ip := by
    rw [LeftOut, ← ipv6Loopback_contains]
    simp [hl, h4]
  rw [hold, tunnels_exclusive_iff hnew (.inl hd), hout]
  simp [hd, hg, hl]

omit hnew in
theorem agree_of_local (h6 : ip.size = 16) (hg : ¬ipv6Global.Contains ip) :
    Covers old ip ↔ Tunnels new ip ∧ ¬LeftOut ip := by
  have hd : ¬ipv4Default.Contains ip := fun h => by simp [ipv4Default_contains, h6] at h
  have hout : LeftOut ip := .inr (.inr ⟨h6, hg⟩)
  rw [hold]
  simp [hd, hg, hout]

theorem agree_of_global (hg : ipv6Global.Contains ip) : (Covers old ip ↔ Tunnels new ip ∧ ¬LeftOut ip) ↔
    ∀ n ∈ excluded, n.mask < 3 → n.Contains ip → ∃ m ∈ excluded, 3 ≤ m.mask ∧ m.Contains ip := by
  have h6 : ip.size = 16 := hg.1
  have hl4 : ¬ipv4Loopback.Contains ip := fun h => absurd (h6.symm.trans h.1) (by decide)
  have hl6 : ¬ipv6Loopback.Contains ip := by
    rw [ipv6Loopback_contains]
    rintro rfl
    revert hg
    decide
  have hout : ¬LeftOut ip := by
    rw [LeftOut, ← ipv6Loopback_contains]
    simp [hl4, hl6, hg]
  have htun : Tunnels new ip ↔ ∀ e ∈ excluded, e.Contains ip → e.mask < 3 := by
    rw [tunnels_exclusive_iff hnew (.inr hg)]
    simp only [hg, true_and]
  have hcov : Covers old ip ↔ ∀ e ∈ excluded, ¬e.Contains ip := by
    rw [hold]
    simp [hg, hl4, hl6]
  rw [hcov, htun, and_iff_left hout]
  constructor
  · intro heq n hn hm hc
    by_contra hno
    refine heq.mpr (fun e he hce => ?_) n hn hc
    by_contra hlt
    exact hno ⟨e, he, by omega, hce⟩
  · intro hfill
    refine ⟨fun he e hm hc => absurd hc (he e hm), fun he e hm hc => ?_⟩
    obtain ⟨m, hmm, hlen, hmc⟩ := hfill e hm (he e hm hc) hc
    exact absurd (he m hmm hmc) (by omega)

end Pointwise

/-- In exclusive mode the forms for old and new systems agree exactly when no exclusion shorter
than `/3` swallows `2000::/3` on its own: longest-prefix match lets the included `2000::/3` win over
such an exclusion, while the old form subtracts it. -/
theorem exclusive_forms_agree_iff {b : Builder} (h : b.Exclusive) {oldSdk newSdk : Nat}
    (hold : oldSdk < Builder.TIRAMISU) (hnew : Builder.TIRAMISU ≤ newSdk) :
    FormsAgree b oldSdk newSdk ↔ ShortExclusionsFilled b.excludedAddresses := by
  obtain ⟨old, ho, hinc, hcov⟩ := builtRoutes_old h hold
  obtain ⟨new, hn, hform⟩ := Builder.builtRoutes_new h hnew
  have hagree : FormsAgree b oldSdk newSdk ↔ ∀ ip, Covers old ip ↔ Tunnels new ip ∧ ¬LeftOut ip := by
    constructor
    · rintro ⟨old', new', ho', hn', -, ha⟩
      rw [ho] at ho'
      rw [hn] at hn'
      cases ho'
      cases hn'
      exact ha
    · exact fun ha => ⟨old, new, ho, hn, hinc, ha⟩
  rw [hagree]
  constructor
  · intro ha n hm hshort hc ip hg
    exact (agree_of_global (hcov ip) hform hg).mp (ha ip) n hm hshort
      ((contains_of_short (by omega) hg).mpr hc)
  · intro hfill ip
    by_cases hg : ipv6Global.Contains ip
    · refine (agree_of_global (hcov ip) hform hg).mpr fun n hm hshort hc => ?_
      exact hfill n hm hshort ((contains_of_short (by omega) hg).mp hc) ip hg
    · rcases ip.size_cases with h4 | h6
      · exact agree_of_ipv4 (hcov ip) hform h4
      · exact agree_of_local (hcov ip) h6 hg

def privateExcluded : Builder :=
  { addresses := [], routes := [⟨ipv4Default, true⟩, ⟨ipv6DefaultRoute, true⟩], includedAddresses := [],
    excludedAddresses := [⟨⟨[10, 0, 0, 0], .inl rfl⟩, 8⟩], mtu := 1280 }

theorem exclusive_forms_agree_private :
    FormsAgree privateExcluded 32 33 ↔ ShortExclusionsFilled privateExcluded.excludedAddresses :=
  exclusive_forms_agree_iff ⟨by decide, rfl, by decide, by decide⟩ (by decide) (by decide)

def ipv6Excluded : Builder :=
  { addresses := [], routes := [⟨ipv4Default, true⟩, ⟨ipv6DefaultRoute, true⟩], includedAddresses := [],
    excludedAddresses := [ipv6DefaultRoute], mtu := 1280 }

/-- With `::/0` excluded the new form still tunnels `2000::`, which the old form does not. -/
theorem ipv6_exclusion_ignored : ∃ old new, ipv6Excluded.builtRoutes 32 = .ok old ∧
    ipv6Excluded.builtRoutes 33 = .ok new ∧ Tunnels new ipv6Global.address ∧ ¬Covers old ipv6Global.address ∧
      ¬LeftOut ipv6Global.address := by
  have h : ipv6Excluded.Exclusive := ⟨by decide, rfl, by decide, by decide⟩
  obtain ⟨old, ho, -, hcov⟩ := builtRoutes_old h (show 32 < Builder.TIRAMISU by decide)
  obtain ⟨new, hn, hform⟩ := Builder.builtRoutes_new h (show Builder.TIRAMISU ≤ 33 by decide)
  refine ⟨old, new, ho, hn, ?_, ?_, ?_⟩
  · exact (tunnels_exclusiveForm hform _).mpr ⟨ipv6Global, .inr rfl, InetNetwork.contains_self _, by decide⟩
  · exact fun hc => ((hcov _).mp hc).2.1 ipv6DefaultRoute (.head _) (by decide)
  · rw [LeftOut]
    decide

end TunnelCore.Android
