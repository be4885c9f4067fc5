import TunnelCore.Android.Compaction

namespace TunnelCore.Android

def Builder.excludeRoute (b : Builder) (route : InetNetwork) : Builder :=
  { b with routes := linkedAdd b.routes ⟨route, false⟩ }

namespace Xray

open Builder

def DEFAULT_IPV4_ADDRESS : InetNetwork := ⟨⟨[10, 0, 42, 2], .inl rfl⟩, 30⟩

/-- `InetNetwork(hostName, 32)`, whatever the family of the address. -/
def serverNetwork (hostName : IpAddress) : InetNetwork := ⟨hostName, 32⟩

/-- The part of `parseConfig` that the routes depend on. -/
def parseConfig (hostName : IpAddress) (mtu : Int) (config : SplitTunnelKeys) : Except SplitTunnelError Builder :=
  configSplitTunneling true config
    ((((⟨[DEFAULT_IPV4_ADDRESS], [], [], [], mtu⟩ : Builder).addRoute ipv4Default).addRoute ipv6Global).excludeRoute
      (serverNetwork hostName))

/-- The routes of the configuration that `XrayConfig.build` returns; there are none when it throws. -/
def build (sdkInt : Nat) (hostName : IpAddress) (mtu : Int) (config : SplitTunnelKeys) : Option (List Route) := do
  let b ← (parseConfig hostName mtu config).toOption
  let b ← (b.configBuild sdkInt).toOption
  pure b.routes

inductive Mode
  | disabled
  | included
  | excluded
deriving DecidableEq

def Mode.splitTunnelType : Mode → Int
  | .disabled => SPLIT_TUNNEL_DISABLE
  | .included => SPLIT_TUNNEL_INCLUDE
  | .excluded => SPLIT_TUNNEL_EXCLUDE

/-- The user's choice: a mode and the sites it is about. -/
structure Choice where
  mode : Mode
  sites : List InetNetwork
  valid : ∀ n ∈ sites, n.Valid

namespace Choice

def keys (choice : Choice) : SplitTunnelKeys := ⟨some choice.mode.splitTunnelType, some (choice.sites.map some)⟩

def KeepsOut (choice : Choice) (ip : IpAddress) : Prop :=
  match choice.mode with
  | .disabled => False
  | .included => ¬∃ n ∈ choice.sites, n.Contains ip
  | .excluded => ∃ n ∈ choice.sites, n.Contains ip

/-- The networks that the compaction makes of the sites. -/
def blocks (choice : Choice) : List InetNetwork :=
  match choice.mode, compactedAddresses (choice.sites.map some) with
  | .disabled, _ => []
  | _, .error _ => []
  | _, .ok addresses => addresses

end Choice

def InDomain (ip : IpAddress) : Prop := ipv4Default.Contains ip ∨ ipv6Global.Contains ip

/-- What the tunnel leaves alone is the server and what the user wants left alone. -/
def BypassesOnlyServer (hostName : IpAddress) (choice : Choice) (routes : List Route) : Prop :=
  ∀ ip, InDomain ip → (¬Tunnels routes ip ↔ ip = hostName ∨ choice.KeepsOut ip)

/-- The smallest network around `2000::/3`. -/
def ipv6Quarter : InetNetwork := ⟨ipv6DefaultRoute.address, 2⟩

/-- The smallest network around the loopback network. -/
def loopbackPair : InetNetwork := ⟨⟨[126, 0, 0, 0], .inl rfl⟩, 7⟩

structure Exact (sdkInt : Nat) (hostName : IpAddress) (choice : Choice) : Prop where
  sites : choice.mode = .included → choice.sites ≠ []
  server : sdkInt < TIRAMISU ∨ choice.mode ≠ .included → ∀ ip, InDomain ip → ¬choice.KeepsOut ip →
    (serverNetwork hostName).Contains ip → ip = hostName
  includedServer : TIRAMISU ≤ sdkInt → choice.mode = .included → ipv6Global.Contains hostName →
    choice.KeepsOut hostName
  loopback : sdkInt < TIRAMISU → ∀ ip, ipv4Loopback.Contains ip → ¬choice.KeepsOut ip → ip = hostName
  includedLoopback : TIRAMISU ≤ sdkInt → choice.mode = .included →
    (∃ ip, ipv4Loopback.Contains ip ∧ ¬choice.KeepsOut ip ∧ ip ≠ hostName) →
      ∀ ip, loopbackPair.Contains ip → ¬choice.KeepsOut ip
  exclusions : TIRAMISU ≤ sdkInt → choice.mode ≠ .included → ∃ ip, ipv6Quarter.Contains ip ∧ ¬choice.KeepsOut ip

/-- From Android 13 on an included network counts unless it is taken for a loopback, and against the server's network
only when it is longer. -/
def Reached (hostName : IpAddress) (blocks : List InetNetwork) (ip : IpAddress) : Prop :=
  ∃ n ∈ blocks, n.Contains ip ∧ isIncludedLoopback ⟨n, true⟩ = false ∧
    ((serverNetwork hostName).Contains ip → 32 < n.mask)

variable {sdkInt : Nat} {hostName ip : IpAddress} {mtu : Int} {choice : Choice} {blocks : List InetNetwork}
  {b : Builder} {routes : List Route}

def fixedRoutes (hostName : IpAddress) : List Route :=
  [⟨ipv4Default, true⟩, ⟨ipv6Global, true⟩, ⟨serverNetwork hostName, false⟩]

theorem foldl_includeAddress (nets : List InetNetwork) (b : Builder) :
    nets.foldl includeAddress b = { b with includedAddresses := linkedAddAll b.includedAddresses nets } := by
  induction nets generalizing b with
  | nil => rfl
  | cons n nets ih => exact ih _

theorem foldl_excludeAddress (nets : List InetNetwork) (b : Builder) :
    nets.foldl excludeAddress b = { b with excludedAddresses := linkedAddAll b.excludedAddresses nets } := by
  induction nets generalizing b with
  | nil => rfl
  | cons n nets ih => exact ih _

theorem blocks_subnets (hmode : choice.mode ≠ .disabled) : ∃ s : IpRangeSet, Spans.Separated s.ranges ∧
    s.subnets = .ok choice.blocks ∧ compactedAddresses (choice.sites.map some) = .ok choice.blocks ∧
    s.covered = {ip | ∃ n ∈ choice.sites, n.Contains ip} ∧
    ∀ ip, (∃ n ∈ choice.blocks, n.Contains ip) ↔ ip ∈ s.covered := by
  obtain ⟨s, nets, hs, hcov, hn, hc⟩ := compactedAddresses_spec choice.valid
  have hb : choice.blocks = nets := by
    cases hm : choice.mode with
    | disabled => exact absurd hm hmode
    | included => simp only [Choice.blocks, hm, hc]
    | excluded => simp only [Choice.blocks, hm, hc]
  obtain ⟨_, hn', hcov'⟩ := subnets_covered s
  obtain rfl := Except.ok.inj (hn.symm.trans hn')
  exact ⟨s, hs, hb ▸ hn, hb ▸ hc, hcov, hb ▸ hcov'⟩

theorem blocks_contain (hmode : choice.mode ≠ .disabled) (ip : IpAddress) :
    (∃ n ∈ choice.blocks, n.Contains ip) ↔ ∃ n ∈ choice.sites, n.Contains ip := by
  obtain ⟨s, -, -, -, hc, hcov⟩ := blocks_subnets hmode
  rw [hcov, hc]
  exact Iff.rfl

theorem blocks_disabled (hmode : choice.mode = .disabled) : choice.blocks = [] := by rw [Choice.blocks, hmode]

theorem blocks_valid (choice : Choice) : ∀ n ∈ choice.blocks, n.Valid ∧ n.Aligned := by
  by_cases hm : choice.mode = .disabled
  · simp [blocks_disabled hm]
  · obtain ⟨s, -, hn, -⟩ := blocks_subnets hm
    exact subnets_valid hn

theorem blocks_mask_le {m n : InetNetwork} (hv : m.Valid)
    (hm : ∀ ip, m.Contains ip → ∃ k ∈ choice.blocks, k.Contains ip) (hn : n ∈ choice.blocks) (hni : n.Contains ip)
    (hmi : m.Contains ip) : n.mask ≤ m.mask := by
  by_cases hmode : choice.mode = .disabled
  · simp [blocks_disabled hmode] at hn
  · obtain ⟨s, hs, hsub, -, -, hcov⟩ := blocks_subnets hmode
    exact subnets_mask_le hs hsub hv (fun ip hip => (hcov ip).mp (hm ip hip)) hn hni hmi

theorem parseConfig_choice (hostName : IpAddress) (mtu : Int) (choice : Choice) :
    ∃ b, parseConfig hostName mtu choice.keys = .ok b ∧ b.routes = fixedRoutes hostName ∧
      (∀ n, n ∈ b.includedAddresses ↔ choice.mode = .included ∧ n ∈ choice.blocks) ∧
      ∀ n, n ∈ b.excludedAddresses ↔ choice.mode = .excluded ∧ n ∈ choice.blocks := by
  have hstart : ((((⟨[DEFAULT_IPV4_ADDRESS], [], [], [], mtu⟩ : Builder).addRoute ipv4Default).addRoute
      ipv6Global).excludeRoute (serverNetwork hostName)) =
      ⟨[DEFAULT_IPV4_ADDRESS], fixedRoutes hostName, [], [], mtu⟩ := by
    simp [addRoute, excludeRoute, linkedAdd, fixedRoutes, show ipv6Global ≠ ipv4Default by decide]
  rw [parseConfig, hstart]
  cases hm : choice.mode with
  | disabled =>
    rw [Choice.keys, hm]
    exact ⟨_, rfl, rfl, by simp, by simp⟩
  | included =>
    obtain ⟨-, -, -, hc, -⟩ := blocks_subnets (show choice.mode ≠ .disabled by simp [hm])
    have hh : addressHandlerFunc (Mode.splitTunnelType .included) = .ok includeAddress := rfl
    rw [Choice.keys, hm, configSplitTunneling_of_compacted hh hc, foldl_includeAddress]
    exact ⟨_, rfl, rfl, by simp [mem_linkedAddAll], by simp⟩
  | excluded =>
    obtain ⟨-, -, -, hc, -⟩ := blocks_subnets (show choice.mode ≠ .disabled by simp [hm])
    have hh : addressHandlerFunc (Mode.splitTunnelType .excluded) = .ok excludeAddress := rfl
    rw [Choice.keys, hm, configSplitTunneling_of_compacted hh hc, foldl_excludeAddress]
    exact ⟨_, rfl, rfl, by simp, by simp [mem_linkedAddAll]⟩

theorem exclusive_split (hr : b.routes = fixedRoutes hostName) (hi : b.includedAddresses = [])
    (hx : ∀ n, n ∈ b.excludedAddresses ↔ n ∈ blocks) : ∃ b₁, b.processSplitTunneling = .ok b₁ ∧
      ExclusiveForm (blocks ++ [serverNetwork hostName]) b₁.replaceIpv6Default.routes := by
  have hform : ∀ b₁ : Builder, b₁.routes = linkedAddAll [⟨ipv4Default, true⟩, ⟨ipv6Global, true⟩]
      ((b.excludedAddresses ++ [serverNetwork hostName]).map (⟨·, false⟩)) →
      ExclusiveForm (blocks ++ [serverNetwork hostName]) b₁.replaceIpv6Default.routes := by
    intro b₁ h₁
    refine replaceIpv6Default_exclusiveForm (h₁.trans (List.append_nil _).symm)
      (exclusiveForm_addAll (by simp) fun r => ?_) (by simp)
    simp [hx, eq_comm]
  by_cases he : b.excludedAddresses = []
  · refine ⟨b, by simp [processSplitTunneling, hi, he], hform b ?_⟩
    simp [hr, he, fixedRoutes, linkedAddAll, linkedAdd]
  · obtain ⟨b₁, hb, hroutes⟩ := processSplitTunneling_exclusive hi he
    refine ⟨b₁, hb, hform b₁ ?_⟩
    -- the two includes are there already, so only the server's exclusion of the fixed routes is new
    have hold : ∀ r : Route, r ∈ [⟨ipv4Default, true⟩, ⟨ipv6Global, true⟩] → ∀ xs, linkedAdd (linkedAddAll
        [⟨ipv4Default, true⟩, ⟨ipv6Global, true⟩] xs) r = linkedAddAll [⟨ipv4Default, true⟩, ⟨ipv6Global, true⟩] xs :=
      fun r hr xs => if_pos (mem_linkedAddAll.mpr (.inl hr))
    rw [hroutes, hr, fixedRoutes, List.map_append, linkedAddAll, List.foldl_cons, hold _ (by simp), List.foldl_cons,
      hold _ (by simp), linkedAddAll, linkedAddAll, List.foldl_append]
    rfl

/-- `replaceIpv6Default` on one included network. -/
def narrowed (n : InetNetwork) : InetNetwork := if n = ipv6DefaultRoute then ipv6Global else n

theorem narrowed_contains (h : InDomain ip) (n : InetNetwork) : (narrowed n).Contains ip ↔ n.Contains ip := by
  rw [narrowed]
  split
  next hn =>
    subst hn
    rcases h with h | h
    · have h4 : ip.size = 4 := h.1
      exact ⟨fun hc => absurd (h4.symm.trans hc.1) (by decide), fun hc => absurd (h4.symm.trans hc.1) (by decide)⟩
    · exact iff_of_true h ((contains_of_short (by decide) h).mpr (by decide))
  · rfl

theorem narrowed_mask (n : InetNetwork) : 32 < (narrowed n).mask ↔ 32 < n.mask := by
  rw [narrowed]
  split
  next hn => subst hn; decide
  · rfl

theorem narrowed_loopback (n : InetNetwork) :
    isIncludedLoopback ⟨narrowed n, true⟩ = isIncludedLoopback ⟨n, true⟩ := by
  rw [narrowed]
  split
  next hn => subst hn; decide
  · rfl

theorem linkedAddAll_server {s xs : List Route} (hs : ∀ r ∈ s, r.included = true) (hx : ∀ r ∈ xs, r.included = true)
    (n : InetNetwork) : linkedAddAll s (xs ++ [⟨n, false⟩]) = linkedAddAll s xs ++ [⟨n, false⟩] := by
  rw [linkedAddAll, List.foldl_append]
  refine if_neg fun hm => ?_
  rcases mem_linkedAddAll.mp hm with h | h
  · cases hs _ h
  · cases hx _ h

theorem removed_fixedRoutes (hr : b.routes = fixedRoutes hostName) :
    (((b.removeRoute ipv4Default).removeRoute ipv6DefaultRoute).removeRoute ipv6Global).routes =
      [⟨serverNetwork hostName, false⟩] := by
  have hne : ∀ n : InetNetwork, n.mask ≠ 32 → serverNetwork hostName ≠ n := fun n hn h => hn (h ▸ rfl)
  simp [removeRoute, hr, fixedRoutes, hne ipv4Default (by decide), hne ipv6DefaultRoute (by decide),
    hne ipv6Global (by decide)]

theorem replaceIpv6Default_inclusive {incs : List Route} {n : InetNetwork} (hr : b.routes = incs ++ [⟨n, false⟩])
    (hi : ∀ r, r ∈ incs ↔ ∃ n ∈ blocks, r = ⟨n, true⟩) :
    ∃ incs', b.replaceIpv6Default.routes = incs' ++ [⟨n, false⟩] ∧
      ∀ r, r ∈ incs' ↔ ∃ n ∈ blocks, r = ⟨narrowed n, true⟩ := by
  have hdefault : ∀ m, isIncludedIpv6Default ⟨m, true⟩ = true ↔ m = ipv6DefaultRoute := by simp [isIncludedIpv6Default]
  by_cases hany : b.routes.any isIncludedIpv6Default
  · refine ⟨linkedAddAll [⟨ipv6Global, true⟩] (incs.filter (!isIncludedIpv6Default ·)), ?_, fun r => ?_⟩
    · rw [replaceIpv6Default, if_pos hany, hr, List.filter_append]
      refine linkedAddAll_server (s := [⟨ipv6Global, true⟩]) (by simp) (fun r h => ?_) n
      obtain ⟨m, -, rfl⟩ := (hi r).mp (List.mem_of_mem_filter h)
      rfl
    · have hmem : ipv6DefaultRoute ∈ blocks := by
        obtain ⟨r, hm, hd⟩ := List.any_eq_true.mp hany
        rcases List.mem_append.mp (hr ▸ hm) with hm | hm
        · obtain ⟨m, hb, rfl⟩ := (hi r).mp hm
          exact (hdefault m).mp hd ▸ hb
        · rw [List.mem_singleton.mp hm] at hd
          cases hd
      rw [mem_linkedAddAll, List.mem_singleton, List.mem_filter, hi]
      constructor
      · rintro (rfl | ⟨⟨m, hm, rfl⟩, hd⟩)
        · exact ⟨_, hmem, rfl⟩
        · have hd : m ≠ ipv6DefaultRoute := by simpa [isIncludedIpv6Default] using hd
          exact ⟨m, hm, by rw [narrowed, if_neg hd]⟩
      · rintro ⟨m, hm, rfl⟩
        by_cases hd : m = ipv6DefaultRoute
        · exact .inl (by rw [narrowed, if_pos hd])
        · rw [narrowed, if_neg hd]
          exact .inr ⟨⟨m, hm, rfl⟩, by simpa [isIncludedIpv6Default] using hd⟩
  · refine ⟨incs, by rw [replaceIpv6Default, if_neg hany, hr], fun r => ?_⟩
    rw [hi]
    refine exists_congr fun m => and_congr_right fun hm => ?_
    have hd : m ≠ ipv6DefaultRoute := fun h => hany (List.any_eq_true.mpr
      ⟨⟨m, true⟩, hr ▸ List.mem_append_left _ ((hi _).mpr ⟨m, hm, rfl⟩), (hdefault m).mpr h⟩)
    rw [narrowed, if_neg hd]

theorem processSplitTunneling_inclusive (hr : b.routes = fixedRoutes hostName) (hi : b.includedAddresses ≠ [])
    (hx : b.excludedAddresses = []) : ∃ b', b.processSplitTunneling = .ok b' ∧ b'.routes =
      linkedAddAll (linkedAddAll [] (b.includedAddresses.map (⟨·, true⟩))) [⟨serverNetwork hostName, false⟩] := by
  refine ⟨(((b.removeRoute ipv4Default).removeRoute ipv6DefaultRoute).removeRoute ipv6Global).prependRoutes
    (·.addRoutes b.includedAddresses), by simp [processSplitTunneling, hi, hx], ?_⟩
  rw [← removed_fixedRoutes hr]
  rfl

/-- The routes with sites to include: those, and the server's exclusion after them. -/
theorem inclusive_split (hr : b.routes = fixedRoutes hostName) (hi : ∀ n, n ∈ b.includedAddresses ↔ n ∈ blocks)
    (hne : blocks ≠ []) (hx : b.excludedAddresses = []) : ∃ b₁ incs, b.processSplitTunneling = .ok b₁ ∧
      b₁.replaceIpv6Default.routes = incs ++ [⟨serverNetwork hostName, false⟩] ∧
      ∀ r, r ∈ incs ↔ ∃ n ∈ blocks, r = ⟨narrowed n, true⟩ := by
  obtain ⟨n, hn⟩ := List.exists_mem_of_ne_nil _ hne
  obtain ⟨b₁, hb, hroutes⟩ := processSplitTunneling_inclusive hr (List.ne_nil_of_mem ((hi n).mpr hn)) hx
  have hmem : ∀ r, r ∈ linkedAddAll [] (b.includedAddresses.map (⟨·, true⟩ : InetNetwork → Route)) ↔
      ∃ n ∈ blocks, r = ⟨n, true⟩ := by
    simp [mem_linkedAddAll, hi, eq_comm]
  have hserver := linkedAddAll_server (fun r hr => by obtain ⟨m, -, rfl⟩ := (hmem r).mp hr; rfl)
    (List.forall_mem_nil _) (serverNetwork hostName)
  obtain ⟨incs, hrep, hincs⟩ := replaceIpv6Default_inclusive (hroutes.trans hserver) hmem
  exact ⟨b₁, incs, hb, hrep, hincs⟩

theorem serverNetwork_valid (hostName : IpAddress) : (serverNetwork hostName).Valid := by
  rcases hostName.size_cases with h | h <;> simp [InetNetwork.Valid, serverNetwork, IpAddress.maxMask, h]

theorem not_ipv6Loopback (h : InDomain ip) : ¬ipv6Loopback.Contains ip := by
  rw [ipv6Loopback_contains]
  rintro rfl
  revert h
  rw [InDomain]
  decide

theorem tunnels_of_included (h : ∀ r ∈ routes, r.included = true) (ip : IpAddress) :
    Tunnels routes ip ↔ Covers routes ip := by
  have happ := tunnels_append h (List.forall_mem_nil (fun e : Route => e.included = false)) ip
  rw [List.append_nil] at happ
  rw [happ]
  constructor
  · rintro ⟨r, hr, hc, -⟩
    exact ⟨r, hr, h r hr, hc⟩
  · rintro ⟨r, hr, -, hc⟩
    exact ⟨r, hr, hc, by simp⟩

theorem processRoutes_new {b₂ : Builder} (hsdk : TIRAMISU ≤ sdkInt) (h : b.processRoutes sdkInt = .ok b₂) :
    b₂ = b.replaceIpv6Default.dropLoopback := by
  rw [processRoutes, if_neg (by omega)] at h
  exact (Except.ok.inj h).symm

section Exclusive

variable {b₂ : Builder} (hform : ExclusiveForm (blocks ++ [serverNetwork hostName]) b.replaceIpv6Default.routes)
  (h : b.processRoutes sdkInt = .ok b₂) (hip : InDomain ip)

include hform h hip

theorem exclusive_old (hv : ∀ n ∈ blocks, n.Valid) (hsdk : sdkInt < TIRAMISU) :
    Tunnels b₂.routes ip ↔ (¬∃ n ∈ blocks, n.Contains ip) ∧ ¬(serverNetwork hostName).Contains ip ∧
      ¬ipv4Loopback.Contains ip := by
  obtain ⟨b', h', hinc, hcov⟩ := processRoutes_exclusiveForm hsdk hform (by simp) fun n hn => by
    rcases List.mem_append.mp hn with hn | hn
    · exact hv n hn
    · exact List.mem_singleton.mp hn ▸ serverNetwork_valid hostName
  obtain rfl := Except.ok.inj (h.symm.trans h')
  have hd : ipv4Default.Contains ip ∨ ipv6Global.Contains ip := hip
  rw [tunnels_of_included hinc, hcov]
  simp [hd, not_ipv6Loopback hip, or_imp, forall_and, and_assoc]

theorem exclusive_new (hsdk : TIRAMISU ≤ sdkInt) :
    Tunnels b₂.routes ip ↔ ¬(serverNetwork hostName).Contains ip ∧
      ∀ n ∈ blocks, n.Contains ip → ipv6Global.Contains ip ∧ n.mask < 3 := by
  obtain rfl := processRoutes_new hsdk h
  rw [dropLoopback_exclusiveForm hform, tunnels_exclusive_iff hform hip, List.forall_mem_append,
    List.forall_mem_singleton, and_comm]
  exact and_congr_left fun _ => ⟨fun hs hc => absurd (hs hc).2 (by simp [serverNetwork]), fun hs hc => absurd hc hs⟩

end Exclusive

section Inclusive

variable {b₂ : Builder} {incs : List Route}
  (hroutes : b.replaceIpv6Default.routes = incs ++ [⟨serverNetwork hostName, false⟩])
  (hi : ∀ r, r ∈ incs ↔ ∃ n ∈ blocks, r = ⟨narrowed n, true⟩) (h : b.processRoutes sdkInt = .ok b₂)
  (hip : InDomain ip)

include hi in
theorem incs_included : ∀ r ∈ incs, r.included = true := by
  intro r hr
  obtain ⟨n, -, rfl⟩ := (hi r).mp hr
  rfl

include hroutes hi h hip

theorem inclusive_old (hv : ∀ n ∈ blocks, n.Valid) (hsdk : sdkInt < TIRAMISU) :
    Tunnels b₂.routes ip ↔ (∃ n ∈ blocks, n.Contains ip) ∧ ¬(serverNetwork hostName).Contains ip ∧
      ¬ipv4Loopback.Contains ip := by
  have hvalid : ∀ r ∈ b.replaceIpv6Default.routes, r.inetNetwork.Valid := by
    intro r hr
    rcases List.mem_append.mp (hroutes ▸ hr) with hr | hr
    · obtain ⟨n, hn, rfl⟩ := (hi r).mp hr
      change (narrowed n).Valid
      rw [narrowed]
      split
      · decide
      · exact hv n hn
    · exact List.mem_singleton.mp hr ▸ serverNetwork_valid hostName
  obtain ⟨b', h', hinc, hcov⟩ := processRoutes_old hsdk (by simp [hroutes]) hvalid
  obtain rfl := Except.ok.inj (h.symm.trans h')
  rw [tunnels_of_included hinc, hcov, hroutes, mem_foldl_append (incs_included hi) (by simp)]
  simp [hi, not_ipv6Loopback hip, narrowed_contains hip, and_assoc]

theorem inclusive_new (hsdk : TIRAMISU ≤ sdkInt) : Tunnels b₂.routes ip ↔ Reached hostName blocks ip := by
  obtain rfl := processRoutes_new hsdk h
  have hincs : ∀ r ∈ incs.filter (!isIncludedLoopback ·), r.included = true :=
    fun r hr => incs_included hi r (List.mem_of_mem_filter hr)
  have hserver : [(⟨serverNetwork hostName, false⟩ : Route)].filter (!isIncludedLoopback ·) =
      [⟨serverNetwork hostName, false⟩] := rfl
  rw [dropLoopback, hroutes, List.filter_append, hserver, tunnels_append hincs (by simp)]
  simp only [List.mem_filter, hi, List.mem_singleton, forall_eq]
  constructor
  · rintro ⟨_, ⟨⟨n, hn, rfl⟩, hl⟩, hc, hm⟩
    refine ⟨n, hn, (narrowed_contains hip n).mp hc, ?_, fun hs => (narrowed_mask n).mp (hm hs)⟩
    rw [← narrowed_loopback]
    simpa using hl
  · rintro ⟨n, hn, hc, hl, hm⟩
    rw [← narrowed_loopback] at hl
    exact ⟨_, ⟨⟨n, hn, rfl⟩, by rw [hl]; rfl⟩, (narrowed_contains hip n).mpr hc,
      fun hs => (narrowed_mask n).mpr (hm hs)⟩

end Inclusive

theorem serverNetwork_same {a b : IpAddress} (ha : (serverNetwork hostName).Contains a)
    (hb : (serverNetwork hostName).Contains b) :
    BigEndian.value a.address / 2 ^ (a.maxMask - 32) = BigEndian.value b.address / 2 ^ (a.maxMask - 32) := by
  have hbits : (serverNetwork hostName).hostBits = a.maxMask - 32 := by
    simp only [InetNetwork.hostBits, IpAddress.maxMask, ha.1, serverNetwork]
  rw [← hbits]
  exact ha.2.trans hb.2.symm

theorem exists_other (hostName : IpAddress) :
    ∃ ip, InDomain ip ∧ ¬(serverNetwork hostName).Contains ip ∧ ¬ipv4Loopback.Contains ip := by
  by_cases h : (serverNetwork hostName).Contains ⟨[1, 0, 0, 0], .inl rfl⟩
  · exact ⟨⟨[2, 0, 0, 0], .inl rfl⟩, .inl (by decide), fun h' => absurd (serverNetwork_same h h') (by decide), by decide⟩
  · exact ⟨_, .inl (by decide), h, by decide⟩

theorem exists_global (hostName : IpAddress) : ∃ ip, ipv6Global.Contains ip ∧ ¬(serverNetwork hostName).Contains ip := by
  by_cases h : (serverNetwork hostName).Contains ⟨0x20 :: List.replicate 15 0, .inr rfl⟩
  · exact ⟨⟨0x30 :: List.replicate 15 0, .inr rfl⟩, by decide, fun h' => absurd (serverNetwork_same h h') (by decide)⟩
  · exact ⟨_, by decide, h⟩

theorem quarter_of_global (h : ipv6Global.Contains ip) : ipv6Quarter.Contains ip :=
  InetNetwork.contains_of_mask_le (by decide) (by decide) (InetNetwork.contains_self _) h

theorem pair_of_loopback (h : ipv4Loopback.Contains ip) : loopbackPair.Contains ip :=
  InetNetwork.contains_of_mask_le (by decide) (by decide) (InetNetwork.contains_self _) h

/-- The server's `/32` lies in or out of `2000::/3` as a whole. -/
theorem global_of_server (hs : (serverNetwork hostName).Contains ip) :
    ipv6Global.Contains ip ↔ ipv6Global.Contains hostName :=
  ⟨fun h => InetNetwork.contains_of_mask_le (m := serverNetwork hostName) (by simp [serverNetwork, ipv6Global]) h hs
      (InetNetwork.contains_self _),
    fun h => InetNetwork.contains_of_mask_le (m := serverNetwork hostName) (by simp [serverNetwork, ipv6Global]) h
      (InetNetwork.contains_self _) hs⟩

theorem eq_server (h4 : ip.size = 4) (hs : (serverNetwork hostName).Contains ip) : ip = hostName := by
  have hv := serverNetwork_same hs (InetNetwork.contains_self (serverNetwork hostName))
  rw [IpAddress.maxMask, h4, Nat.pow_zero, Nat.div_one, Nat.div_one] at hv
  exact IpAddress.ext_value hs.1 hv

/-- An IPv6 server does not have its `/32` to itself. -/
theorem exists_neighbour (h6 : hostName.size = 16) : ∃ ip, (serverNetwork hostName).Contains ip ∧ ip ≠ hostName := by
  have hlt := hostName.value_lt_size
  generalize hv : BigEndian.value hostName.address = v at hlt
  rw [h6] at hlt
  obtain ⟨ip, hsize, hip⟩ := hostName.exists_of_value
    (show v / 2 * 2 + (1 - v % 2) < 256 ^ hostName.size by rw [h6]; omega)
  refine ⟨ip, ⟨hsize, ?_⟩, ?_⟩
  · have hbits : (serverNetwork hostName).hostBits = 96 := by
      simp [InetNetwork.hostBits, IpAddress.maxMask, serverNetwork, h6]
    rw [hbits, hip]
    change _ = BigEndian.value hostName.address / 2 ^ 96
    omega
  · rintro rfl
    omega

theorem build_some {config : SplitTunnelKeys} (h : build sdkInt hostName mtu config = some routes)
    (hb : parseConfig hostName mtu config = .ok b) :
    ∃ b₁ b₂, b.processSplitTunneling = .ok b₁ ∧ b₁.processRoutes sdkInt = .ok b₂ ∧ b₂.routes = routes := by
  simp only [build, hb, Except.toOption, Option.bind_eq_bind, Option.bind_some, configBuild] at h
  cases h₁ : b.processSplitTunneling with
  | error e => simp [h₁, bind, Except.bind] at h
  | ok b₁ =>
    cases h₂ : b₁.processRoutes sdkInt with
    | error e => simp [h₁, h₂, bind, Except.bind] at h
    | ok b₂ =>
      cases h₃ : b₂.validate with
      | error e => simp [h₁, h₂, h₃, bind, Except.bind] at h
      | ok _ => exact ⟨b₁, b₂, rfl, h₂, by simpa [h₁, h₂, h₃, bind, Except.bind, pure, Except.pure] using h⟩

theorem keepsOut_exclusive (hmode : choice.mode ≠ .included) (ip : IpAddress) :
    choice.KeepsOut ip ↔ ∃ n ∈ choice.blocks, n.Contains ip := by
  cases hm : choice.mode with
  | disabled => simp [Choice.KeepsOut, hm, blocks_disabled hm]
  | included => exact absurd hm hmode
  | excluded =>
    rw [blocks_contain (by simp [hm])]
    simp only [Choice.KeepsOut, hm]

theorem keepsOut_inclusive (hmode : choice.mode = .included) (ip : IpAddress) :
    choice.KeepsOut ip ↔ ¬∃ n ∈ choice.blocks, n.Contains ip := by
  rw [blocks_contain (by simp [hmode])]
  simp only [Choice.KeepsOut, hmode]

theorem old_iff (hsdk : sdkInt < TIRAMISU) (hsites : choice.mode = .included → choice.sites ≠ [])
    (htun : ∀ ip, InDomain ip → (Tunnels routes ip ↔ ¬choice.KeepsOut ip ∧ ¬(serverNetwork hostName).Contains ip ∧
      ¬ipv4Loopback.Contains ip)) : BypassesOnlyServer hostName choice routes ↔ Exact sdkInt hostName choice := by
  constructor
  · intro hp
    refine ⟨hsites, fun _ ip hip hk hs => ?_, fun h => by omega, fun _ ip hl hk => ?_, fun h => by omega,
      fun h => by omega⟩
    · exact ((hp ip hip).mp fun ht => ((htun ip hip).mp ht).2.1 hs).resolve_right hk
    · have hip : InDomain ip := .inl (ipv4Default_contains.mpr hl.1)
      exact ((hp ip hip).mp fun ht => ((htun ip hip).mp ht).2.2 hl).resolve_right hk
  · intro he ip hip
    rw [htun ip hip]
    constructor
    · intro hn
      by_contra hno
      obtain ⟨hne, hk⟩ := not_or.mp hno
      exact hn ⟨hk, fun hs => hne (he.server (.inl hsdk) ip hip hk hs), fun hl => hne (he.loopback hsdk ip hl hk)⟩
    · rintro (rfl | hk) ht
      · exact ht.2.1 (InetNetwork.contains_self _)
      · exact ht.1 hk

theorem exclusive_iff (hsdk : TIRAMISU ≤ sdkInt) (hmode : choice.mode ≠ .included)
    (htun : ∀ ip, InDomain ip → (Tunnels routes ip ↔ ¬(serverNetwork hostName).Contains ip ∧
      ∀ n ∈ choice.blocks, n.Contains ip → ipv6Global.Contains ip ∧ n.mask < 3)) :
    BypassesOnlyServer hostName choice routes ↔ Exact sdkInt hostName choice := by
  constructor
  · intro hp
    refine ⟨fun h => absurd h hmode, fun _ ip hip hk hs => ?_, fun _ h => absurd h hmode, fun h => by omega,
      fun _ h => absurd h hmode, fun _ _ => ?_⟩
    · exact ((hp ip hip).mp fun ht => ((htun ip hip).mp ht).1 hs).resolve_right hk
    · by_contra hall
      have hall : ∀ ip, ipv6Quarter.Contains ip → choice.KeepsOut ip := fun ip hq =>
        by_contra fun hk => hall ⟨ip, hq, hk⟩
      obtain ⟨ip, hg, hs⟩ := exists_global hostName
      have hq := quarter_of_global hg
      refine (hp ip (.inr hg)).mpr (.inr (hall ip hq)) ((htun ip (.inr hg)).mpr ⟨hs, fun n hn hc => ⟨hg, ?_⟩⟩)
      exact Nat.lt_succ_of_le (blocks_mask_le (m := ipv6Quarter) (by decide)
        (fun ip hq => (keepsOut_exclusive hmode ip).mp (hall ip hq)) hn hc hq)
  · intro he ip hip
    rw [htun ip hip]
    constructor
    · intro hn
      by_contra hno
      obtain ⟨hne, hk⟩ := not_or.mp hno
      exact hn ⟨fun hs => hne (he.server (.inr hmode) ip hip hk hs),
        fun n hn hc => absurd ((keepsOut_exclusive hmode ip).mpr ⟨n, hn, hc⟩) hk⟩
    · rintro (rfl | hk) ⟨hs, hb⟩
      · exact hs (InetNetwork.contains_self _)
      · obtain ⟨n, hn, hc⟩ := (keepsOut_exclusive hmode ip).mp hk
        obtain ⟨hg, hm⟩ := hb n hn hc
        obtain ⟨ip', hq, hk'⟩ := he.exclusions hsdk hmode
        exact hk' ((keepsOut_exclusive hmode ip').mpr
          ⟨n, hn, InetNetwork.contains_of_mask_le (Nat.le_of_lt_succ hm) hc (quarter_of_global hg) hq⟩)

/-- A block that meets the loopback network and is kept spans the pair. -/
theorem pair_of_kept {n : InetNetwork} {ip' : IpAddress} (hl : ipv4Loopback.Contains ip) (hc : n.Contains ip)
    (hk : isIncludedLoopback ⟨n, true⟩ = false) (hip : loopbackPair.Contains ip') : n.Contains ip' := by
  refine InetNetwork.contains_of_mask_le ?_ hc (pair_of_loopback hl) hip
  by_contra hlt
  have hin : ipv4Loopback.Contains n.address :=
    InetNetwork.contains_of_mask_le (show ipv4Loopback.mask ≤ n.mask from Nat.lt_of_not_le hlt) hl hc n.contains_self
  exact absurd ((isIncludedLoopback_iff n).mpr (.inl hin)) (Bool.eq_false_iff.mp hk)

/-- A block that starts in the loopback network lies in it. -/
theorem mask_of_loopback {n : InetNetwork} (ha : n.Aligned) (hl : ipv4Loopback.Contains n.address) : 8 ≤ n.mask := by
  by_contra hlt
  have hfirst : n.Contains loopbackPair.address := InetNetwork.contains_of_mask_le
    (show n.mask ≤ loopbackPair.mask from Nat.le_of_lt_succ (Nat.lt_of_not_le hlt)) n.contains_self
    (pair_of_loopback hl) (InetNetwork.contains_self _)
  have hle := (Blocks.Block.mem_points.mp (InetNetwork.contains_iff_block.mp hfirst).2).1
  rw [InetNetwork.block_start ha] at hle
  change BigEndian.value n.address.address ≤ 126 * 256 ^ 3 at hle
  have hv : BigEndian.value n.address.address / 2 ^ 24 = 127 * 256 ^ 3 / 2 ^ 24 := hl.2
  omega

theorem inclusive_iff (hsdk : TIRAMISU ≤ sdkInt) (hmode : choice.mode = .included) (hsites : choice.sites ≠ [])
    (htun : ∀ ip, InDomain ip → (Tunnels routes ip ↔ Reached hostName choice.blocks ip)) :
    BypassesOnlyServer hostName choice routes ↔ Exact sdkInt hostName choice := by
  have hin : ∀ ip, ¬choice.KeepsOut ip ↔ ∃ n ∈ choice.blocks, n.Contains ip := fun ip => by
    rw [keepsOut_inclusive hmode, not_not]
  constructor
  · intro hp
    have hreached : ∀ ip, InDomain ip → ¬choice.KeepsOut ip → ip ≠ hostName → Reached hostName choice.blocks ip :=
      fun ip hip hk hne => (htun ip hip).mp (by_contra fun ht => ((hp ip hip).mp ht).elim hne hk)
    refine ⟨fun _ => hsites, fun h => ?_, fun _ _ hg => by_contra fun hk => ?_, fun h => by omega, ?_,
      fun _ h => absurd hmode h⟩
    · exact absurd h (not_or.mpr ⟨by omega, not_not.mpr hmode⟩)
    · obtain ⟨n, hn, hc⟩ := (hin hostName).mp hk
      have hkept : isIncludedLoopback ⟨n, true⟩ = false := by
        rw [Bool.eq_false_iff, Ne, isIncludedLoopback_iff]
        rintro (hl | rfl)
        · exact absurd ((hc.1.trans hl.1).symm.trans hg.1) (by decide)
        · exact not_ipv6Loopback (.inr hg) hc
      have hmask : n.mask ≤ 32 := by
        by_contra hlt
        exact (hp hostName (.inr hg)).mpr (.inl rfl)
          ((htun _ (.inr hg)).mpr ⟨n, hn, hc, hkept, fun _ => Nat.lt_of_not_le hlt⟩)
      -- the block holds the whole network of the server, and no shorter block holds a part of it
      have hserver : ∀ ip, (serverNetwork hostName).Contains ip → n.Contains ip := fun ip =>
        InetNetwork.contains_of_mask_le hmask hc (InetNetwork.contains_self (serverNetwork hostName))
      obtain ⟨ip, hs, hne⟩ := exists_neighbour (hg.1 : hostName.size = 16)
      obtain ⟨m, hm, hmc, -, hlen⟩ := hreached ip (.inr ((global_of_server hs).mpr hg))
        ((hin ip).mpr ⟨n, hn, hserver ip hs⟩) hne
      exact Nat.not_le_of_lt (hlen hs)
        (blocks_mask_le (serverNetwork_valid hostName) (fun ip h => ⟨n, hn, hserver ip h⟩) hm hmc hs)
    · rintro - - ⟨ip, hl, hk, hne⟩ ip' hip'
      obtain ⟨n, hn, hc, hkept, -⟩ := hreached ip (.inl (ipv4Default_contains.mpr hl.1)) hk hne
      exact (hin ip').mpr ⟨n, hn, pair_of_kept hl hc hkept hip'⟩
  · intro he ip hip
    rw [htun ip hip]
    by_cases hk : choice.KeepsOut ip
    · refine iff_of_true ?_ (.inr hk)
      rintro ⟨n, hn, hc, -⟩
      exact (hin ip).mpr ⟨n, hn, hc⟩ hk
    rw [or_iff_left hk]
    constructor
    · refine fun hr => by_contra fun hne => hr ?_
      obtain ⟨n, hn, hc⟩ := (hin ip).mp hk
      refine ⟨n, hn, hc, ?_, fun hs => Nat.lt_of_not_le fun hle => ?_⟩
      · rw [Bool.eq_false_iff, Ne, isIncludedLoopback_iff]
        rintro (hl | rfl)
        · have hmask := mask_of_loopback (blocks_valid choice n hn).2 hl
          have hli : ipv4Loopback.Contains ip := InetNetwork.contains_of_mask_le hmask hl n.contains_self hc
          have hle := blocks_mask_le (m := loopbackPair) (by decide) (fun ip' h => (hin ip').mp
            (he.includedLoopback hsdk hmode ⟨ip, hli, hk, hne⟩ ip' h)) hn hc (pair_of_loopback hli)
          exact absurd (hmask.trans hle) (by decide)
        · exact not_ipv6Loopback hip hc
      · rcases hip with h4 | hg
        · exact hne (eq_server h4.1 hs)
        · exact (hin hostName).mpr ⟨n, hn, InetNetwork.contains_of_mask_le hle hc hs (InetNetwork.contains_self _)⟩
            (he.includedServer hsdk hmode ((global_of_server hs).mp hg))
    · rintro rfl ⟨n, hn, hc, -, hlen⟩
      have hlen := hlen (InetNetwork.contains_self _)
      rcases hip with h4 | hg
      · have hv := (blocks_valid choice n hn).1
        rw [InetNetwork.Valid, IpAddress.maxMask, ← hc.1, h4.1] at hv
        exact absurd (hlen.trans_le hv) (by decide)
      · exact hk (he.includedServer hsdk hmode hg)

/-- Including no site at all is taken for no split tunnelling. -/
theorem not_bypasses_of_no_sites (hmode : choice.mode = .included) (hsites : choice.sites = [])
    (hform : ExclusiveForm ([] ++ [serverNetwork hostName]) b.replaceIpv6Default.routes) {b₂ : Builder}
    (h : b.processRoutes sdkInt = .ok b₂) : ¬BypassesOnlyServer hostName choice b₂.routes := by
  obtain ⟨ip, hip, hs, hl⟩ := exists_other hostName
  have hk : choice.KeepsOut ip := by simp [Choice.KeepsOut, hmode, hsites]
  refine fun hp => (hp ip hip).mpr (.inr hk) ?_
  by_cases hsdk : sdkInt < TIRAMISU
  · exact (exclusive_old hform h hip (List.forall_mem_nil _) hsdk).mpr ⟨by simp, hs, hl⟩
  · exact (exclusive_new hform h hip (Nat.not_lt.mp hsdk)).mpr ⟨hs, List.forall_mem_nil _⟩

/-- For every list that is built: the server's exclusion is a `/32` in both families, below Android 13 the loopback
network is lost as well, and from Android 13 on a site network may lose against a longer or equal route. -/
theorem bypasses_only_server_iff (h : build sdkInt hostName mtu choice.keys = some routes) :
    BypassesOnlyServer hostName choice routes ↔ Exact sdkInt hostName choice := by
  obtain ⟨b, hb, hr, hi, hx⟩ := parseConfig_choice hostName mtu choice
  obtain ⟨b₁, b₂, h₁, h₂, rfl⟩ := build_some h hb
  have hv : ∀ n ∈ choice.blocks, n.Valid := fun n hn => (blocks_valid choice n hn).1
  by_cases hmode : choice.mode = .included
  · have hcov := blocks_contain (show choice.mode ≠ .disabled by simp [hmode])
    have hnone : b.excludedAddresses = [] := List.eq_nil_iff_forall_not_mem.mpr fun n hn => by
      simp [hmode] at hx
      exact hx n hn
    by_cases hsites : choice.sites = []
    · have hnil : choice.blocks = [] := List.eq_nil_iff_forall_not_mem.mpr fun n hn => by
        simpa [hsites] using (hcov n.address).mp ⟨n, hn, n.contains_self⟩
      obtain ⟨_, h₁', hform⟩ := exclusive_split hr
        (List.eq_nil_iff_forall_not_mem.mpr fun n hn => by simpa [hnil] using (hi n).mp hn)
        (show ∀ n, n ∈ b.excludedAddresses ↔ n ∈ [] by simp [hnone])
      obtain rfl := Except.ok.inj (h₁.symm.trans h₁')
      exact iff_of_false (not_bypasses_of_no_sites hmode hsites hform h₂) fun he => he.sites hmode hsites
    · have hne : choice.blocks ≠ [] := by
        obtain ⟨n, hn⟩ := List.exists_mem_of_ne_nil _ hsites
        obtain ⟨m, hm, -⟩ := (hcov n.address).mpr ⟨n, hn, n.contains_self⟩
        exact List.ne_nil_of_mem hm
      obtain ⟨_, incs, h₁', hroutes, hincs⟩ := inclusive_split hr (by simpa [hmode] using hi) hne hnone
      obtain rfl := Except.ok.inj (h₁.symm.trans h₁')
      by_cases hsdk : sdkInt < TIRAMISU
      · refine old_iff hsdk (fun _ => hsites) fun ip hip => ?_
        rw [inclusive_old hroutes hincs h₂ hip hv hsdk, keepsOut_inclusive hmode, not_not]
      · have hsdk := Nat.not_lt.mp hsdk
        exact inclusive_iff hsdk hmode hsites fun ip hip => inclusive_new hroutes hincs h₂ hip hsdk
  · have hexc : ∀ n, n ∈ b.excludedAddresses ↔ n ∈ choice.blocks := by
      intro n
      rw [hx]
      cases hm : choice.mode with
      | disabled => simp [blocks_disabled hm]
      | included => exact absurd hm hmode
      | excluded => simp
    obtain ⟨_, h₁', hform⟩ := exclusive_split hr
      (List.eq_nil_iff_forall_not_mem.mpr fun n hn => hmode ((hi n).mp hn).1) hexc
    obtain rfl := Except.ok.inj (h₁.symm.trans h₁')
    by_cases hsdk : sdkInt < TIRAMISU
    · refine old_iff hsdk (fun h => absurd h hmode) fun ip hip => ?_
      rw [exclusive_old hform h₂ hip hv hsdk, keepsOut_exclusive hmode]
    · have hsdk := Nat.not_lt.mp hsdk
      exact exclusive_iff hsdk hmode fun ip hip => exclusive_new hform h₂ hip hsdk

def off : Choice := ⟨.disabled, [], List.forall_mem_nil _⟩

def ipv4Server : IpAddress := ⟨[203, 0, 113, 7], .inl rfl⟩

theorem bypasses_only_server_ipv4 : build 33 ipv4Server 1500 off.keys = some (fixedRoutes ipv4Server) ∧
    (BypassesOnlyServer ipv4Server off (fixedRoutes ipv4Server) ↔ Exact 33 ipv4Server off) :=
  ⟨by decide, bypasses_only_server_iff (show build 33 ipv4Server 1500 off.keys = _ by decide)⟩

/-- `2001:db8::` and the given last byte. -/
def documentation (last : UInt8) : IpAddress := ⟨[0x20, 0x01, 0x0d, 0xb8] ++ List.replicate 11 0 ++ [last], .inr rfl⟩

/-- An IPv6 server takes its whole `/32` out of the tunnel. -/
theorem ipv6_server_bypasses_neighbour :
    build 33 (documentation 1) 1500 off.keys = some (fixedRoutes (documentation 1)) ∧ InDomain (documentation 2) ∧
      ¬Tunnels (fixedRoutes (documentation 1)) (documentation 2) ∧ documentation 2 ≠ documentation 1 ∧
      ¬off.KeepsOut (documentation 2) :=
  ⟨by decide, .inr (by decide), by decide, by decide, not_false⟩

end Xray

end TunnelCore.Android
