import TunnelCore.Android.SplitTunneling
import TunnelCore.Android.Subnets

namespace TunnelCore.Android

open BigEndian Spans

inductive SplitTunnelError
  | badSite
  | missingSites
  | badConfig (splitTunnelType : Int)
  | net (e : NetError)
deriving DecidableEq

/-- The two keys that `configSplitTunneling` reads; an entry of the array is what `InetNetwork.parse` makes of it. -/
structure SplitTunnelKeys where
  splitTunnelType : Option Int
  splitTunnelSites : Option (List (Option InetNetwork))

namespace Builder

def includeAddress (b : Builder) (addr : InetNetwork) : Builder :=
  { b with includedAddresses := linkedAdd b.includedAddresses addr }

def excludeAddress (b : Builder) (addr : InetNetwork) : Builder :=
  { b with excludedAddresses := linkedAdd b.excludedAddresses addr }

def SPLIT_TUNNEL_DISABLE : Int := 0

def SPLIT_TUNNEL_INCLUDE : Int := 1

def SPLIT_TUNNEL_EXCLUDE : Int := 2

def addressHandlerFunc (splitTunnelType : Int) : Except SplitTunnelError (Builder → InetNetwork → Builder) :=
  if splitTunnelType = SPLIT_TUNNEL_INCLUDE then .ok includeAddress
  else if splitTunnelType = SPLIT_TUNNEL_EXCLUDE then .ok excludeAddress
  else .error (.badConfig splitTunnelType)

def addSite (addressRanges : IpRangeSet) (site : Option InetNetwork) : Except SplitTunnelError IpRangeSet :=
  match site with
  | none => .error .badSite
  | some n =>
    match IpRange.ofNetwork n with
    | .error e => .error (.net e)
    | .ok range => (addressRanges.add range).mapError .net

def compactedAddresses (splitTunnelSites : List (Option InetNetwork)) : Except SplitTunnelError (List InetNetwork) := do
  let addressRanges ← splitTunnelSites.foldlM addSite IpRangeSet.empty
  addressRanges.subnets.mapError .net

def configSplitTunneling (allowSplitTunneling : Bool) (config : SplitTunnelKeys) (b : Builder) :
    Except SplitTunnelError Builder :=
  if !allowSplitTunneling then .ok b
  else if config.splitTunnelType.getD 0 = SPLIT_TUNNEL_DISABLE then .ok b
  else
    match config.splitTunnelSites with
    | none => .error .missingSites
    | some splitTunnelSites => do
      let handler ← addressHandlerFunc (config.splitTunnelType.getD 0)
      let addresses ← compactedAddresses splitTunnelSites
      pure (addresses.foldl handler b)

end Builder

open Builder

variable {s : IpRangeSet} {sites : List InetNetwork}

theorem addSite_spec {n : InetNetwork} (hs : Separated s.ranges) (hv : n.Valid) :
    ∃ s', addSite s (some n) = .ok s' ∧ Separated s'.ranges ∧ s'.covered = s.covered ∪ {ip | n.Contains ip} := by
  obtain ⟨range, hr, ha⟩ := addresses_ofNetwork hv
  obtain ⟨s', hc, hs', hm⟩ := s.call_spec (.add range) hs
  rw [IpRangeSet.call] at hc
  exact ⟨s', by simp only [addSite, hr, hc, Except.mapError], hs', by rw [hm, IpRangeSet.Call.meaning, ha]⟩

theorem foldlM_addSite (hs : Separated s.ranges) (hv : ∀ n ∈ sites, n.Valid) :
    ∃ s', (sites.map some).foldlM addSite s = .ok s' ∧ Separated s'.ranges ∧
      s'.covered = s.covered ∪ {ip | ∃ n ∈ sites, n.Contains ip} := by
  induction sites generalizing s with
  | nil => exact ⟨s, rfl, hs, by simp⟩
  | cons n sites ih =>
    obtain ⟨t, ht, hts, htc⟩ := addSite_spec hs (hv n (.head _))
    obtain ⟨s', h, hs', hc⟩ := ih hts fun n' hn' => hv n' (.tail _ hn')
    refine ⟨s', by rw [List.map_cons, List.foldlM_cons, ht]; exact h, hs', ?_⟩
    ext ip
    simp [hc, htc, or_assoc]

theorem IpRange.exists_rank {r : IpRange} {x : Nat} (h : x ∈ points r) : ∃ ip : IpAddress, ip.rank = x := by
  obtain ⟨h1, h2⟩ := h
  change r.start.rank ≤ x at h1
  change x ≤ r.stop.rank at h2
  have hr := IpAddress.rank_sub_value r.same_size
  have hlt := r.stop.value_lt_size
  rw [← r.same_size] at hlt
  obtain ⟨ip, hs, hv⟩ := IpAddress.exists_of_value r.start
    (show value r.start.address + (x - r.start.rank) < 256 ^ r.start.size by omega)
  have := IpAddress.rank_sub_value hs
  exact ⟨ip, by omega⟩

theorem IpRangeSet.ext_covered {s t : IpRangeSet} (hs : Separated s.ranges) (ht : Separated t.ranges)
    (h : s.covered = t.covered) : s = t := by
  have hsub : ∀ {s t : IpRangeSet}, s.covered = t.covered → cover s.ranges ⊆ cover t.ranges := by
    rintro s t h x ⟨r, hr, hx⟩
    obtain ⟨ip, rfl⟩ := IpRange.exists_rank hx
    rw [IpRangeSet.covered_eq, IpRangeSet.covered_eq] at h
    exact (Set.ext_iff.mp h ip).mp ⟨r, hr, hx⟩
  have hc := hs.ext IpRange.lexicographic ht (Set.Subset.antisymm (hsub h) (hsub h.symm))
  cases s
  cases t
  exact congrArg IpRangeSet.mk hc

/-- Two sequences of calls store the same ranges exactly if they mean the same set of addresses. -/
theorem IpRangeSet.run_ranges_eq_iff (calls calls' : List Call) :
    empty.run calls = empty.run calls' ↔ calls.foldl Call.meaning ∅ = calls'.foldl Call.meaning ∅ := by
  obtain ⟨s, h, hs, hc⟩ := run_spec calls empty .nil
  obtain ⟨s', h', hs', hc'⟩ := run_spec calls' empty .nil
  rw [h, h', ← covered_empty, ← hc, ← hc', Except.ok.injEq]
  exact ⟨congrArg covered, ext_covered hs hs'⟩

def IpRange.holds (r : IpRange) (n : InetNetwork) : Bool := r.lo ≤ n.address.rank && n.address.rank ≤ r.hi

theorem IpRange.holds_iff {r : IpRange} {n : InetNetwork} : r.holds n = true ↔ n.address.rank ∈ points r := by
  simp only [holds, Bool.and_eq_true, decide_eq_true_eq]
  exact Iff.rfl

section Sites

variable {s : IpRangeSet} {sites : List InetNetwork}

/-- The ranges stand apart, so a network that they cover lies in one of them. -/
theorem network_in_range (hs : Separated s.ranges) {m : InetNetwork} (hv : m.Valid)
    (hc : ∀ ip, m.Contains ip → ip ∈ s.covered) : ∃ r ∈ s.ranges, ∀ ip, m.Contains ip → ip.rank ∈ points r := by
  obtain ⟨q, -, hq⟩ := IpRange.ofNetwork_spec hv
  obtain ⟨r, hr, hsub⟩ := hs.exists_block IpRange.lexicographic q.lo_le_hi fun x hx => by
    obtain ⟨ip, rfl⟩ := IpRange.exists_rank (r := q) hx
    have hcov := hc ip ((hq ip).mpr hx)
    rwa [IpRangeSet.covered_eq] at hcov
  exact ⟨r, hr, fun ip hip => hsub ((hq ip).mp hip)⟩

theorem site_in_range (hs : Separated s.ranges) (hv : ∀ n ∈ sites, n.Valid)
    (hc : s.covered = {ip | ∃ n ∈ sites, n.Contains ip}) {n : InetNetwork} (hn : n ∈ sites) :
    ∃ r ∈ s.ranges, ∀ ip, n.Contains ip → ip.rank ∈ points r :=
  network_in_range hs (hv n hn) fun ip hip => by
    rw [hc]
    exact ⟨n, hn, hip⟩

/-- The subnets are as large as they can be: one that meets a network within the set is at least as large. -/
theorem subnets_mask_le {nets : List InetNetwork} (hs : Separated s.ranges) (h : s.subnets = .ok nets)
    {m n : InetNetwork} (hv : m.Valid) (hc : ∀ ip, m.Contains ip → ip ∈ s.covered) (hn : n ∈ nets) {ip : IpAddress}
    (hni : n.Contains ip) (hmi : m.Contains ip) : n.mask ≤ m.mask := by
  obtain ⟨r, hr, part, hp, hn⟩ := mem_subnets h hn
  obtain ⟨r', hr', hin⟩ := network_in_range hs hv hc
  obtain ⟨_, hp', -, hcov⟩ := r.subnets_spec
  obtain rfl := Except.ok.inj (hp.symm.trans hp')
  obtain rfl := hs.eq_of_meet IpRange.lexicographic hr hr' ((hcov ip).mp ⟨n, hn, hni⟩) (hin ip hmi)
  obtain ⟨_, hp', hnets, hsplit⟩ := r.subnets_splits
  obtain rfl := Except.ok.inj (hp.symm.trans hp')
  have hbound : ∀ x ∈ points m.block, value r.start.address ≤ x ∧ x < value r.stop.address + 1 := by
    intro x hx
    obtain ⟨a, hsize, rfl⟩ := m.address.exists_of_value (InetNetwork.lt_of_mem_block hx)
    exact (IpRange.mem_iff_value.mp (hin a (InetNetwork.contains_iff_block.mpr ⟨hsize, hx⟩))).2
  have hlt := m.block.start_lt_top
  have hfirst := hbound m.block.start (Blocks.Block.mem_points.mpr ⟨le_rfl, hlt⟩)
  have hlast := hbound (m.block.top - 1) (Blocks.Block.mem_points.mpr ⟨by omega, by omega⟩)
  have hbits : m.hostBits ≤ n.hostBits := hsplit.bits_le hfirst.1 (by omega) (List.mem_map_of_mem hn)
    (InetNetwork.contains_iff_block.mp hni).2 (InetNetwork.contains_iff_block.mp hmi).2
  have hsize : n.address.size = m.address.size := hni.1.symm.trans hmi.1
  have hnv := (hnets n hn).1
  simp only [InetNetwork.hostBits, InetNetwork.Valid, IpAddress.maxMask, hsize] at hbits hnv
  omega

theorem sites_of_range (hs : Separated s.ranges) (hv : ∀ n ∈ sites, n.Valid)
    (hc : s.covered = {ip | ∃ n ∈ sites, n.Contains ip}) {r : IpRange} (hr : r ∈ s.ranges) (ip : IpAddress) :
    (∃ n ∈ sites.dedup.filter r.holds, n.Contains ip) ↔ r.lo ≤ ip.rank ∧ ip.rank ≤ r.hi := by
  constructor
  · rintro ⟨n, hn, hip⟩
    obtain ⟨hn, hh⟩ := List.mem_filter.mp hn
    obtain ⟨r', hr', hsub⟩ := site_in_range hs hv hc (List.mem_dedup.mp hn)
    have hsame := hs.eq_of_meet IpRange.lexicographic hr hr' (IpRange.holds_iff.mp hh) (hsub _ n.contains_self)
    exact hsame ▸ hsub ip hip
  · intro hip
    have hcov : ip ∈ s.covered := by
      rw [IpRangeSet.covered_eq]
      exact ⟨r, hr, hip⟩
    rw [hc] at hcov
    obtain ⟨n, hn, hin⟩ := hcov
    obtain ⟨r', hr', hsub⟩ := site_in_range hs hv hc hn
    have hsame := hs.eq_of_meet IpRange.lexicographic hr hr' hip (hsub ip hin)
    subst hsame
    exact ⟨n, List.mem_filter.mpr ⟨List.mem_dedup.mpr hn, IpRange.holds_iff.mpr (hsub _ n.contains_self)⟩, hin⟩

end Sites

/-- Every network of the list falls to one range at most, so the ranges' shares add up to no more than the list. -/
theorem mapM_subnets_length {ranges : List IpRange} {nets : List (List InetNetwork)}
    (hd : ranges.Pairwise (fun a b => ∀ n, ¬(a.holds n = true ∧ b.holds n = true)))
    (hc : ∀ r ∈ ranges, ∀ ip, (∃ n ∈ sites.filter r.holds, n.Contains ip) ↔ r.lo ≤ ip.rank ∧ ip.rank ≤ r.hi)
    (h : ranges.mapM IpRange.subnets = .ok nets) : nets.flatten.length ≤ sites.length := by
  induction ranges generalizing sites nets with
  | nil =>
    obtain rfl := Except.ok.inj h
    exact Nat.zero_le _
  | cons r ranges ih =>
    obtain ⟨hr, hd⟩ := List.pairwise_cons.mp hd
    obtain ⟨first, hf, -⟩ := r.subnets_spec
    obtain ⟨rest, hm, -⟩ := mapM_subnets ranges
    have hnets : nets = first :: rest := by
      rw [List.mapM_cons, hf, hm] at h
      exact (Except.ok.inj h).symm
    have hfirst := IpRange.subnets_length_le hf (hc r (.head _))
    have hrest : rest.flatten.length ≤ (sites.filter (fun n => !r.holds n)).length := ih hd (fun r' hr' => by
      have hsame : (sites.filter (fun n => !r.holds n)).filter r'.holds = sites.filter r'.holds := by
        rw [List.filter_filter]
        refine List.filter_congr fun n _ => ?_
        cases h2 : r'.holds n with
        | false => rfl
        | true => rw [Bool.eq_false_iff.mpr fun h1 => hr r' hr' n ⟨h1, h2⟩]; rfl
      rw [hsame]
      exact hc r' (.tail _ hr')) hm
    have hsplit := List.length_eq_length_filter_add r.holds (l := sites)
    rw [hnets, List.flatten_cons, List.length_append]
    omega

theorem subnets_length_le_sites {sites nets : List InetNetwork} (hs : Separated s.ranges)
    (hv : ∀ n ∈ sites, n.Valid) (hc : s.covered = {ip | ∃ n ∈ sites, n.Contains ip}) (h : s.subnets = .ok nets) :
    nets.length ≤ sites.dedup.length := by
  obtain ⟨parts, hm, -⟩ := mapM_subnets s.ranges
  rw [IpRangeSet.subnets, hm] at h
  obtain rfl := Except.ok.inj h
  refine mapM_subnets_length ?_ (fun r hr => sites_of_range hs hv hc hr) hm
  refine List.Pairwise.imp_of_mem (fun {a b} ha hb hab n hn => ?_) hs
  have hsame := hs.eq_of_meet IpRange.lexicographic ha hb (IpRange.holds_iff.mp hn.1) (IpRange.holds_iff.mp hn.2)
  rw [hsame] at hab
  have := Span.lo_le_hi b
  omega

theorem compactedAddresses_spec (hv : ∀ n ∈ sites, n.Valid) :
    ∃ (s : IpRangeSet) (nets : List InetNetwork), Separated s.ranges ∧ s.covered = {ip | ∃ n ∈ sites, n.Contains ip} ∧
      s.subnets = .ok nets ∧ compactedAddresses (sites.map some) = .ok nets := by
  obtain ⟨s, hf, hs, hc⟩ := foldlM_addSite (s := IpRangeSet.empty) List.Pairwise.nil hv
  obtain ⟨nets, hn, -⟩ := subnets_covered s
  rw [IpRangeSet.covered_empty, Set.empty_union] at hc
  exact ⟨s, nets, hs, hc, hn, by simp only [compactedAddresses, hf, hn, bind, Except.bind, Except.mapError]⟩

def IpAddress.isIpv4Mapped (ip : IpAddress) : Bool :=
  ip.size == 16 && ip.address.take 12 == List.replicate 10 0 ++ [0xff, 0xff]

/-- `InetAddress.getByName` on the printed address: one that maps an IPv4 address is read as that address. -/
def IpAddress.getByName (ip : IpAddress) : IpAddress :=
  if ip.isIpv4Mapped then ⟨(ip.address.drop 12).takeD 4 0, .inl (List.takeD_length _ _ _)⟩ else ip

/-- What `IpRange.subnets` adds for a block: the address is printed and read again. -/
def InetNetwork.reparsed (n : InetNetwork) : InetNetwork := ⟨n.address.getByName, n.mask⟩

theorem map_reparsed {nets : List InetNetwork} (h : ∀ n ∈ nets, n.address.isIpv4Mapped = false) :
    nets.map InetNetwork.reparsed = nets := by
  have hid : ∀ n ∈ nets, n.reparsed = id n := fun n hn => by
    simp [InetNetwork.reparsed, IpAddress.getByName, h n hn]
  rw [List.map_congr_left hid, List.map_id]

/-- The networks of any set of ranges, given back as a list of sites, come out as they are, unless one of them starts in
`::ffff:0:0/96` and is read as an IPv4 network. -/
theorem compactedAddresses_subnets (calls : List IpRangeSet.Call) :
    ∃ s nets, IpRangeSet.empty.run calls = .ok s ∧ s.subnets = .ok nets ∧
      ((∀ n ∈ nets, n.address.isIpv4Mapped = false) →
        (compactedAddresses ((nets.map InetNetwork.reparsed).map some)).map (List.map InetNetwork.reparsed) =
          .ok (nets.map InetNetwork.reparsed)) := by
  obtain ⟨s, hrun, hs, -⟩ := IpRangeSet.run_spec calls .empty .nil
  obtain ⟨nets, hnets, hcover⟩ := subnets_covered s
  obtain ⟨s', nets', hs', hc, hnets', hcompacted⟩ := compactedAddresses_spec fun n hn => (subnets_valid hnets n hn).1
  obtain rfl : s' = s := IpRangeSet.ext_covered hs' hs (hc.trans (Set.ext hcover))
  obtain rfl : nets' = nets := Except.ok.inj (hnets'.symm.trans hnets)
  refine ⟨s', nets', hrun, hnets, fun h => ?_⟩
  rw [map_reparsed h, hcompacted]
  exact congrArg Except.ok (map_reparsed h)

theorem configSplitTunneling_of_compacted {splitTunnelType : Int} {handler : Builder → InetNetwork → Builder}
    (ht : addressHandlerFunc splitTunnelType = .ok handler) {nets : List InetNetwork}
    (hc : compactedAddresses (sites.map some) = .ok nets) (b : Builder) :
    configSplitTunneling true ⟨some splitTunnelType, some (sites.map some)⟩ b = .ok (nets.foldl handler b) := by
  have hne : splitTunnelType ≠ SPLIT_TUNNEL_DISABLE := by
    rintro rfl
    cases ht
  simp only [configSplitTunneling, Bool.not_true, Bool.false_eq_true, if_false, Option.getD_some, hne, ht, hc, bind,
    Except.bind, pure, Except.pure]

/-- What the handler receives depends only on the addresses the sites denote: they are covered exactly, by no more
networks than there are different sites. -/
theorem compaction_canonical {sites₁ sites₂ : List InetNetwork} (h₁ : ∀ n ∈ sites₁, n.Valid)
    (h₂ : ∀ n ∈ sites₂, n.Valid)
    (hsame : ∀ ip, (∃ n ∈ sites₁, n.Contains ip) ↔ ∃ n ∈ sites₂, n.Contains ip) :
    ∃ nets : List InetNetwork,
      (∀ splitTunnelType handler b, addressHandlerFunc splitTunnelType = .ok handler →
        configSplitTunneling true ⟨some splitTunnelType, some (sites₁.map some)⟩ b = .ok (nets.foldl handler b) ∧
        configSplitTunneling true ⟨some splitTunnelType, some (sites₂.map some)⟩ b = .ok (nets.foldl handler b)) ∧
      (∀ ip, (∃ n ∈ nets, n.Contains ip) ↔ ∃ n ∈ sites₁, n.Contains ip) ∧
      nets.length ≤ sites₁.dedup.length ∧ nets.length ≤ sites₂.dedup.length := by
  obtain ⟨s, nets, hs, hsc, hsn, hc₁⟩ := compactedAddresses_spec h₁
  obtain ⟨t, nets', ht, htc, htn, hc₂⟩ := compactedAddresses_spec h₂
  have hst : s = t := IpRangeSet.ext_covered hs ht (by rw [hsc, htc]; exact Set.ext hsame)
  subst hst
  obtain rfl := Except.ok.inj (hsn.symm.trans htn)
  refine ⟨nets, fun type handler b hh => ⟨configSplitTunneling_of_compacted hh hc₁ b,
    configSplitTunneling_of_compacted hh hc₂ b⟩, fun ip => ?_, subnets_length_le_sites hs h₁ hsc hsn,
    subnets_length_le_sites hs h₂ htc hsn⟩
  obtain ⟨_, hn, hcov⟩ := subnets_covered s
  obtain rfl := Except.ok.inj (hsn.symm.trans hn)
  rw [hcov, hsc]
  exact Iff.rfl

def lowerHalf : InetNetwork := ⟨⟨[10, 9, 0, 0], .inl rfl⟩, 25⟩

def upperHalf : InetNetwork := ⟨⟨[10, 9, 0, 128], .inl rfl⟩, 25⟩

def wholeNetwork : InetNetwork := ⟨⟨[10, 9, 0, 0], .inl rfl⟩, 24⟩

def innerHost : InetNetwork := ⟨⟨[10, 9, 0, 7], .inl rfl⟩, 32⟩

theorem halves_eq_whole (ip : IpAddress) : (∃ n ∈ [upperHalf, lowerHalf], n.Contains ip) ↔
    ∃ n ∈ [innerHost, wholeNetwork, innerHost], n.Contains ip := by
  simp only [List.mem_cons, List.not_mem_nil, or_false, exists_eq_or_imp, exists_eq_left]
  change (ip.size = 4 ∧ value ip.address / 2 ^ 7 = 168362112 / 2 ^ 7 ∨
      ip.size = 4 ∧ value ip.address / 2 ^ 7 = 168361984 / 2 ^ 7) ↔
    ip.size = 4 ∧ value ip.address / 2 ^ 0 = 168361991 / 2 ^ 0 ∨
      ip.size = 4 ∧ value ip.address / 2 ^ 8 = 168361984 / 2 ^ 8 ∨
      ip.size = 4 ∧ value ip.address / 2 ^ 0 = 168361991 / 2 ^ 0
  omega

theorem compaction_canonical_halves : (∀ n ∈ [upperHalf, lowerHalf], n.Valid) ∧
    ∃ nets : List InetNetwork, nets.length ≤ 2 ∧
      (∀ ip, (∃ n ∈ nets, n.Contains ip) ↔ ∃ n ∈ [upperHalf, lowerHalf], n.Contains ip) ∧
      ∀ b, configSplitTunneling true ⟨some SPLIT_TUNNEL_EXCLUDE, some [some upperHalf, some lowerHalf]⟩ b =
          .ok (nets.foldl excludeAddress b) ∧
        configSplitTunneling true
          ⟨some SPLIT_TUNNEL_EXCLUDE, some [some innerHost, some wholeNetwork, some innerHost]⟩ b =
          .ok (nets.foldl excludeAddress b) := by
  have hvalid : ∀ n ∈ [upperHalf, lowerHalf], n.Valid := by decide
  obtain ⟨nets, hconfig, hcover, hlen, -⟩ := @compaction_canonical [upperHalf, lowerHalf]
    [innerHost, wholeNetwork, innerHost] hvalid (by decide) halves_eq_whole
  exact ⟨hvalid, nets, hlen, hcover, fun b => hconfig SPLIT_TUNNEL_EXCLUDE excludeAddress b rfl⟩

end TunnelCore.Android
