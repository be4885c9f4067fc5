import TunnelCore.Android.InetNetwork

namespace TunnelCore.Android

open BigEndian Blocks Spans

namespace IpAddress

theorem exists_of_value (ip : IpAddress) {x : Nat} (h : x < 256 ^ ip.size) :
    ∃ a : IpAddress, a.size = ip.size ∧ value a.address = x := by
  obtain ⟨bytes, hl, hv⟩ := exists_value h
  exact ⟨⟨bytes, hl ▸ ip.size_eq⟩, hl, hv⟩

theorem ext_value {a b : IpAddress} (hs : a.size = b.size) (hv : value a.address = value b.address) : a = b := by
  have := rank_sub_value hs
  exact rank_injective (by omega)

end IpAddress

namespace InetNetwork

theorem lt_of_mem_block {n : InetNetwork} {x : Nat} (h : x ∈ points n.block) : x < 256 ^ n.address.size := by
  let family : Block := ⟨0, n.address.maxMask, Nat.dvd_zero _⟩
  have hself : value n.address.address ∈ points n.block := (contains_iff_block.mp n.contains_self).2
  have hfam : value n.address.address ∈ points family := by
    refine Block.mem_points.mpr ⟨Nat.zero_le _, ?_⟩
    simpa only [family, Block.top, Nat.zero_add, IpAddress.two_pow_maxMask] using n.address.value_lt_size
  have hx := (Block.mem_points.mp (Block.points_subset (Nat.sub_le _ _) hself hfam h)).2
  simpa only [family, Block.top, Nat.zero_add, IpAddress.two_pow_maxMask] using hx

theorem size_eq_of_cover {nets : List InetNetwork} {r : IpRange}
    (h : ∀ ip, (∃ n ∈ nets, n.Contains ip) ↔ r.lo ≤ ip.rank ∧ ip.rank ≤ r.hi) :
    ∀ n ∈ nets, n.address.size = r.start.size := fun n hn =>
  (IpRange.mem_iff_value.mp ((h n.address).mp ⟨n, hn, n.contains_self⟩)).1

theorem cover_blocks {nets : List InetNetwork} {r : IpRange}
    (h : ∀ ip, (∃ n ∈ nets, n.Contains ip) ↔ r.lo ≤ ip.rank ∧ ip.rank ≤ r.hi) :
    cover (nets.map block) = Set.Ico (value r.start.address) (value r.stop.address + 1) := by
  have hsize := size_eq_of_cover h
  have hval : ∀ {ip : IpAddress}, ip.size = r.start.size →
      (value ip.address ∈ cover (nets.map block) ↔
        value ip.address ∈ Set.Ico (value r.start.address) (value r.stop.address + 1)) := by
    intro ip hs
    have hip := h ip
    rw [exists_contains_iff hsize, IpRange.mem_iff_value] at hip
    exact and_congr_right_iff.mp hip hs
  -- every number in question is the value of an address of the family
  ext x
  constructor
  · rintro ⟨b, hb, hx⟩
    obtain ⟨n, hn, rfl⟩ := List.mem_map.mp hb
    obtain ⟨ip, hs, rfl⟩ := n.address.exists_of_value (lt_of_mem_block hx)
    exact (hval (hs.trans (hsize n hn))).mp ⟨n.block, hb, hx⟩
  · intro hx
    have hlt : x < 256 ^ r.start.size := by
      have := r.stop.value_lt_size
      rw [r.same_size]
      exact (Nat.le_of_lt_succ hx.2).trans_lt this
    obtain ⟨ip, hs, rfl⟩ := r.start.exists_of_value hlt
    exact (hval hs).mpr hx

end InetNetwork

namespace IpRange

variable {r : IpRange}

theorem subnets_length_le {nets others : List InetNetwork} (h : r.subnets = .ok nets)
    (ho : ∀ ip, (∃ n ∈ others, n.Contains ip) ↔ r.lo ≤ ip.rank ∧ ip.rank ≤ r.hi) :
    nets.length ≤ others.length := by
  obtain ⟨_, h', -, hsplit⟩ := r.subnets_splits
  obtain rfl := Except.ok.inj (h.symm.trans h')
  simpa only [List.length_map] using hsplit.length_le (InetNetwork.cover_blocks ho)

theorem subnets_ascending {nets : List InetNetwork} (h : r.subnets = .ok nets) :
    nets.Pairwise (fun a b => a.address < b.address ∧ ∀ ip, ¬(a.Contains ip ∧ b.Contains ip)) := by
  obtain ⟨_, h', hn, hsplit⟩ := r.subnets_splits
  obtain rfl := Except.ok.inj (h.symm.trans h')
  refine (List.pairwise_map.mp hsplit.ascending).imp_of_mem fun {a b} ha hb hab => ⟨?_, ?_⟩
  · have hr := IpAddress.rank_sub_value ((hn a ha).2.2.trans (hn b hb).2.2.symm)
    rw [← InetNetwork.block_start (hn a ha).2.1, ← InetNetwork.block_start (hn b hb).2.1] at hr
    have := a.block.start_lt_top
    exact IpAddress.lt_iff.mpr (by omega)
  · rintro ip ⟨hca, hcb⟩
    have h1 := (Block.mem_points.mp (InetNetwork.contains_iff_block.mp hca).2).2
    have h2 := (Block.mem_points.mp (InetNetwork.contains_iff_block.mp hcb).2).1
    omega

theorem subnets_ofNetwork {n : InetNetwork} (hv : n.Valid) (h : ofNetwork n = .ok r) :
    r.subnets = .ok [⟨(fromMask n.address n.mask).1, n.mask⟩] := by
  obtain ⟨r', hr', hcon⟩ := ofNetwork_spec hv
  obtain rfl := Except.ok.inj (h.symm.trans hr')
  have hn : ∀ ip, (∃ m ∈ [n], m.Contains ip) ↔ r.lo ≤ ip.rank ∧ ip.rank ≤ r.hi := fun ip => by
    simpa using hcon ip
  have hnsize := InetNetwork.size_eq_of_cover hn n (.head _)
  obtain ⟨nets, hs, hnets, hsplit⟩ := r.subnets_splits
  have hlen := subnets_length_le hs hn
  have hcover := hsplit.cover_eq.trans (InetNetwork.cover_blocks hn).symm
  match nets with
  | [] =>
    have hself : n.block.start ∈ cover ([n].map InetNetwork.block) :=
      ⟨n.block, .head _, Block.mem_points.mpr ⟨le_rfl, n.block.start_lt_top⟩⟩
    rw [← hcover] at hself
    simp [cover] at hself
  | m :: _ :: _ => simp at hlen
  | [m] =>
    obtain ⟨hmv, hma, hms⟩ := hnets m (.head _)
    have hblock : m.block = n.block := Block.eq_of_points_eq (by simpa [cover] using hcover)
    have hbits : m.hostBits = n.hostBits := congrArg Block.bits hblock
    obtain ⟨⟨hsize, -⟩, hfirst, -⟩ := fromMask_spec hv
    have haddress : m.address = (fromMask n.address n.mask).1 := by
      refine IpAddress.ext_value (hms.trans (hnsize.symm.trans hsize.symm)) ?_
      rw [hfirst, ← InetNetwork.block_start hma, hblock]
      rfl
    have hmask : m.mask = n.mask := by
      have hmax : m.address.maxMask = n.address.maxMask := by rw [haddress, IpAddress.maxMask, hsize]; rfl
      simp only [InetNetwork.Valid, InetNetwork.hostBits] at hmv hv hbits
      omega
    rw [hs, ← haddress, ← hmask]

/-- For every range the loop ends without a carry out of the last address. The blocks it returns are aligned, ascending
and disjoint, hold exactly the range, and no list of networks that does the same is shorter. A network comes back as
itself with the host bits cleared. -/
theorem subnets_least_exact_cover :
    (∀ r : IpRange, ∃ nets, r.subnets = .ok nets ∧ (∀ n ∈ nets, n.Valid ∧ n.Aligned) ∧
      nets.Pairwise (fun a b => a.address < b.address ∧ ∀ ip, ¬(a.Contains ip ∧ b.Contains ip)) ∧
      (∀ ip, (∃ n ∈ nets, n.Contains ip) ↔ r.start ≤ ip ∧ ip ≤ r.stop) ∧
      ∀ others : List InetNetwork, (∀ ip, (∃ n ∈ others, n.Contains ip) ↔ r.start ≤ ip ∧ ip ≤ r.stop) →
        nets.length ≤ others.length) ∧
    ∀ n : InetNetwork, n.Valid → ∃ r first, ofNetwork n = .ok r ∧ first.size = n.address.size ∧
      value first.address = value n.address.address / 2 ^ n.hostBits * 2 ^ n.hostBits ∧
      r.subnets = .ok [⟨first, n.mask⟩] := by
  constructor
  · intro r
    have hrange : ∀ ip : IpAddress, r.start ≤ ip ∧ ip ≤ r.stop ↔ r.lo ≤ ip.rank ∧ ip.rank ≤ r.hi := fun ip =>
      and_congr IpAddress.le_iff IpAddress.le_iff
    obtain ⟨nets, h, hn, -⟩ := r.subnets_splits
    obtain ⟨nets', h', -, hcover⟩ := r.subnets_spec
    obtain rfl := Except.ok.inj (h.symm.trans h')
    refine ⟨nets, h, fun n hm => ⟨(hn n hm).1, (hn n hm).2.1⟩, subnets_ascending h, fun ip => ?_, fun others ho => ?_⟩
    · rw [hcover, hrange]
    · exact subnets_length_le h fun ip => (ho ip).trans (hrange ip)
  · intro n hv
    obtain ⟨r, hr, -⟩ := ofNetwork_spec hv
    obtain ⟨⟨hsize, -⟩, hfirst, -⟩ := fromMask_spec hv
    exact ⟨r, (fromMask n.address n.mask).1, hr, hsize, hfirst, subnets_ofNetwork hv hr⟩

end IpRange

end TunnelCore.Android
