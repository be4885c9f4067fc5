import TunnelCore.Android.IpRange
import TunnelCore.Library.Blocks

namespace TunnelCore.Android

open BigEndian Blocks Spans

/-- A network as the configuration gives it; host bits of the address may be set. -/
structure InetNetwork where
  address : IpAddress
  mask : Nat
deriving DecidableEq

namespace InetNetwork

def isIpv4 (n : InetNetwork) : Bool := n.address.size == 4

def Valid (n : InetNetwork) : Prop := n.mask ≤ n.address.maxMask

instance (n : InetNetwork) : Decidable n.Valid := inferInstanceAs (Decidable (_ ≤ _))

def hostBits (n : InetNetwork) : Nat := n.address.maxMask - n.mask

/-- The address lies in the network: same family and same leading `mask` bits. -/
def Contains (n : InetNetwork) (ip : IpAddress) : Prop :=
  ip.size = n.address.size ∧ value ip.address / 2 ^ n.hostBits = value n.address.address / 2 ^ n.hostBits

instance (n : InetNetwork) (ip : IpAddress) : Decidable (n.Contains ip) := inferInstanceAs (Decidable (_ ∧ _))

theorem contains_self (n : InetNetwork) : n.Contains n.address := ⟨rfl, rfl⟩

def Aligned (n : InetNetwork) : Prop := 2 ^ n.hostBits ∣ value n.address.address

def block (n : InetNetwork) : Block := .around (value n.address.address) n.hostBits

theorem block_start {n : InetNetwork} (h : n.Aligned) : n.block.start = value n.address.address :=
  Nat.div_mul_cancel h

theorem contains_iff_block {n : InetNetwork} {ip : IpAddress} :
    n.Contains ip ↔ ip.size = n.address.size ∧ value ip.address ∈ points n.block := by
  rw [Contains, block, Block.mem_around]

theorem contains_of_mask_le {n m : InetNetwork} (h : n.mask ≤ m.mask) {ip ip' : IpAddress} (hn : n.Contains ip)
    (hm : m.Contains ip) (h' : m.Contains ip') : n.Contains ip' := by
  have hsize : m.address.size = n.address.size := hm.1.symm.trans hn.1
  have hbits : m.hostBits ≤ n.hostBits := by
    simp only [hostBits, IpAddress.maxMask, hsize]
    omega
  rw [contains_iff_block] at *
  exact ⟨h'.1.trans hsize, Block.points_subset hbits hm.2 hn.2 h'.2⟩

theorem exists_contains_iff {nets : List InetNetwork} {size : Nat} (h : ∀ n ∈ nets, n.address.size = size)
    {ip : IpAddress} :
    (∃ n ∈ nets, n.Contains ip) ↔ ip.size = size ∧ value ip.address ∈ cover (nets.map block) := by
  simp only [contains_iff_block, cover, Set.mem_ofPred_eq, List.mem_map]
  constructor
  · rintro ⟨n, hn, hs, hv⟩
    exact ⟨hs.trans (h n hn), n.block, ⟨n, hn, rfl⟩, hv⟩
  · rintro ⟨hs, _, ⟨n, hn, rfl⟩, hv⟩
    exact ⟨n, hn, hs.trans (h n hn).symm, hv⟩

end InetNetwork

namespace IpAddress

theorem two_pow_maxMask (ip : IpAddress) : 2 ^ ip.maxMask = 256 ^ ip.size := by
  rw [maxMask, Nat.mul_comm, Nat.pow_mul]

theorem bits_le_maxMask {ip stop : IpAddress} (hs : ip.size = stop.size) {k : Nat}
    (h : value ip.address + 2 ^ k ≤ value stop.address + 1) : k ≤ ip.maxMask := by
  have hlt := stop.value_lt_size
  rw [← hs, ← two_pow_maxMask] at hlt
  exact (Nat.pow_le_pow_iff_right (by decide)).mp (show 2 ^ k ≤ 2 ^ ip.maxMask by omega)

/-- `ip[i] = f(ip[i])` -/
def update (ip : IpAddress) (i : Nat) (f : UInt8 → UInt8) : IpAddress :=
  ⟨ip.address.modify i f, by simpa using ip.size_eq⟩

theorem fill_length (ip : IpAddress) (value : UInt8) (fromByte : Nat) :
    (ip.address.take fromByte ++ List.replicate (ip.size - fromByte) value).length = ip.address.length := by
  simp only [size, List.length_append, List.length_take, List.length_replicate]
  omega

def fill (ip : IpAddress) (value : UInt8) (fromByte : Nat) : IpAddress :=
  ⟨ip.address.take fromByte ++ List.replicate (ip.size - fromByte) value, fill_length ip value fromByte ▸ ip.size_eq⟩

end IpAddress

namespace IpRange

/-- `(0xffu shl bits).toUByte()` -/
def byteMask (bits : Nat) : UInt8 := UInt8.ofNat (0xff <<< bits)

def fromMask (inetAddress : IpAddress) (mask : Nat) : IpAddress × IpAddress :=
  if mask / 8 < inetAddress.size then
    ((inetAddress.update (mask / 8) (· &&& byteMask (8 - mask % 8))).fill 0 (mask / 8 + 1),
      (inetAddress.update (mask / 8) (· ||| ~~~byteMask (8 - mask % 8))).fill 0xff (mask / 8 + 1))
  else (inetAddress, inetAddress)

def ofNetwork (inetNetwork : InetNetwork) : Except NetError IpRange :=
  make (fromMask inetNetwork.address inetNetwork.mask).1 (fromMask inetNetwork.address inetNetwork.mask).2

def countTrailingZeroBits (b : UInt8) : Nat := b.toBitVec.ctz.toNat

def possibleMaskLoop : List UInt8 → Nat → Nat
  | [], mask => mask
  | b :: rest, mask =>
    if countTrailingZeroBits b ≠ 8 then mask - countTrailingZeroBits b
    else possibleMaskLoop rest (mask - countTrailingZeroBits b)

def getPossibleMaxMask (ip : IpAddress) : Nat := possibleMaskLoop ip.address.reverse ip.maxMask

def lastIpLoop : Nat → List UInt8 → List UInt8
  | _, [] => []
  | remainingBits, b :: rest =>
    if remainingBits = 0 then b :: rest
    else if 8 < remainingBits then (b ||| 0xff) :: lastIpLoop (remainingBits - 8) rest
    else (b ||| ~~~byteMask remainingBits) :: rest

theorem lastIpLoop_length (remainingBits : Nat) (bytes : List UInt8) :
    (lastIpLoop remainingBits bytes).length = bytes.length := by
  induction bytes generalizing remainingBits with
  | nil => rfl
  | cons b rest ih =>
    simp only [lastIpLoop]
    split
    · rfl
    · split <;> simp [ih]

def getLastIpForMask (ip : IpAddress) (mask : Nat) : IpAddress :=
  ⟨(lastIpLoop (ip.maxMask - mask) ip.address.reverse).reverse, by
    simpa [lastIpLoop_length] using ip.size_eq⟩

theorem getLastIpForMask_size (ip : IpAddress) (mask : Nat) : (getLastIpForMask ip mask).size = ip.size := by
  simp [getLastIpForMask, IpAddress.size, lastIpLoop_length]

theorem and_byteMask_fin : ∀ k : Fin 9, ∀ b : Fin 256,
    (UInt8.ofFin b &&& byteMask k).toNat = b / 2 ^ k.val * 2 ^ k.val := by decide +kernel

theorem or_byteMask_fin : ∀ k : Fin 9, ∀ b : Fin 256,
    (UInt8.ofFin b ||| ~~~byteMask k).toNat = b / 2 ^ k.val * 2 ^ k.val + (2 ^ k.val - 1) := by decide +kernel

theorem countTrailingZeroBits_fin : ∀ b : Fin 256,
    countTrailingZeroBits (UInt8.ofFin b) ≤ 8 ∧ 2 ^ countTrailingZeroBits (UInt8.ofFin b) ∣ b.val := by
  decide +kernel

theorem countTrailingZeroBits_max_fin : ∀ b : Fin 256, ∀ k : Fin 9,
    2 ^ k.val ∣ b.val → k.val ≤ countTrailingZeroBits (UInt8.ofFin b) := by
  decide +kernel

theorem or_max_byte : ∀ b : Fin 256, (UInt8.ofFin b ||| 0xff).toNat = 255 := by decide +kernel

variable {k : Nat} {ip : IpAddress} {mask : Nat}

theorem and_byteMask (b : UInt8) (hk : k ≤ 8) :
    (b &&& byteMask k).toNat = b.toNat / 2 ^ k * 2 ^ k := and_byteMask_fin ⟨k, by omega⟩ b.toFin

theorem or_byteMask (b : UInt8) (hk : k ≤ 8) :
    (b ||| ~~~byteMask k).toNat = b.toNat / 2 ^ k * 2 ^ k + (2 ^ k - 1) := or_byteMask_fin ⟨k, by omega⟩ b.toFin

theorem countTrailingZeroBits_spec (b : UInt8) :
    countTrailingZeroBits b ≤ 8 ∧ 2 ^ countTrailingZeroBits b ∣ b.toNat := countTrailingZeroBits_fin b.toFin

theorem countTrailingZeroBits_max (b : UInt8) (hk : k ≤ 8) (h : 2 ^ k ∣ b.toNat) :
    k ≤ countTrailingZeroBits b := countTrailingZeroBits_max_fin b.toFin ⟨k, by omega⟩ h

theorem two_pow_dvd_byte (hk : k ≤ 8) : 2 ^ k ∣ 256 := Nat.pow_dvd_pow 2 hk

theorem two_pow_bytes (n k : Nat) : (2 : Nat) ^ (8 * n + k) = 256 ^ n * 2 ^ k := by
  rw [Nat.pow_add, Nat.pow_mul]

theorem round_down (p b q n k : Nat) (hq : q < n) (hk : k ≤ 8) :
    (p * (256 * n) + (b * n + q)) / (n * 2 ^ k) * (n * 2 ^ k) = p * (256 * n) + b / 2 ^ k * 2 ^ k * n := by
  obtain ⟨c, hc⟩ := two_pow_dvd_byte hk
  have hpos : 0 < 2 ^ k := Nat.two_pow_pos k
  have h : (p * (256 * n) + (b * n + q)) / (n * 2 ^ k) = p * c + b / 2 ^ k := by
    rw [← Nat.div_div_eq_div_mul]
    have h1 : p * (256 * n) + (b * n + q) = q + n * (p * 256 + b) := by ring
    have h2 : p * (2 ^ k * c) + b = b + 2 ^ k * (p * c) := by ring
    rw [h1, Nat.add_mul_div_left _ _ (by omega), Nat.div_eq_of_lt hq, Nat.zero_add, hc, h2,
      Nat.add_mul_div_left _ _ hpos, Nat.add_comm]
  rw [h]
  calc (p * c + b / 2 ^ k) * (n * 2 ^ k) = p * ((2 ^ k * c) * n) + b / 2 ^ k * 2 ^ k * n := by ring
    _ = _ := by rw [← hc]

theorem split_middle {bytes : List UInt8} {i : Nat} (h : i < bytes.length) :
    ∃ pre b post, bytes = pre ++ b :: post ∧ pre.length = i :=
  ⟨bytes.take i, bytes[i], bytes.drop (i + 1), by simp, by simp; omega⟩

theorem modify_middle (f : UInt8 → UInt8) (pre post : List UInt8) (b : UInt8) :
    (pre ++ b :: post).modify pre.length f = pre ++ f b :: post := by
  induction pre with
  | nil => rfl
  | cons x pre ih => simp [ih]

theorem update_fill_value {pre post : List UInt8} {b v : UInt8} (f : UInt8 → UInt8)
    (h : ip.address = pre ++ b :: post) :
    value ((ip.update pre.length f).fill v (pre.length + 1)).address =
      value pre * (256 * 256 ^ post.length) + ((f b).toNat * 256 ^ post.length +
        value (List.replicate post.length v)) := by
  have hm : (ip.update pre.length f).address = pre ++ f b :: post := by
    simp only [IpAddress.update, h, modify_middle]
  have hs : (ip.update pre.length f).size - (pre.length + 1) = post.length := by
    simp [IpAddress.size, hm]
    omega
  have ht : (pre ++ f b :: post).take (pre.length + 1) = pre ++ [f b] := by simp [List.take_append]
  simp only [IpAddress.fill, hs, hm, ht]
  rw [List.append_assoc, value_append, List.singleton_append, value_cons, List.length_cons,
    List.length_replicate, Nat.pow_succ, Nat.mul_comm (256 ^ post.length)]

theorem update_fill_size {pre post : List UInt8} {b v : UInt8} (f : UInt8 → UInt8)
    (h : ip.address = pre ++ b :: post) : ((ip.update pre.length f).fill v (pre.length + 1)).size = ip.size := by
  simp only [IpAddress.fill, IpAddress.update, IpAddress.size, List.length_append, List.length_take,
    List.length_modify, List.length_replicate, h, List.length_cons]
  omega

theorem fromMask_spec (hm : mask ≤ ip.maxMask) :
    ((fromMask ip mask).1.size = ip.size ∧ (fromMask ip mask).2.size = ip.size) ∧
      value (fromMask ip mask).1.address =
        value ip.address / 2 ^ (ip.maxMask - mask) * 2 ^ (ip.maxMask - mask) ∧
      value (fromMask ip mask).2.address =
        value ip.address / 2 ^ (ip.maxMask - mask) * 2 ^ (ip.maxMask - mask) + (2 ^ (ip.maxMask - mask) - 1) := by
  by_cases h : mask / 8 < ip.size
  · obtain ⟨pre, b, post, hip, hlen⟩ := split_middle h
    have hsize : ip.size = mask / 8 + 1 + post.length := by
      rw [← hlen, IpAddress.size, hip, List.length_append, List.length_cons]
      omega
    have hbits : ip.maxMask - mask = 8 * post.length + (8 - mask % 8) := by
      rw [IpAddress.maxMask, hsize]
      omega
    have hval : value ip.address = value pre * (256 * 256 ^ post.length) +
        (b.toNat * 256 ^ post.length + value post) := by
      rw [hip, value_append, value_cons, List.length_cons, Nat.pow_succ, Nat.mul_comm (256 ^ post.length)]
    have hround := round_down (value pre) b.toNat (value post) (256 ^ post.length) (8 - mask % 8)
      (value_lt post) (by omega)
    rw [fromMask, if_pos h, ← hlen, hbits, two_pow_bytes, hval, hround]
    refine ⟨⟨update_fill_size _ hip, update_fill_size _ hip⟩, ?_, ?_⟩
    · rw [update_fill_value _ hip, value_replicate_zero, and_byteMask b (by omega), Nat.add_zero]
    · have hn : 0 < 256 ^ post.length := Nat.pow_pos (by decide)
      have hk : 0 < 2 ^ (8 - mask % 8) := Nat.two_pow_pos _
      have hle : 256 ^ post.length ≤ 256 ^ post.length * 2 ^ (8 - mask % 8) := Nat.le_mul_of_pos_right _ hk
      have hsub : (2 ^ (8 - mask % 8) - 1) * 256 ^ post.length =
          256 ^ post.length * 2 ^ (8 - mask % 8) - 256 ^ post.length := by
        rw [Nat.sub_mul, Nat.one_mul, Nat.mul_comm]
      rw [update_fill_value _ hip, value_replicate_max, or_byteMask b (by omega), Nat.add_mul, hsub]
      omega
  · have h0 : ip.maxMask - mask = 0 := by
      simp only [IpAddress.maxMask] at hm ⊢
      omega
    simp [fromMask, if_neg h, h0]

theorem possibleMaskLoop_spec (bytes : List UInt8) (mask : Nat) (h : 8 * bytes.length ≤ mask) :
    possibleMaskLoop bytes mask ≤ mask ∧ mask - possibleMaskLoop bytes mask ≤ 8 * bytes.length ∧
      2 ^ (mask - possibleMaskLoop bytes mask) ∣ value bytes.reverse := by
  induction bytes generalizing mask with
  | nil => simp [possibleMaskLoop]
  | cons b rest ih =>
    obtain ⟨hle, hdvd⟩ := countTrailingZeroBits_spec b
    rw [List.length_cons] at h
    rw [value_reverse_cons, List.length_cons, possibleMaskLoop]
    split
    · rw [Nat.sub_sub_self (by omega)]
      refine ⟨by omega, by omega, Nat.dvd_add (Dvd.dvd.mul_left (two_pow_dvd_byte hle) _) hdvd⟩
    next h8 =>
      have h8 : countTrailingZeroBits b = 8 := by omega
      rw [h8] at hdvd ⊢
      have hb : b.toNat = 0 := Nat.eq_zero_of_dvd_of_lt hdvd b.toNat_lt
      obtain ⟨h1, h2, h3⟩ := ih (mask - 8) (by omega)
      have hsplit : mask - possibleMaskLoop rest (mask - 8) = mask - 8 - possibleMaskLoop rest (mask - 8) + 8 := by
        omega
      refine ⟨by omega, by omega, ?_⟩
      rw [hsplit, Nat.pow_add, hb, Nat.add_zero]
      exact Nat.mul_dvd_mul_right h3 _

theorem possibleMaskLoop_max (bytes : List UInt8) (mask : Nat) (h : 8 * bytes.length ≤ mask)
    (hk : k ≤ 8 * bytes.length) (hd : 2 ^ k ∣ value bytes.reverse) : k ≤ mask - possibleMaskLoop bytes mask := by
  induction bytes generalizing mask k with
  | nil =>
    rw [List.length_nil] at hk
    omega
  | cons b rest ih =>
    obtain ⟨hle, hdvd⟩ := countTrailingZeroBits_spec b
    rw [List.length_cons] at h hk
    rw [value_reverse_cons] at hd
    -- below eight bits only the last byte matters
    have hbyte : ∀ j ≤ 8, j ≤ k → 2 ^ j ∣ b.toNat := fun j h8 hj =>
      (Nat.dvd_add_right (Dvd.dvd.mul_left (two_pow_dvd_byte h8) _)).mp (dvd_trans (Nat.pow_dvd_pow 2 hj) hd)
    rw [possibleMaskLoop]
    split
    next hne =>
      rw [Nat.sub_sub_self (by omega)]
      by_contra hlt
      have := countTrailingZeroBits_max b (by omega) (hbyte (countTrailingZeroBits b + 1) (by omega) (by omega))
      omega
    next h8 =>
      have h8 : countTrailingZeroBits b = 8 := by omega
      rw [h8] at hdvd ⊢
      have hb : b.toNat = 0 := Nat.eq_zero_of_dvd_of_lt hdvd b.toNat_lt
      obtain ⟨h1, -, -⟩ := possibleMaskLoop_spec rest (mask - 8) (by omega)
      rcases Nat.lt_or_ge k 8 with hk8 | hk8
      · omega
      · obtain ⟨j, rfl⟩ : ∃ j, k = j + 8 := ⟨k - 8, by omega⟩
        rw [Nat.pow_add, show (2 : Nat) ^ 8 = 256 from rfl, hb, Nat.add_zero] at hd
        have := ih (mask - 8) (by omega) (by omega) (Nat.dvd_of_mul_dvd_mul_right (by decide) hd)
        omega

theorem getPossibleMaxMask_spec (ip : IpAddress) : getPossibleMaxMask ip ≤ ip.maxMask ∧
    2 ^ (ip.maxMask - getPossibleMaxMask ip) ∣ value ip.address := by
  have h := possibleMaskLoop_spec ip.address.reverse ip.maxMask (by simp [IpAddress.maxMask, IpAddress.size]; omega)
  rw [List.reverse_reverse] at h
  exact ⟨h.1, h.2.2⟩

theorem getPossibleMaxMask_max (ip : IpAddress) (hk : k ≤ ip.maxMask) (hd : 2 ^ k ∣ value ip.address) :
    k ≤ ip.maxMask - getPossibleMaxMask ip := by
  have hlen : 8 * ip.address.reverse.length = ip.maxMask := by
    rw [List.length_reverse, IpAddress.maxMask, IpAddress.size, Nat.mul_comm]
  refine possibleMaskLoop_max _ _ hlen.le (hlen ▸ hk) ?_
  rwa [List.reverse_reverse]

theorem lastIpLoop_value (remainingBits : Nat) (bytes : List UInt8) (h : remainingBits ≤ 8 * bytes.length) :
    value (lastIpLoop remainingBits bytes).reverse =
      value bytes.reverse / 2 ^ remainingBits * 2 ^ remainingBits + (2 ^ remainingBits - 1) := by
  induction bytes generalizing remainingBits with
  | nil =>
    have h0 : remainingBits = 0 := by simpa using h
    simp [lastIpLoop, h0]
  | cons b rest ih =>
    rw [List.length_cons] at h
    rw [lastIpLoop]
    split
    next h0 => simp [h0]
    · split
      · have hb : (b ||| 0xff).toNat = 255 := or_max_byte b.toFin
        obtain ⟨j, rfl⟩ : ∃ j, remainingBits = j + 8 := ⟨remainingBits - 8, by omega⟩
        have hdiv : (value rest.reverse * 256 + b.toNat) / (2 ^ j * 2 ^ 8) = value rest.reverse / 2 ^ j := by
          have hlt := b.toNat_lt
          rw [Nat.mul_comm (2 ^ j), ← Nat.div_div_eq_div_mul, show (2 : Nat) ^ 8 = 256 from rfl]
          congr 1
          omega
        have hpos : 0 < 2 ^ j := Nat.two_pow_pos j
        rw [value_reverse_cons, value_reverse_cons, Nat.add_sub_cancel, ih j (by omega), hb, Nat.pow_add, hdiv,
          ← Nat.mul_assoc, show (2 : Nat) ^ 8 = 256 from rfl]
        omega
      · have hround := round_down (value rest.reverse) b.toNat 0 1 remainingBits (by omega) (by omega)
        simp only [Nat.mul_one, Nat.one_mul, Nat.add_zero] at hround
        rw [value_reverse_cons, value_reverse_cons, or_byteMask b (by omega), hround]
        omega

theorem getLastIpForMask_value (ip : IpAddress) (mask : Nat) :
    value (getLastIpForMask ip mask).address =
      value ip.address / 2 ^ (ip.maxMask - mask) * 2 ^ (ip.maxMask - mask) + (2 ^ (ip.maxMask - mask) - 1) := by
  have h := lastIpLoop_value (ip.maxMask - mask) ip.address.reverse
    (by simp [IpAddress.maxMask, IpAddress.size]; omega)
  rw [List.reverse_reverse] at h
  exact h

theorem getLastIpForMask_rank_le (ip : IpAddress) (mask : Nat) : ip.rank ≤ (getLastIpForMask ip mask).rank := by
  have hr := IpAddress.rank_sub_value (getLastIpForMask_size ip mask)
  have hv := getLastIpForMask_value ip mask
  have hm := Nat.div_add_mod' (value ip.address) (2 ^ (ip.maxMask - mask))
  have hl := Nat.mod_lt (value ip.address) (Nat.two_pow_pos (ip.maxMask - mask))
  omega

theorem getLastIpForMask_of_le (h : ip.maxMask ≤ mask) :
    (getLastIpForMask ip mask).rank = ip.rank := by
  have hr := IpAddress.rank_sub_value (getLastIpForMask_size ip mask)
  have hv := getLastIpForMask_value ip mask
  rw [Nat.sub_eq_zero_of_le h] at hv
  simp only [Nat.pow_zero, Nat.div_one, Nat.mul_one, Nat.sub_self, Nat.add_zero] at hv
  omega

/-- The inner loop of `subnets`: lengthen the mask until the block ends within the range. -/
def fitMask (ip stop : IpAddress) (h : ip ≤ stop) (mask : Nat) : Nat × IpAddress :=
  if _hl : stop < getLastIpForMask ip mask then fitMask ip stop h (mask + 1)
  else (mask, getLastIpForMask ip mask)
termination_by ip.maxMask - mask
decreasing_by
  have hlt := IpAddress.lt_iff.mp _hl
  have hle := IpAddress.le_iff.mp h
  have : mask < ip.maxMask := by
    by_contra hc
    have := getLastIpForMask_of_le (Nat.le_of_not_lt hc)
    omega
  omega

theorem fitMask_last (ip stop : IpAddress) (h : ip ≤ stop) (mask : Nat) :
    (fitMask ip stop h mask).2 = getLastIpForMask ip (fitMask ip stop h mask).1 ∧
      (fitMask ip stop h mask).2.rank ≤ stop.rank := by
  fun_induction fitMask ip stop h mask with
  | case1 mask _ ih => exact ih
  | case2 mask hl => exact ⟨rfl, Nat.le_of_not_lt fun hc => hl (IpAddress.lt_iff.mpr hc)⟩

theorem fitMask_aligned (ip stop : IpAddress) (h : ip ≤ stop) (mask : Nat) (hm : mask ≤ ip.maxMask)
    (hd : 2 ^ (ip.maxMask - mask) ∣ value ip.address) :
    (fitMask ip stop h mask).1 ≤ ip.maxMask ∧
      2 ^ (ip.maxMask - (fitMask ip stop h mask).1) ∣ value ip.address := by
  fun_induction fitMask ip stop h mask with
  | case1 mask hl ih =>
    have hlt := IpAddress.lt_iff.mp hl
    have hle := IpAddress.le_iff.mp h
    have hne : mask ≠ ip.maxMask := fun hc => by
      have : (getLastIpForMask ip mask).rank = ip.rank := getLastIpForMask_of_le (by omega)
      omega
    exact ih (by omega) (dvd_trans (Nat.pow_dvd_pow 2 (by omega)) hd)
  | case2 mask hl => exact ⟨hm, hd⟩

theorem rank_lt_of_inc {ip last next : IpAddress} (hl : last = getLastIpForMask ip mask)
    (h : last.inc = .ok next) : ip.rank < next.rank := by
  have hmax : last.isMaxIp = false := by
    by_contra hc
    simp [IpAddress.inc, Bool.not_eq_false _ |>.mp hc] at h
  obtain ⟨n, hn, -, hr⟩ := IpAddress.inc_spec last hmax
  have := getLastIpForMask_rank_le ip mask
  rw [h] at hn
  obtain rfl : next = n := Except.ok.inj hn
  rw [← hl] at this
  omega

def subnetsLoop (stop currentIp : IpAddress) : Except NetError (List InetNetwork) :=
  if h : currentIp ≤ stop then
    if (fitMask currentIp stop h (getPossibleMaxMask currentIp)).2.isMaxIp then
      .ok [⟨currentIp, (fitMask currentIp stop h (getPossibleMaxMask currentIp)).1⟩]
    else
      match _hn : (fitMask currentIp stop h (getPossibleMaxMask currentIp)).2.inc with
      | .error e => .error e
      | .ok next =>
        (⟨currentIp, (fitMask currentIp stop h (getPossibleMaxMask currentIp)).1⟩ :: ·) <$> subnetsLoop stop next
  else .ok []
termination_by stop.rank + 1 - currentIp.rank
decreasing_by
  have := rank_lt_of_inc (fitMask_last currentIp stop h _).1 _hn
  have := IpAddress.le_iff.mp h
  omega

def subnets (r : IpRange) : Except NetError (List InetNetwork) := subnetsLoop r.stop r.start

end IpRange

theorem IpAddress.size_eq_of_between {a b x : IpAddress} (h : a.size = b.size) (h1 : a.rank ≤ x.rank)
    (h2 : x.rank ≤ b.rank) : x.size = a.size := by
  rcases a.size_cases with ha | ha
  · have := (rank_of_size_four (h ▸ ha)).2
    rw [ha, show x.size = 4 from size_of_rank_lt (by omega)]
  · have := (rank_of_size_sixteen ha).1
    rw [ha, show x.size = 16 from size_of_lt_rank (by omega)]

namespace InetNetwork

theorem contains_iff_bounds {n : InetNetwork} {first last ip : IpAddress} (hf : first.size = n.address.size)
    (hl : last.size = n.address.size)
    (hfv : value first.address = value n.address.address / 2 ^ n.hostBits * 2 ^ n.hostBits)
    (hlv : value last.address = value n.address.address / 2 ^ n.hostBits * 2 ^ n.hostBits + (2 ^ n.hostBits - 1)) :
    n.Contains ip ↔ first.rank ≤ ip.rank ∧ ip.rank ≤ last.rank := by
  have hpos : 0 < 2 ^ n.hostBits := Nat.two_pow_pos _
  have hblock : value ip.address / 2 ^ n.hostBits = value n.address.address / 2 ^ n.hostBits ↔
      value first.address ≤ value ip.address ∧ value ip.address ≤ value last.address := by
    rw [Nat.div_eq_iff hpos, hfv, hlv]
    omega
  constructor
  · rintro ⟨hs, hv⟩
    have h1 := IpAddress.rank_sub_value (hf.trans hs.symm)
    have h2 := IpAddress.rank_sub_value (hl.trans hs.symm)
    have := hblock.mp hv
    omega
  · rintro ⟨h1, h2⟩
    have hs := IpAddress.size_eq_of_between (hf.trans hl.symm) h1 h2
    have h3 := IpAddress.rank_sub_value hs
    have h4 := IpAddress.rank_sub_value (hs.trans (hf.trans hl.symm))
    exact ⟨hs.trans hf, hblock.mpr (by omega)⟩

end InetNetwork

namespace IpRange

theorem ofNetwork_spec {n : InetNetwork} (h : n.Valid) :
    ∃ r, ofNetwork n = .ok r ∧ ∀ ip, n.Contains ip ↔ r.lo ≤ ip.rank ∧ ip.rank ≤ r.hi := by
  obtain ⟨⟨hs1, hs2⟩, hv1, hv2⟩ := fromMask_spec h
  have hr := IpAddress.rank_sub_value (hs1.trans hs2.symm)
  obtain ⟨r, hm, hlo, hhi⟩ := make_spec _ _ (hs1.trans hs2.symm) (by omega)
  exact ⟨r, hm, fun ip => by rw [hlo, hhi]; exact InetNetwork.contains_iff_bounds hs1 hs2 hv1 hv2⟩

theorem fitMask_max (ip stop : IpAddress) (h : ip ≤ stop) (hs : ip.size = stop.size) (mask : Nat)
    (hm : ∀ k, 2 ^ k ∣ value ip.address → value ip.address + 2 ^ k ≤ value stop.address + 1 → k ≤ ip.maxMask - mask)
    (k : Nat) (hd : 2 ^ k ∣ value ip.address) (hk : value ip.address + 2 ^ k ≤ value stop.address + 1) :
    k ≤ ip.maxMask - (fitMask ip stop h mask).1 := by
  fun_induction fitMask ip stop h mask with
  | case1 mask hl ih =>
    refine ih fun j hj hfit => ?_
    have hle := hm j hj hfit
    -- the mask that was given up is too short, so the bound is not attained there
    have hne : j ≠ ip.maxMask - mask := by
      intro he
      have hlt := IpAddress.lt_iff.mp hl
      have hr := IpAddress.rank_sub_value ((getLastIpForMask_size ip mask).trans hs)
      rw [getLastIpForMask_value, ← he, Nat.div_mul_cancel hj] at hr
      have := Nat.two_pow_pos j
      omega
    omega
  | case2 mask hl => exact hm k hd hk

/-- Each round of `subnets` takes the largest block that starts at the current address and ends in the range. -/
theorem fitMask_largest {ip stop : IpAddress} (h : ip ≤ stop) (hs : ip.size = stop.size) :
    (InetNetwork.mk ip (fitMask ip stop h (getPossibleMaxMask ip)).1).block.start = value ip.address ∧
      (InetNetwork.mk ip (fitMask ip stop h (getPossibleMaxMask ip)).1).block.Largest (value stop.address + 1) := by
  obtain ⟨hle, hd⟩ := getPossibleMaxMask_spec ip
  obtain ⟨-, hd'⟩ := fitMask_aligned ip stop h _ hle hd
  obtain ⟨hl, hstop⟩ := fitMask_last ip stop h (getPossibleMaxMask ip)
  have hmax := fitMask_max ip stop h hs (getPossibleMaxMask ip) fun k hk hfit =>
    getPossibleMaxMask_max ip (IpAddress.bits_le_maxMask hs hfit) hk
  generalize fitMask ip stop h (getPossibleMaxMask ip) = p at *
  have hstart := InetNetwork.block_start (n := ⟨ip, p.1⟩) hd'
  refine ⟨hstart, ?_, fun c hc htop => ?_⟩
  · have hr := IpAddress.rank_sub_value ((getLastIpForMask_size ip p.1).trans hs)
    rw [getLastIpForMask_value, Nat.div_mul_cancel hd', ← hl] at hr
    have := Nat.two_pow_pos (ip.maxMask - p.1)
    rw [Block.top, hstart]
    change value ip.address + 2 ^ (ip.maxMask - p.1) ≤ _
    omega
  · rw [hstart] at hc
    rw [Block.top, hc] at htop
    exact hmax c.bits (hc ▸ c.aligned) htop

theorem subnetsLoop_splits (stop currentIp : IpAddress) (hs : currentIp.size = stop.size) :
    ∃ nets, subnetsLoop stop currentIp = .ok nets ∧
      (∀ n ∈ nets, n.Valid ∧ n.Aligned ∧ n.address.size = stop.size) ∧
      Splits (value stop.address + 1) (value currentIp.address) (nets.map InetNetwork.block) := by
  induction hk : stop.rank + 1 - currentIp.rank using Nat.strong_induction_on generalizing currentIp with
  | _ k ih =>
    have hrank := IpAddress.rank_sub_value hs
    rw [subnetsLoop]
    split
    next h =>
      obtain ⟨hle, hd⟩ := getPossibleMaxMask_spec currentIp
      obtain ⟨hval, hal⟩ := fitMask_aligned currentIp stop h _ hle hd
      obtain ⟨hstart, hlargest⟩ := fitMask_largest h hs
      obtain ⟨hl, hstop⟩ := fitMask_last currentIp stop h (getPossibleMaxMask currentIp)
      generalize fitMask currentIp stop h (getPossibleMaxMask currentIp) = p at *
      have hsz : p.2.size = stop.size := by rw [hl, getLastIpForMask_size, hs]
      have htop : value p.2.address + 1 = (InetNetwork.mk currentIp p.1).block.top := by
        have := Nat.two_pow_pos (currentIp.maxMask - p.1)
        rw [Block.top, hstart, hl, getLastIpForMask_value, Nat.div_mul_cancel hal]
        change _ = value currentIp.address + 2 ^ (currentIp.maxMask - p.1)
        omega
      have hhead : ∀ n ∈ [InetNetwork.mk currentIp p.1], n.Valid ∧ n.Aligned ∧ n.address.size = stop.size := by
        simpa using ⟨hval, hal, hs⟩
      split
      next hmax =>
        have hlast : value stop.address < 256 ^ p.2.size := hsz ▸ stop.value_lt_size
        have hcard := IpAddress.isMaxIp_iff.mp hmax
        exact ⟨_, rfl, hhead, hstart ▸ .cons hlargest (.nil (by omega))⟩
      next hmax =>
        obtain ⟨next, hn, hns, hnr⟩ := IpAddress.inc_spec p.2 (by simpa using hmax)
        have hlt := rank_lt_of_inc hl hn
        have hcur := IpAddress.le_iff.mp h
        have hnv := IpAddress.rank_sub_value hns
        obtain ⟨nets, he, hv, hc⟩ := ih _ (by omega) next (by omega) rfl
        rw [show value next.address = (InetNetwork.mk currentIp p.1).block.top by omega] at hc
        refine ⟨⟨currentIp, p.1⟩ :: nets, ?_, ?_, hstart ▸ .cons hlargest hc⟩
        · split <;> simp_all [Functor.map, Except.map]
        · intro n hn
          rcases List.mem_cons.mp hn with rfl | hn
          · exact hhead _ (.head _)
          · exact hv n hn
    next h =>
      have hlt : ¬currentIp.rank ≤ stop.rank := fun hc => h (IpAddress.le_iff.mpr hc)
      exact ⟨[], rfl, by simp, .nil (by omega)⟩

theorem subnets_splits (r : IpRange) : ∃ nets, r.subnets = .ok nets ∧
    (∀ n ∈ nets, n.Valid ∧ n.Aligned ∧ n.address.size = r.start.size) ∧
    Splits (value r.stop.address + 1) (value r.start.address) (nets.map InetNetwork.block) := by
  rw [r.same_size]
  exact subnetsLoop_splits r.stop r.start r.same_size

theorem mem_iff_value {r : IpRange} {ip : IpAddress} : r.lo ≤ ip.rank ∧ ip.rank ≤ r.hi ↔
    ip.size = r.start.size ∧ value ip.address ∈ Set.Ico (value r.start.address) (value r.stop.address + 1) := by
  constructor
  · rintro ⟨h1, h2⟩
    have hs := IpAddress.size_eq_of_between r.same_size h1 h2
    have h3 := IpAddress.rank_sub_value hs
    have h4 := IpAddress.rank_sub_value (hs.trans r.same_size)
    simp only [lo, hi] at h1 h2
    exact ⟨hs, by omega, by omega⟩
  · rintro ⟨hs, h1, h2⟩
    have h3 := IpAddress.rank_sub_value hs
    have h4 := IpAddress.rank_sub_value (hs.trans r.same_size)
    simp only [lo, hi]
    omega

theorem subnets_spec (r : IpRange) : ∃ nets, r.subnets = .ok nets ∧ (∀ n ∈ nets, n.Valid) ∧
    ∀ ip, (∃ n ∈ nets, n.Contains ip) ↔ r.lo ≤ ip.rank ∧ ip.rank ≤ r.hi := by
  obtain ⟨nets, h, hn, hsplit⟩ := r.subnets_splits
  refine ⟨nets, h, fun n hm => (hn n hm).1, fun ip => ?_⟩
  rw [InetNetwork.exists_contains_iff fun n hm => (hn n hm).2.2, hsplit.cover_eq, mem_iff_value]

end IpRange

end TunnelCore.Android
