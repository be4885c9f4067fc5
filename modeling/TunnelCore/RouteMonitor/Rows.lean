import TunnelCore.Daemon.Config
import TunnelCore.Library.BigEndian

namespace TunnelCore.RouteMonitor

open TunnelCore.Daemon (QHostAddress IPAddress)
open TunnelCore.BigEndian (value)

/-- Comparison of memory; the caller's counts are the lengths of the two lists. -/
def memcmp : List UInt8 → List UInt8 → Int
  | a :: as, b :: bs => if a = b then memcmp as bs else a.toNat - b.toNat
  | _, _ => 0

def prefixcmp (a b : List UInt8) (bits : Nat) : Int :=
  if 0 < bits / 8 ∧ memcmp (a.take (bits / 8)) (b.take (bits / 8)) ≠ 0 then
    memcmp (a.take (bits / 8)) (b.take (bits / 8))
  else if bits % 8 ≠ 0 then
    let avalue := a.getD (bits / 8) 0 >>> UInt8.ofNat (8 - bits % 8)
    let bvalue := b.getD (bits / 8) 0 >>> UInt8.ofNat (8 - bits % 8)
    avalue.toNat - bvalue.toNat
  else 0

theorem memcmp_eq_zero {as bs : List UInt8} (h : as.length = bs.length) : memcmp as bs = 0 ↔ as = bs := by
  induction as generalizing bs with
  | nil => simpa [memcmp, eq_comm] using h
  | cons a as ih =>
    cases bs with
    | nil => simp at h
    | cons b bs =>
      rw [memcmp]
      split
      next hab => rw [ih (by simpa using h), hab, List.cons.injEq, and_iff_right rfl]
      next hab =>
        have hne : a.toNat ≠ b.toNat := fun he => hab (UInt8.toNat_inj.mp he)
        simp only [List.cons.injEq, hab, false_and, iff_false]
        omega

def leading (bits : Nat) (bytes : List UInt8) : Nat := value bytes / 2 ^ (8 * bytes.length - bits)

theorem leading_of_bytes (k : Nat) (bytes : List UInt8) : leading (8 * k) bytes = value (bytes.take k) := by
  have hpow : 2 ^ (8 * bytes.length - 8 * k) = 256 ^ (bytes.drop k).length := by
    rw [List.length_drop, show 256 = 2 ^ 8 by rfl, ← Nat.pow_mul, Nat.mul_sub]
  have hsplit := BigEndian.value_append (bytes.take k) (bytes.drop k)
  rw [List.take_append_drop] at hsplit
  rw [leading, hpow, hsplit, Nat.mul_comm, Nat.mul_add_div (Nat.pow_pos (by decide)),
    Nat.div_eq_of_lt (BigEndian.value_lt _), Nat.add_zero]

theorem leading_of_bits {bytes : List UInt8} {k r : Nat} (hk : k < bytes.length) (hr8 : r < 8) :
    leading (8 * k + r) bytes = 2 ^ r * value (bytes.take k) + (bytes.getD k 0).toNat / 2 ^ (8 - r) := by
  have hvalue : value (bytes.take (k + 1)) = value (bytes.take k) * 256 + (bytes.getD k 0).toNat := by
    rw [List.take_add_one, List.getD, List.getElem?_eq_getElem hk, Option.toList_some, BigEndian.value_append]
    simp [value]
  have hwhole : leading (8 * k + r) bytes = leading (8 * (k + 1)) bytes / 2 ^ (8 - r) := by
    rw [leading, leading, Nat.div_div_eq_div_mul, ← Nat.pow_add]
    congr 2
    omega
  have hpow : 256 = 2 ^ (8 - r) * 2 ^ r := by
    rw [← Nat.pow_add, show 8 - r + r = 8 by omega]
  rw [hwhole, leading_of_bytes, hvalue, hpow, Nat.mul_comm, Nat.mul_assoc, Nat.mul_add_div (Nat.pow_pos (by decide))]

theorem leading_bits_eq_iff {a b : List UInt8} {k r : Nat} (hka : k < a.length) (hl : a.length = b.length)
    (hr8 : r < 8) : leading (8 * k + r) a = leading (8 * k + r) b ↔
      a.take k = b.take k ∧ (a.getD k 0).toNat / 2 ^ (8 - r) = (b.getD k 0).toNat / 2 ^ (8 - r) := by
  have hhigh : ∀ c : UInt8, c.toNat / 2 ^ (8 - r) < 2 ^ r := by
    intro c
    rw [Nat.div_lt_iff_lt_mul (Nat.pow_pos (by decide)), ← Nat.pow_add, show r + (8 - r) = 8 by omega]
    exact c.toNat_lt
  have htake : (a.take k).length = (b.take k).length := by
    rw [List.length_take, List.length_take, hl]
  rw [leading_of_bits hka hr8, leading_of_bits (hl ▸ hka) hr8]
  constructor
  · intro h
    -- both sides are written in base `2 ^ r`, so quotient and remainder agree
    have hquot := congrArg (· / 2 ^ r) h
    have hrem := congrArg (· % 2 ^ r) h
    simp only [Nat.mul_add_div (Nat.pow_pos (by decide : 0 < 2)), Nat.div_eq_of_lt (hhigh _), Nat.add_zero] at hquot
    simp only [Nat.mul_add_mod, Nat.mod_eq_of_lt (hhigh _)] at hrem
    exact ⟨BigEndian.value_injective htake hquot, hrem⟩
  · rintro ⟨hbytes, hbits⟩
    rw [hbytes, hbits]

theorem shifted_toNat (b : UInt8) {r : Nat} (hr : 0 < r) (hr8 : r < 8) :
    (b >>> UInt8.ofNat (8 - r)).toNat = b.toNat / 2 ^ (8 - r) := by
  rw [UInt8.toNat_shiftRight, UInt8.toNat_ofNat', Nat.shiftRight_eq_div_pow]
  congr 2
  omega

theorem prefixcmp_eq_zero {a b : List UInt8} (hl : a.length = b.length) {bits : Nat} (hb : bits ≤ 8 * a.length) :
    prefixcmp a b bits = 0 ↔ leading bits a = leading bits b := by
  obtain ⟨k, r, hr8, hbits⟩ : ∃ k r, r < 8 ∧ bits = 8 * k + r := ⟨bits / 8, bits % 8, by omega, by omega⟩
  have hk : bits / 8 = k := by omega
  have hr : bits % 8 = r := by omega
  have htake : (a.take k).length = (b.take k).length := by
    rw [List.length_take, List.length_take, hl]
  have hsame : 0 < k ∧ memcmp (a.take k) (b.take k) ≠ 0 ↔ a.take k ≠ b.take k := by
    rw [ne_eq, memcmp_eq_zero htake, and_iff_right_iff_imp]
    intro hne
    refine Nat.pos_of_ne_zero fun h0 => hne ?_
    rw [h0, List.take_zero, List.take_zero]
  have hbytes : a.take k = b.take k ↔ leading (8 * k) a = leading (8 * k) b := by
    rw [leading_of_bytes, leading_of_bytes]
    exact ⟨congrArg value, BigEndian.value_injective htake⟩
  rw [prefixcmp, hk, hr, hbits]
  rcases Nat.eq_zero_or_pos r with rfl | hpos
  · rw [Nat.add_zero, ← hbytes]
    split
    next hdiff => exact iff_of_false hdiff.2 (hsame.mp hdiff)
    next hdiff => exact iff_of_true rfl (not_not.mp (mt hsame.mpr hdiff))
  · rw [leading_bits_eq_iff (by omega) hl hr8]
    split
    next hdiff => exact iff_of_false hdiff.2 fun h => hsame.mp hdiff h.1
    next hdiff =>
      rw [if_pos hpos.ne', and_iff_right (not_not.mp (mt hsame.mpr hdiff)), ← shifted_toNat _ hpos hr8,
        ← shifted_toNat _ hpos hr8]
      exact sub_eq_zero.trans Int.ofNat_inj

/-- `SOCKADDR_INET`; the bytes of an address are in network order. -/
inductive SockaddrInet
  | unspec
  | inet (port : UInt16) (address : Vector UInt8 4)
  | inet6 (port : UInt16) (flowinfo : UInt32) (address : Vector UInt8 16) (scopeId : UInt32)
deriving DecidableEq

inductive Family
  | unspec
  | inet
  | inet6
deriving DecidableEq

def Family.octets : Family → Nat
  | unspec => 0
  | inet => 4
  | inet6 => 16

namespace SockaddrInet

def family : SockaddrInet → Family
  | unspec => .unspec
  | inet .. => .inet
  | inet6 .. => .inet6

def bytes : SockaddrInet → List UInt8
  | unspec => []
  | inet _ address => address.toList
  | inet6 _ _ address _ => address.toList

def blank : Family → SockaddrInet
  | .unspec => unspec
  | .inet => inet 0 (.replicate 4 0)
  | .inet6 => inet6 0 0 (.replicate 16 0) 0

theorem length_bytes (a : SockaddrInet) : a.bytes.length = a.family.octets := by
  cases a with
  | unspec => rfl
  | inet _ address => exact address.length_toList
  | inet6 _ _ address => exact address.length_toList

end SockaddrInet

/-- `IP_ADDRESS_PREFIX`; the length is within the address. -/
structure IpAddressPrefix where
  address : SockaddrInet
  prefixLength : Nat
  within : prefixLength ≤ 8 * address.family.octets
deriving DecidableEq

namespace IpAddressPrefix

def family (p : IpAddressPrefix) : Family := p.address.family

def routeContainsDest (route dest : IpAddressPrefix) : Bool :=
  if route.family ≠ dest.family then false
  else if route.prefixLength > dest.prefixLength then false
  else
    match route.family with
    | .inet => prefixcmp route.address.bytes dest.address.bytes route.prefixLength = 0
    | .inet6 => prefixcmp route.address.bytes dest.address.bytes route.prefixLength = 0
    | .unspec => false

/-- The addresses under `dest` are all under `route`: the two agree on the bits of `route`. -/
def Covers (route dest : IpAddressPrefix) : Prop :=
  route.family = dest.family ∧ route.family ≠ .unspec ∧ route.prefixLength ≤ dest.prefixLength ∧
    leading route.prefixLength route.address.bytes = leading route.prefixLength dest.address.bytes

instance (route dest : IpAddressPrefix) : Decidable (route.Covers dest) :=
  inferInstanceAs (Decidable (_ ∧ _))

theorem routeContainsDest_iff (route dest : IpAddressPrefix) :
    route.routeContainsDest dest = true ↔ route.Covers dest := by
  rw [routeContainsDest, Covers]
  by_cases hf : route.family = dest.family
  · have hlen : route.address.bytes.length = dest.address.bytes.length := by
      rw [SockaddrInet.length_bytes, SockaddrInet.length_bytes]
      exact congrArg Family.octets hf
    have hcmp := prefixcmp_eq_zero hlen (by simpa only [SockaddrInet.length_bytes] using route.within)
    by_cases hl : route.prefixLength ≤ dest.prefixLength
    · rw [if_neg (not_not.mpr hf), if_neg (Nat.not_lt.mpr hl)]
      rw [← hcmp, and_iff_right hf, and_iff_right hl]
      cases route.family with
      | unspec => simp
      | inet | inet6 => simp
    · simp [hf, hl]
  · simp [hf]

def prefixToAddress (p : IpAddressPrefix) : QHostAddress :=
  match p.address with
  | .inet6 _ _ address _ => .ipv6 (BitVec.ofNat 128 (value address.toList))
  | .inet _ address => .ipv4 (BitVec.ofNat 32 (value address.toList))
  | .unspec => .null

end IpAddressPrefix

def mibIpprotoNetmgmt : Nat := 3

def exclusionRouteMetric : UInt32 := 0x5e72

/-- `MIB_IPFORWARD_ROW2`, as far as the monitor reads it or tells rows apart by it. -/
structure Row where
  interfaceLuid : UInt64
  destinationPrefix : IpAddressPrefix
  nextHop : SockaddrInet
  protocol : Nat
  metric : UInt32
  age : UInt32
deriving DecidableEq

end TunnelCore.RouteMonitor
