import TunnelCore.Library.BigEndian

namespace TunnelCore.Android

open BigEndian

/-- The bytes come from an `InetAddress`, so there are 4 or 16 of them. -/
structure IpAddress where
  address : List UInt8
  size_eq : address.length = 4 ∨ address.length = 16
deriving DecidableEq

inductive NetError
  | overflow
  | mixedFamilies (start stop : IpAddress)
  | startAfterEnd (start stop : IpAddress)
deriving DecidableEq

namespace IpAddress

def size (ip : IpAddress) : Nat := ip.address.length

def maxMask (ip : IpAddress) : Nat := ip.size * 8

def isMinIp (ip : IpAddress) : Bool := ip.address.all (· == 0)

def isMaxIp (ip : IpAddress) : Bool := ip.address.all (· == 0xff)

/-- The carry loop of `inc`; it receives the bytes last one first, as the source visits them. -/
def incLoop : List UInt8 → List UInt8
  | [] => []
  | b :: rest => if b + 1 ≠ 0 then (b + 1) :: rest else (b + 1) :: incLoop rest

def decLoop : List UInt8 → List UInt8
  | [] => []
  | b :: rest => if b - 1 ≠ 0xff then (b - 1) :: rest else (b - 1) :: decLoop rest

theorem incLoop_length (bytes : List UInt8) : (incLoop bytes).length = bytes.length := by
  induction bytes with
  | nil => rfl
  | cons b rest ih => simp only [incLoop]; split <;> simp [ih]

theorem decLoop_length (bytes : List UInt8) : (decLoop bytes).length = bytes.length := by
  induction bytes with
  | nil => rfl
  | cons b rest ih => simp only [decLoop]; split <;> simp [ih]

def incCopy (ip : IpAddress) : IpAddress :=
  ⟨(incLoop ip.address.reverse).reverse, by simpa [incLoop_length] using ip.size_eq⟩

def decCopy (ip : IpAddress) : IpAddress :=
  ⟨(decLoop ip.address.reverse).reverse, by simpa [decLoop_length] using ip.size_eq⟩

def inc (ip : IpAddress) : Except NetError IpAddress :=
  if ip.isMaxIp then .error .overflow else .ok ip.incCopy

def dec (ip : IpAddress) : Except NetError IpAddress :=
  if ip.isMinIp then .error .overflow else .ok ip.decCopy

/-- The first differing byte decides; the difference of two unsigned bytes is taken as an
unsigned word and read back as a signed one. -/
def compareBytes : List UInt8 → List UInt8 → Int
  | a :: as, b :: bs =>
    if (a.toNat : Int) - b.toNat ≠ 0 then (a.toNat : Int) - b.toNat else compareBytes as bs
  | _, _ => 0

def compareTo (ip other : IpAddress) : Int :=
  if ip.size ≠ other.size then (ip.size : Int) - other.size
  else compareBytes ip.address other.address

instance : LT IpAddress := ⟨fun a b => a.compareTo b < 0⟩

instance : LE IpAddress := ⟨fun a b => a.compareTo b ≤ 0⟩

instance (a b : IpAddress) : Decidable (a < b) := inferInstanceAs (Decidable (a.compareTo b < 0))

instance (a b : IpAddress) : Decidable (a ≤ b) := inferInstanceAs (Decidable (a.compareTo b ≤ 0))

def minOf (a b : IpAddress) : IpAddress := if a ≤ b then a else b

def maxOf (a b : IpAddress) : IpAddress := if b ≤ a then a else b

/-- Both families on one line: all IPv4 addresses, one unused point, all IPv6 addresses. The
unused point keeps the last IPv4 address from being next to the first IPv6 one. -/
def rank (ip : IpAddress) : Nat :=
  if ip.size = 4 then value ip.address else 2 ^ 32 + 1 + value ip.address

theorem value_lt_size (ip : IpAddress) : value ip.address < 256 ^ ip.size := value_lt ip.address

variable {ip : IpAddress} {a b : IpAddress}

theorem rank_of_size_four (h : ip.size = 4) :
    ip.rank = value ip.address ∧ ip.rank < 2 ^ 32 := by
  have hv := ip.value_lt_size
  rw [h] at hv
  have hr : ip.rank = value ip.address := by simp [rank, h]
  exact ⟨hr, by rw [hr]; simpa using hv⟩

theorem rank_of_size_sixteen (h : ip.size = 16) :
    ip.rank = 2 ^ 32 + 1 + value ip.address ∧ ip.rank < 2 ^ 32 + 1 + 2 ^ 128 := by
  have hv := ip.value_lt_size
  rw [h] at hv
  have hr : ip.rank = 2 ^ 32 + 1 + value ip.address := by simp [rank, h]
  refine ⟨hr, ?_⟩
  rw [hr]
  have hp : (256 : Nat) ^ 16 = 2 ^ 128 := by norm_num
  omega

theorem size_cases (ip : IpAddress) : ip.size = 4 ∨ ip.size = 16 := ip.size_eq

theorem size_of_rank_lt (h : ip.rank < 2 ^ 32 + 1) : ip.size = 4 := by
  rcases ip.size_cases with h4 | h16
  · exact h4
  · have := (rank_of_size_sixteen h16).1
    omega

theorem size_of_lt_rank (h : 2 ^ 32 ≤ ip.rank) : ip.size = 16 := by
  rcases ip.size_cases with h4 | h16
  · have := (rank_of_size_four h4).2
    omega
  · exact h16

theorem rank_ne_gap (ip : IpAddress) : ip.rank ≠ 2 ^ 32 := by
  intro h
  have h4 : ip.size = 4 := size_of_rank_lt (by omega)
  have := (rank_of_size_four h4).2
  omega

theorem rank_sub_value (h : a.size = b.size) :
    (a.rank : Int) - b.rank = (value a.address : Int) - value b.address := by
  simp only [rank, h]
  split <;> push_cast <;> omega

theorem rank_injective (h : a.rank = b.rank) : a = b := by
  have hs : a.size = b.size := by
    rcases a.size_cases with ha | ha <;> rcases b.size_cases with hb | hb
    · rw [ha, hb]
    · have := (rank_of_size_four ha).2
      have := (rank_of_size_sixteen hb).1
      omega
    · have := (rank_of_size_sixteen ha).1
      have := (rank_of_size_four hb).2
      omega
    · rw [ha, hb]
  have hv : value a.address = value b.address := by have := rank_sub_value hs; omega
  cases a
  cases b
  simpa using value_injective hs hv

theorem rank_inj : a.rank = b.rank ↔ a = b := ⟨rank_injective, fun h => h ▸ rfl⟩

theorem compareBytes_sign {xs ys : List UInt8} (hl : xs.length = ys.length) :
    (compareBytes xs ys < 0 ↔ value xs < value ys) ∧ (compareBytes xs ys = 0 ↔ value xs = value ys) := by
  induction xs generalizing ys with
  | nil => cases ys <;> simp_all [compareBytes]
  | cons a as ih =>
    cases ys with
    | nil => simp at hl
    | cons b bs =>
      have hl' : as.length = bs.length := by simpa using hl
      rcases Nat.lt_trichotomy a.toNat b.toNat with hlt | heq | hgt
      · have hv := value_lt_of_head_lt hlt hl'
        have hc : compareBytes (a :: as) (b :: bs) = (a.toNat : Int) - b.toNat := if_pos (by omega)
        rw [hc]
        omega
      · have hc : compareBytes (a :: as) (b :: bs) = compareBytes as bs := if_neg (by omega)
        have := ih hl'
        rw [hc, value_cons, value_cons, heq, hl']
        omega
      · have hv := value_lt_of_head_lt hgt hl'.symm
        have hc : compareBytes (a :: as) (b :: bs) = (a.toNat : Int) - b.toNat := if_pos (by omega)
        rw [hc]
        omega

theorem compareTo_sign (a b : IpAddress) :
    (a.compareTo b < 0 ↔ a.rank < b.rank) ∧ (a.compareTo b = 0 ↔ a.rank = b.rank) := by
  by_cases hs : a.size = b.size
  · have hb := compareBytes_sign hs
    have hr := rank_sub_value hs
    simp only [compareTo, hs, ne_eq, not_true_eq_false, if_false]
    omega
  · simp only [compareTo, hs, ne_eq, not_false_eq_true, if_true]
    rcases a.size_cases with ha | ha <;> rcases b.size_cases with hb | hb
    · exact absurd (ha.trans hb.symm) hs
    · have := (rank_of_size_four ha).2
      have := (rank_of_size_sixteen hb).1
      omega
    · have := (rank_of_size_sixteen ha).1
      have := (rank_of_size_four hb).2
      omega
    · exact absurd (ha.trans hb.symm) hs

theorem lt_iff : a < b ↔ a.rank < b.rank := (compareTo_sign a b).1

theorem le_iff : a ≤ b ↔ a.rank ≤ b.rank := by
  have h := compareTo_sign a b
  change a.compareTo b ≤ 0 ↔ _
  omega

theorem rank_minOf (a b : IpAddress) : (minOf a b).rank = min a.rank b.rank := by
  by_cases h : a ≤ b
  · rw [minOf, if_pos h, Nat.min_eq_left (le_iff.mp h)]
  · have hn : ¬a.rank ≤ b.rank := fun hr => h (le_iff.mpr hr)
    rw [minOf, if_neg h, Nat.min_eq_right (by omega)]

theorem rank_maxOf (a b : IpAddress) : (maxOf a b).rank = max a.rank b.rank := by
  by_cases h : b ≤ a
  · rw [maxOf, if_pos h, Nat.max_eq_left (le_iff.mp h)]
  · have hn : ¬b.rank ≤ a.rank := fun hr => h (le_iff.mpr hr)
    rw [maxOf, if_neg h, Nat.max_eq_right (by omega)]

theorem incLoop_value {bytes : List UInt8} (h : bytes.all (· == 0xff) = false) :
    value (incLoop bytes).reverse = value bytes.reverse + 1 := by
  induction bytes with
  | nil => simp at h
  | cons b rest ih =>
    by_cases hb : b = 0xff
    · subst hb
      have hr : rest.all (· == 0xff) = false := by simpa using h
      rw [show incLoop (0xff :: rest) = 0 :: incLoop rest from rfl, value_reverse_cons, ih hr,
        value_reverse_cons]
      simp only [UInt8.reduceToNat]
      omega
    · have hne : b + 1 ≠ 0 := by
        intro h0
        exact hb (by rw [← UInt8.toNat_inj] at h0 ⊢; simp at h0 ⊢; have := b.toNat_lt; omega)
      have hn : (b + 1).toNat = b.toNat + 1 := by
        have hlt := b.toNat_lt
        have : b.toNat ≠ 255 := fun h => hb (by rw [← UInt8.toNat_inj]; exact h)
        rw [UInt8.toNat_add]
        simp
        omega
      rw [incLoop, if_pos hne, value_reverse_cons, value_reverse_cons, hn]
      omega

theorem decLoop_value {bytes : List UInt8} (h : bytes.all (· == 0) = false) :
    value (decLoop bytes).reverse + 1 = value bytes.reverse := by
  induction bytes with
  | nil => simp at h
  | cons b rest ih =>
    by_cases hb : b = 0
    · subst hb
      have hr : rest.all (· == 0) = false := by simpa using h
      have := ih hr
      rw [show decLoop (0 :: rest) = 0xff :: decLoop rest from rfl, value_reverse_cons, value_reverse_cons]
      simp only [UInt8.reduceToNat]
      omega
    · have h0 : b.toNat ≠ 0 := fun h => hb (by rw [← UInt8.toNat_inj]; exact h)
      have hn : (b - 1).toNat = b.toNat - 1 := by
        have hlt := b.toNat_lt
        rw [UInt8.toNat_sub_of_le _ _ (by rw [UInt8.le_iff_toNat_le]; simp; omega)]
        rfl
      have hne : b - 1 ≠ 0xff := by
        intro he
        rw [he] at hn
        have hlt := b.toNat_lt
        simp only [UInt8.reduceToNat] at hn
        omega
      rw [decLoop, if_pos hne, value_reverse_cons, value_reverse_cons, hn]
      omega

theorem isMinIp_iff : ip.isMinIp = true ↔ value ip.address = 0 := by
  have hz := value_replicate_zero ip.size
  constructor
  · intro h
    have : ip.address = List.replicate ip.size 0 :=
      List.eq_replicate_iff.mpr ⟨rfl, by simpa [isMinIp] using h⟩
    rw [this, hz]
  · intro h
    have : ip.address = List.replicate ip.size 0 :=
      value_injective (by simp [size]) (h.trans hz.symm)
    simp [isMinIp, this]

theorem isMaxIp_iff : ip.isMaxIp = true ↔ value ip.address + 1 = 256 ^ ip.size := by
  have hp : 0 < 256 ^ ip.size := Nat.pow_pos (by decide)
  have hm := value_replicate_max ip.size
  constructor
  · intro h
    have : ip.address = List.replicate ip.size 255 :=
      List.eq_replicate_iff.mpr ⟨rfl, by simpa [isMaxIp] using h⟩
    rw [this, hm]
    omega
  · intro h
    have : ip.address = List.replicate ip.size 255 :=
      value_injective (by simp [size]) (by omega)
    simp [isMaxIp, this]

theorem inc_spec (ip : IpAddress) (h : ip.isMaxIp = false) :
    ∃ next, ip.inc = .ok next ∧ next.size = ip.size ∧ next.rank = ip.rank + 1 := by
  have hs : ip.incCopy.size = ip.size := by simp [incCopy, incLoop_length, size]
  have hv : value ip.incCopy.address = value ip.address + 1 := by
    have hbytes : ip.address.reverse.all (· == 0xff) = false := by simpa [isMaxIp] using h
    have := incLoop_value hbytes
    rwa [List.reverse_reverse] at this
  have hr := rank_sub_value hs
  exact ⟨ip.incCopy, by rw [inc, h]; rfl, hs, by omega⟩

theorem dec_spec (ip : IpAddress) (h : ip.isMinIp = false) :
    ∃ prev, ip.dec = .ok prev ∧ prev.size = ip.size ∧ prev.rank + 1 = ip.rank := by
  have hs : ip.decCopy.size = ip.size := by simp [decCopy, decLoop_length, size]
  have hv : value ip.decCopy.address + 1 = value ip.address := by
    have hbytes : ip.address.reverse.all (· == 0) = false := by simpa [isMinIp] using h
    have := decLoop_value hbytes
    rwa [List.reverse_reverse] at this
  have hr := rank_sub_value hs
  exact ⟨ip.decCopy, by rw [dec, h]; rfl, hs, by omega⟩

theorem not_isMaxIp_of_lt (hs : a.size = b.size) (h : a.rank < b.rank) :
    a.isMaxIp = false := by
  rw [← Bool.not_eq_true, isMaxIp_iff, hs]
  have := rank_sub_value hs
  have := b.value_lt_size
  omega

theorem not_isMinIp_of_lt (hs : a.size = b.size) (h : a.rank < b.rank) :
    b.isMinIp = false := by
  rw [← Bool.not_eq_true, isMinIp_iff]
  have := rank_sub_value hs
  omega

theorem size_eq_of_rank_succ (h : b.rank = a.rank + 1) : a.size = b.size := by
  have hb := b.rank_ne_gap
  rcases a.size_cases with ha | ha
  · have := (rank_of_size_four ha).2
    rw [ha, show b.size = 4 from size_of_rank_lt (by omega)]
  · have := (rank_of_size_sixteen ha).1
    rw [ha, show b.size = 16 from size_of_lt_rank (by omega)]

end IpAddress

end TunnelCore.Android
