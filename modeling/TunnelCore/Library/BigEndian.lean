import Mathlib.Data.Nat.Digits.Lemmas

namespace TunnelCore.BigEndian

def value (bytes : List UInt8) : Nat := Nat.ofDigits 256 (bytes.reverse.map UInt8.toNat)

@[simp] theorem value_nil : value [] = 0 := rfl

theorem value_append (xs ys : List UInt8) :
    value (xs ++ ys) = value xs * 256 ^ ys.length + value ys := by
  simp [value, Nat.ofDigits_append, Nat.add_comm, Nat.mul_comm]

theorem value_cons (b : UInt8) (bytes : List UInt8) :
    value (b :: bytes) = b.toNat * 256 ^ bytes.length + value bytes := by
  rw [← List.singleton_append, value_append]
  simp [value]

theorem value_reverse_cons (b : UInt8) (bytes : List UInt8) :
    value (b :: bytes).reverse = value bytes.reverse * 256 + b.toNat := by
  rw [List.reverse_cons, value_append]
  simp [value]

theorem value_lt (bytes : List UInt8) : value bytes < 256 ^ bytes.length := by
  induction bytes with
  | nil => simp
  | cons b bytes ih =>
    rw [value_cons, List.length_cons, Nat.pow_succ, Nat.mul_comm (256 ^ bytes.length)]
    have hb : b.toNat + 1 ≤ 256 := b.toNat_lt
    calc b.toNat * 256 ^ bytes.length + value bytes
        < b.toNat * 256 ^ bytes.length + 256 ^ bytes.length := by omega
      _ = (b.toNat + 1) * 256 ^ bytes.length := by rw [Nat.add_mul, Nat.one_mul]
      _ ≤ 256 * 256 ^ bytes.length := Nat.mul_le_mul_right _ hb

theorem value_replicate_zero (n : Nat) : value (List.replicate n 0) = 0 := by
  induction n with
  | zero => rfl
  | succ n ih => rw [List.replicate_succ, value_cons, ih]; simp

theorem value_replicate_max (n : Nat) : value (List.replicate n 255) = 256 ^ n - 1 := by
  induction n with
  | zero => rfl
  | succ n ih =>
    have hp : 0 < 256 ^ n := Nat.pow_pos (by decide)
    rw [List.replicate_succ, value_cons, ih, List.length_replicate, Nat.pow_succ]
    simp only [UInt8.reduceToNat]
    omega

theorem value_lt_of_head_lt {b c : UInt8} (h : b.toNat < c.toNat) {xs ys : List UInt8}
    (hl : xs.length = ys.length) : value (b :: xs) < value (c :: ys) := by
  rw [value_cons, value_cons, hl]
  have hx : value xs < 256 ^ ys.length := hl ▸ value_lt xs
  calc b.toNat * 256 ^ ys.length + value xs
      < (b.toNat + 1) * 256 ^ ys.length := by rw [Nat.add_mul, Nat.one_mul]; omega
    _ ≤ c.toNat * 256 ^ ys.length := Nat.mul_le_mul_right _ h
    _ ≤ c.toNat * 256 ^ ys.length + value ys := Nat.le_add_right _ _

theorem value_injective {xs ys : List UInt8} (hl : xs.length = ys.length) (h : value xs = value ys) : xs = ys := by
  induction xs generalizing ys with
  | nil => exact (List.length_eq_zero_iff.mp hl.symm).symm
  | cons b xs ih =>
    cases ys with
    | nil => simp at hl
    | cons c ys =>
      have hl' : xs.length = ys.length := by simpa using hl
      have hbc : b.toNat = c.toNat := by
        rcases Nat.lt_trichotomy b.toNat c.toNat with hlt | heq | hgt
        · exact absurd h (value_lt_of_head_lt hlt hl').ne
        · exact heq
        · exact absurd h (value_lt_of_head_lt hgt hl'.symm).ne'
      rw [value_cons, value_cons, hbc, hl'] at h
      rw [UInt8.toNat_inj.mp hbc, ih hl' (by omega)]

theorem exists_value {n x : Nat} (h : x < 256 ^ n) : ∃ bytes : List UInt8, bytes.length = n ∧ value bytes = x := by
  induction n generalizing x with
  | zero =>
    refine ⟨[], rfl, ?_⟩
    rw [Nat.pow_zero] at h
    rw [value_nil]
    omega
  | succ n ih =>
    have hpos : 0 < 256 ^ n := Nat.pow_pos (by decide)
    obtain ⟨rest, hl, hv⟩ := ih (Nat.mod_lt x hpos)
    have hhead : x / 256 ^ n < 256 := Nat.div_lt_of_lt_mul (by rwa [← Nat.pow_succ])
    refine ⟨UInt8.ofNat (x / 256 ^ n) :: rest, by rw [List.length_cons, hl], ?_⟩
    rw [value_cons, hl, hv, UInt8.toNat_ofNat_of_lt' hhead, Nat.div_add_mod']

def bytes : Nat → Nat → List UInt8
  | 0, _ => []
  | n + 1, x => UInt8.ofNat (x / 256 ^ n) :: bytes n x

@[simp] theorem length_bytes (n x : Nat) : (bytes n x).length = n := by
  induction n with
  | zero => rfl
  | succ n ih => rw [bytes, List.length_cons, ih]

theorem value_bytes (n x : Nat) : value (bytes n x) = x % 256 ^ n := by
  induction n with
  | zero => rw [Nat.pow_zero, Nat.mod_one]; rfl
  | succ n ih =>
    have hsplit : x % 256 ^ (n + 1) = x % 256 ^ n + 256 ^ n * (x / 256 ^ n % 256) := by
      rw [Nat.pow_succ, Nat.mod_mul]
    rw [bytes, value_cons, length_bytes, ih, UInt8.toNat_ofNat', hsplit, Nat.add_comm, Nat.mul_comm]

theorem bytes_value (xs : List UInt8) : bytes xs.length (value xs) = xs := by
  refine value_injective (length_bytes ..) ?_
  rw [value_bytes, Nat.mod_eq_of_lt (value_lt xs)]

end TunnelCore.BigEndian
