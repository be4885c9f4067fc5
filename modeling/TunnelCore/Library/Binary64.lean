import Mathlib.Data.Int.Log
import Mathlib.Data.Nat.Cast.Field
import Mathlib.Data.Rat.Floor

namespace TunnelCore.Binary64

def roundEven (x : ℚ) : ℤ :=
  if x - ⌊x⌋ < 1 / 2 then ⌊x⌋ else if 1 / 2 < x - ⌊x⌋ then ⌊x⌋ + 1 else ⌊x⌋ + ⌊x⌋ % 2

theorem roundEven_intCast (n : ℤ) : roundEven n = n := by simp [roundEven]

theorem abs_roundEven_sub_le (x : ℚ) : |(roundEven x : ℚ) - x| ≤ 1 / 2 := by
  have hlow := Int.floor_le x
  have hhigh := Int.lt_floor_add_one x
  rw [abs_le, roundEven]
  split_ifs with hbelow habove
  · constructor <;> linarith
  · push_cast
    constructor <;> linarith
  · have hparity : ((⌊x⌋ % 2 : ℤ) : ℚ) = 0 ∨ ((⌊x⌋ % 2 : ℤ) : ℚ) = 1 := by
      rcases Int.emod_two_eq_zero_or_one ⌊x⌋ with h | h <;> simp [h]
    push_cast at hparity ⊢
    rcases hparity with h | h <;> rw [h] <;> constructor <;> linarith

def ulp (x : ℚ) : ℚ := 2 ^ (Int.log 2 |x| - 52)

/-- The nearest number with 53 significant bits. The exponent has no bounds here. -/
def round (x : ℚ) : ℚ := roundEven (x / ulp x) * ulp x

theorem ulp_pos (x : ℚ) : 0 < ulp x := zpow_pos (by norm_num) _

theorem abs_round_sub_le (x : ℚ) : |round x - x| ≤ ulp x / 2 := by
  have hpos := ulp_pos x
  have hscale : round x - x = ((roundEven (x / ulp x) : ℚ) - x / ulp x) * ulp x := by
    rw [round, sub_mul, div_mul_cancel₀ x hpos.ne']
  rw [hscale, abs_mul, abs_of_pos hpos]
  calc |(roundEven (x / ulp x) : ℚ) - x / ulp x| * ulp x
      ≤ 1 / 2 * ulp x := mul_le_mul_of_nonneg_right (abs_roundEven_sub_le _) hpos.le
    _ = ulp x / 2 := by ring

theorem ulp_le {x : ℚ} (h : 0 < x) : ulp x ≤ x / 2 ^ 52 := by
  have hlog : (2 : ℚ) ^ Int.log 2 |x| ≤ |x| := Int.zpow_log_le_self (by norm_num) (abs_pos.mpr h.ne')
  rw [abs_of_pos h] at hlog
  rw [ulp, abs_of_pos h, zpow_sub₀ (by norm_num)]
  exact div_le_div_of_nonneg_right hlog (by norm_num)

theorem round_natCast {n : ℕ} (h : n < 2 ^ 53) : round n = n := by
  have hlog : Nat.log 2 n ≤ 52 := Nat.le_of_lt_succ (Nat.log_lt_of_lt_pow' (by decide) h)
  obtain ⟨k, hk⟩ := Nat.exists_eq_add_of_le hlog
  have hulp : ulp n = (2 ^ k)⁻¹ := by
    have hexponent : (Nat.log 2 n : ℤ) - 52 = -(k : ℤ) := by omega
    rw [ulp, Nat.abs_cast, Int.log_natCast, hexponent, zpow_neg, zpow_natCast]
  have hwhole : (n : ℚ) / ulp n = ((n * 2 ^ k : ℤ) : ℚ) := by
    rw [hulp, div_inv_eq_mul]
    push_cast
    rfl
  rw [round, hwhole, roundEven_intCast, ← hwhole, div_mul_cancel₀ _ (ulp_pos n).ne']

theorem ceil_round_div {a b : ℕ} (ha : a < 2 ^ 53) (hb : 0 < b) : ⌈round (a / b)⌉ = ⌈(a / b : ℚ)⌉ := by
  have hbpos : (0 : ℚ) < b := Nat.cast_pos.mpr hb
  rcases Nat.eq_zero_or_pos (a % b) with hr | hr
  · have hexact : (a : ℚ) / b = (a / b : ℕ) := (Nat.cast_div (Nat.dvd_of_mod_eq_zero hr) hbpos.ne').symm
    rw [hexact, round_natCast (Nat.lt_of_le_of_lt (Nat.div_le_self a b) ha)]
  · -- the quotient is at least 1/b away from the integers around it, and moves by less
    have hsplit : (a : ℚ) = b * (a / b : ℕ) + (a % b : ℕ) := by exact_mod_cast (Nat.div_add_mod a b).symm
    have hremainder : (1 : ℚ) ≤ (a % b : ℕ) ∧ ((a % b : ℕ) : ℚ) + 1 ≤ b := by
      exact_mod_cast And.intro hr (Nat.mod_lt a hb)
    have hx : (a : ℚ) / b = (a / b : ℕ) + (a % b : ℕ) / b := by
      rw [hsplit]
      field_simp
    have hlow : ((a / b : ℕ) : ℚ) + 1 / b ≤ a / b := by
      rw [hx]
      exact add_le_add_right (div_le_div_of_nonneg_right hremainder.1 hbpos.le) _
    have hhigh : (a : ℚ) / b + 1 / b ≤ (a / b : ℕ) + 1 := by
      rw [hx, add_assoc, ← add_div]
      exact add_le_add_right ((div_le_one hbpos).mpr hremainder.2) _
    have hmove : |round (a / b) - a / b| < 1 / b := by
      have ha : (a : ℚ) < 2 ^ 53 := by exact_mod_cast ha
      have hstep : (0 : ℚ) < 1 / b := one_div_pos.mpr hbpos
      have hpos : (0 : ℚ) < a / b := lt_of_lt_of_le (add_pos_of_nonneg_of_pos (Nat.cast_nonneg _) hstep) hlow
      calc |round (a / b) - a / b| ≤ ulp (a / b) / 2 := abs_round_sub_le _
        _ ≤ a / b / 2 ^ 52 / 2 := div_le_div_of_nonneg_right (ulp_le hpos) (by norm_num)
        _ = a * (1 / b) / 2 ^ 53 := by ring
        _ < 1 / b := by
          rw [div_lt_iff₀ (by norm_num), mul_comm (1 / (b : ℚ))]
          exact mul_lt_mul_of_pos_right ha hstep
    have hceil {y : ℚ} (hy : |y - a / b| < 1 / b) : ⌈y⌉ = ((a / b : ℕ) : ℤ) + 1 := by
      rw [abs_lt] at hy
      rw [Int.ceil_eq_iff, Int.cast_add, Int.cast_natCast, Int.cast_one]
      constructor <;> linarith
    rw [hceil hmove, hceil (by rw [sub_self, abs_zero]; exact one_div_pos.mpr hbpos)]

end TunnelCore.Binary64
