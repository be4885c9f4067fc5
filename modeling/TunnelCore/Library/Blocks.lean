import TunnelCore.Library.Spans
import Mathlib.Algebra.Group.Nat.Defs

namespace TunnelCore.Blocks

open Spans

/-- A block of `2 ^ bits` consecutive numbers that starts at a multiple of its length. -/
@[ext] structure Block where
  start : Nat
  bits : Nat
  aligned : 2 ^ bits ∣ start

namespace Block

def top (b : Block) : Nat := b.start + 2 ^ b.bits

instance : Span Block := ⟨start, fun b => b.start + (2 ^ b.bits - 1), fun _ => Nat.le_add_right _ _⟩

theorem start_lt_top (b : Block) : b.start < b.top := Nat.lt_add_of_pos_right (Nat.two_pow_pos b.bits)

theorem mem_points {b : Block} {x : Nat} : x ∈ points b ↔ b.start ≤ x ∧ x < b.top := by
  have hpos := Nat.two_pow_pos b.bits
  change b.start ≤ x ∧ x ≤ b.start + (2 ^ b.bits - 1) ↔ b.start ≤ x ∧ x < b.start + 2 ^ b.bits
  omega

theorem mem_points_iff_div {b : Block} {x : Nat} : x ∈ points b ↔ x / 2 ^ b.bits = b.start / 2 ^ b.bits := by
  have hpos := Nat.two_pow_pos b.bits
  have hs := Nat.div_mul_cancel b.aligned
  rw [mem_points, Nat.div_eq_iff hpos, hs, top]
  omega

def around (x bits : Nat) : Block := ⟨x / 2 ^ bits * 2 ^ bits, bits, Nat.dvd_mul_left _ _⟩

theorem mem_around {x y bits : Nat} : y ∈ points (around x bits) ↔ y / 2 ^ bits = x / 2 ^ bits := by
  rw [mem_points_iff_div]
  simp only [around, Nat.mul_div_cancel _ (Nat.two_pow_pos bits)]

theorem points_subset {a b : Block} (h : a.bits ≤ b.bits) {x : Nat} (ha : x ∈ points a) (hb : x ∈ points b) :
    points a ⊆ points b := by
  intro y hy
  rw [mem_points_iff_div] at *
  have hsplit : (2 : Nat) ^ b.bits = 2 ^ a.bits * 2 ^ (b.bits - a.bits) := by rw [← Nat.pow_add]; congr 1; omega
  rw [← hb, hsplit, ← Nat.div_div_eq_div_mul, ← Nat.div_div_eq_div_mul, hy, ha]

theorem eq_of_points_eq {a b : Block} (h : points a = points b) : a = b := by
  have hends : a.start = b.start ∧ a.start + (2 ^ a.bits - 1) = b.start + (2 ^ b.bits - 1) :=
    (Set.Icc_eq_Icc_iff (Nat.le_add_right _ _)).mp h
  have ha := Nat.two_pow_pos a.bits
  have hb := Nat.two_pow_pos b.bits
  exact Block.ext hends.1 (Nat.pow_right_injective (le_refl 2) (show 2 ^ a.bits = 2 ^ b.bits by omega))

def Largest (b : Block) (limit : Nat) : Prop :=
  b.top ≤ limit ∧ ∀ c : Block, c.start = b.start → c.top ≤ limit → c.bits ≤ b.bits

end Block

/-- The numbers from the index up to `limit`, cut from below into the largest blocks. -/
inductive Splits (limit : Nat) : Nat → List Block → Prop
  | nil {lo : Nat} (h : limit ≤ lo) : Splits limit lo []
  | cons {b : Block} {bs : List Block} (h : b.Largest limit) (rest : Splits limit b.top bs) :
      Splits limit b.start (b :: bs)

variable {limit lo : Nat} {bs : List Block}

theorem Splits.cover_eq (h : Splits limit lo bs) : cover bs = Set.Ico lo limit := by
  induction h with
  | nil h =>
    rw [cover_nil, Set.Ico_eq_empty (by omega)]
  | @cons b bs hb rest ih =>
    have hlt := b.start_lt_top
    have htop := hb.1
    ext x
    have hx : x ∈ cover bs ↔ b.top ≤ x ∧ x < limit := by rw [ih]; exact Set.mem_Ico
    have hmem : x ∈ cover (b :: bs) ↔ x ∈ points b ∨ x ∈ cover bs := by simp [cover]
    rw [hmem, hx, Block.mem_points, Set.mem_Ico]
    omega

theorem Splits.start_ge (h : Splits limit lo bs) {b : Block} (hb : b ∈ bs) : lo ≤ b.start := by
  have hc : b.start ∈ cover bs := ⟨b, hb, Block.mem_points.mpr ⟨le_rfl, b.start_lt_top⟩⟩
  rw [h.cover_eq] at hc
  exact hc.1

theorem Splits.ascending (h : Splits limit lo bs) : bs.Pairwise (fun a b => a.top ≤ b.start) := by
  induction h with
  | nil => exact .nil
  | cons _ rest ih => exact .cons (fun _ hc => rest.start_ge hc) ih

theorem Block.Largest.bits_le {b c : Block} (hb : b.Largest limit) (hlo : b.start ≤ c.start) (htop : c.top ≤ limit)
    {x : Nat} (hx : x ∈ points b) (hc : x ∈ points c) : c.bits ≤ b.bits := by
  by_contra hlt
  have hstart := points_subset (Nat.le_of_not_le hlt) hx hc (mem_points.mpr ⟨le_rfl, b.start_lt_top⟩)
  exact hlt (hb.2 c (le_antisymm (mem_points.mp hstart).1 hlo) htop)

/-- No block that fits is cut: each block of the list that it meets is at least as long. -/
theorem Splits.bits_le (h : Splits limit lo bs) {c : Block} (hlo : lo ≤ c.start) (htop : c.top ≤ limit) {b : Block}
    (hb : b ∈ bs) {x : Nat} (hx : x ∈ points b) (hc : x ∈ points c) : c.bits ≤ b.bits := by
  induction h with
  | nil => cases hb
  | @cons first bs hf rest ih =>
    rcases List.mem_cons.mp hb with rfl | hb
    · exact hf.bits_le hlo htop hx hc
    · refine ih ?_ hb
      by_contra hlt
      -- otherwise it starts in the first block, and so ends there
      have hcc := Block.mem_points.mpr ⟨le_refl c.start, c.start_lt_top⟩
      have hcf := Block.mem_points.mpr ⟨hlo, Nat.lt_of_not_le hlt⟩
      have hend := (Block.mem_points.mp (Block.points_subset (hf.bits_le hlo htop hcf hcc) hcc hcf hc)).2
      have := rest.start_ge hb
      have := (Block.mem_points.mp hx).1
      omega

theorem Block.Largest.top_le {b c : Block} {cs : List Block} (hb : b.Largest limit) (hc : c ∈ cs)
    (hcs : cover cs = Set.Ico b.start limit) {x : Nat} (hx : x ∈ points c) (hbx : b.top ≤ x) : b.top ≤ c.start := by
  have hin : ∀ y ∈ points c, b.start ≤ y ∧ y < limit := fun y hy => by
    have : y ∈ cover cs := ⟨c, hc, hy⟩
    rwa [hcs] at this
  by_contra hlt
  have hcc : c.start ∈ points c := mem_points.mpr ⟨le_rfl, c.start_lt_top⟩
  have hcb : c.start ∈ points b := mem_points.mpr ⟨(hin _ hcc).1, by omega⟩
  rcases Nat.le_total c.bits b.bits with hle | hle
  · have := (mem_points.mp (points_subset hle hcc hcb hx)).2
    omega
  · have hbb : b.start ∈ points b := mem_points.mpr ⟨le_rfl, b.start_lt_top⟩
    have hstart : c.start = b.start :=
      le_antisymm (mem_points.mp (points_subset hle hcb hcc hbb)).1 (hin _ hcc).1
    have hpos := c.start_lt_top
    have hlast := (hin (c.top - 1) (mem_points.mpr ⟨by omega, by omega⟩)).2
    have hbits : c.bits = b.bits := le_antisymm (hb.2 c hstart (by omega)) hle
    have := (mem_points.mp hx).2
    simp only [top, hstart, hbits] at this hbx
    omega

theorem Splits.length_le (h : Splits limit lo bs) {cs : List Block} (hcs : cover cs = Set.Ico lo limit) :
    bs.length ≤ cs.length := by
  induction h generalizing cs with
  | nil => exact Nat.zero_le _
  | @cons b bs hb rest ih =>
    have hlt := b.start_lt_top
    -- the blocks of the other cover that start after the first one cover what is left
    have hrest : cover (cs.filter (b.top ≤ ·.start)) = Set.Ico b.top limit := by
      ext x
      constructor
      · rintro ⟨c, hc, hx⟩
        obtain ⟨hc, hstart⟩ := List.mem_filter.mp hc
        have hcov : x ∈ cover cs := ⟨c, hc, hx⟩
        rw [hcs] at hcov
        exact ⟨(of_decide_eq_true hstart).trans (Block.mem_points.mp hx).1, hcov.2⟩
      · rintro ⟨h1, h2⟩
        have hcov : x ∈ cover cs := by
          rw [hcs]
          exact ⟨by omega, h2⟩
        obtain ⟨c, hc, hx⟩ := hcov
        exact ⟨c, List.mem_filter.mpr ⟨hc, decide_eq_true (hb.top_le hc hcs hx h1)⟩, hx⟩
    have hfirst : b.start ∈ cover cs := by
      rw [hcs]
      exact ⟨le_rfl, hlt.trans_le hb.1⟩
    obtain ⟨c, hc, hx⟩ := hfirst
    have hshort : (cs.filter (b.top ≤ ·.start)).length < cs.length := by
      rw [List.length_filter_lt_length_iff_exists]
      refine ⟨c, hc, ?_⟩
      have := (Block.mem_points.mp hx).1
      simp only [decide_eq_true_eq]
      omega
    have := ih hrest
    rw [List.length_cons]
    omega

end TunnelCore.Blocks
