import TunnelCore.Library.TreeSet
import Mathlib.Data.Set.Lattice

namespace TunnelCore.Spans

open TreeSet

/-- Values that stand for a nonempty block of consecutive numbers. -/
class Span (α : Type*) where
  lo : α → Nat
  hi : α → Nat
  lo_le_hi : ∀ a, lo a ≤ hi a

open TunnelCore.Spans.Span

variable {α : Type*} [Span α] {cmp : α → α → Int}

def points (a : α) : Set Nat := Set.Icc (lo a) (hi a)

def cover (s : List α) : Set Nat := {n | ∃ a ∈ s, n ∈ points a}

def Apart (a b : α) : Prop := hi a + 1 < lo b ∨ hi b + 1 < lo a

def Separated (s : List α) : Prop := s.Pairwise (fun a b => hi a + 1 < lo b)

/-- The comparison orders blocks by their lower end, then by their upper one. -/
structure Lexicographic (cmp : α → α → Int) : Prop where
  neg : ∀ a b, cmp a b < 0 ↔ lo a < lo b ∨ lo a = lo b ∧ hi a < hi b
  zero : ∀ a b, cmp a b = 0 ↔ lo a = lo b ∧ hi a = hi b
  ext : ∀ a b : α, lo a = lo b → hi a = hi b → a = b

theorem Lexicographic.lawful (hc : Lexicographic cmp) : Lawful cmp where
  eq_zero a b := by
    rw [hc.zero]
    exact ⟨fun h => hc.ext a b h.1 h.2, fun h => h ▸ ⟨rfl, rfl⟩⟩
  neg_swap a b := by
    have h1 := hc.neg a b
    have h2 := hc.neg b a
    have h3 := hc.zero b a
    omega
  trans a b c := by
    rw [hc.neg, hc.neg, hc.neg]
    omega

theorem cover_nil : cover ([] : List α) = ∅ := by simp [cover]

theorem cover_add (hc : Lawful cmp) (s : List α) (x : α) : cover (add cmp s x) = cover s ∪ points x := by
  ext n
  simp only [cover, Set.mem_ofPred_eq, mem_add hc, Set.mem_union]
  constructor
  · rintro ⟨a, rfl | ha, hn⟩
    · exact .inr hn
    · exact .inl ⟨a, ha, hn⟩
  · rintro (⟨a, ha, hn⟩ | hn)
    · exact ⟨a, .inr ha, hn⟩
    · exact ⟨x, .inl rfl, hn⟩

theorem cover_addAll (hc : Lawful cmp) (s xs : List α) : cover (addAll cmp s xs) = cover s ∪ cover xs := by
  ext n
  simp only [cover, Set.mem_ofPred_eq, mem_addAll hc, Set.mem_union]
  constructor
  · rintro ⟨a, ha | ha, hn⟩
    · exact .inr ⟨a, ha, hn⟩
    · exact .inl ⟨a, ha, hn⟩
  · rintro (⟨a, ha, hn⟩ | ⟨a, ha, hn⟩)
    · exact ⟨a, .inr ha, hn⟩
    · exact ⟨a, .inl ha, hn⟩

variable {s : List α}

theorem cover_remove (hc : Lawful cmp) {x : α} (hx : x ∈ s) :
    cover (remove cmp s x) ∪ points x = cover s := by
  ext n
  simp only [cover, Set.mem_ofPred_eq, mem_remove hc, Set.mem_union]
  constructor
  · rintro (⟨a, ha, hn⟩ | hn)
    · exact ⟨a, ha.1, hn⟩
    · exact ⟨x, hx, hn⟩
  · rintro ⟨a, ha, hn⟩
    by_cases hax : a = x
    · exact .inr (hax ▸ hn)
    · exact .inl ⟨a, ⟨ha, hax⟩, hn⟩

theorem points_join {a b t : α} (h1 : lo a ≤ hi b + 1) (h2 : lo b ≤ hi a + 1)
    (hlo : lo t = min (lo a) (lo b)) (hhi : hi t = max (hi a) (hi b)) : points t = points a ∪ points b := by
  ext n
  simp only [points, Set.mem_Icc, Set.mem_union]
  have := lo_le_hi a
  have := lo_le_hi b
  omega

theorem separated_iff (hc : Lexicographic cmp) :
    Separated s ↔ Sorted cmp s ∧ ∀ a ∈ s, ∀ b ∈ s, a = b ∨ Apart a b := by
  constructor
  · intro h
    refine ⟨h.imp fun {a b} hab => (hc.neg a b).mpr (by have := lo_le_hi a; omega), ?_⟩
    induction s with
    | nil => simp
    | cons x s ih =>
      obtain ⟨hx, hs⟩ := List.pairwise_cons.mp h
      intro a ha b hb
      rcases List.mem_cons.mp ha with hax | has <;> rcases List.mem_cons.mp hb with hbx | hbs
      · exact .inl (hax.trans hbx.symm)
      · exact .inr (.inl (hax ▸ hx b hbs))
      · exact .inr (.inr (hbx ▸ hx a has))
      · exact ih hs a has b hbs
  · rintro ⟨hs, hap⟩
    refine hs.imp_of_mem fun {a b} ha hb hab => ?_
    have hlt := (hc.neg a b).mp hab
    have := lo_le_hi a
    have := lo_le_hi b
    rcases hap a ha b hb with rfl | h | h
    · omega
    · exact h
    · omega

theorem Separated.sorted (hc : Lexicographic cmp) (hs : Separated s) : Sorted cmp s :=
  ((separated_iff hc).mp hs).1

theorem Separated.gap (hc : Lexicographic cmp) (hs : Separated s) {a b : α}
    (ha : a ∈ s) (hb : b ∈ s) (h : cmp a b < 0) : hi a + 1 < lo b := by
  have hlt := (hc.neg a b).mp h
  have := lo_le_hi a
  have := lo_le_hi b
  rcases ((separated_iff hc).mp hs).2 a ha b hb with rfl | hap | hap
  · omega
  · exact hap
  · omega

theorem separated_remove (hs : Separated s) (x : α) : Separated (remove cmp s x) := hs.filter _

theorem separated_add (hc : Lexicographic cmp) (hs : Separated s) {x : α}
    (hx : ∀ e ∈ s, Apart e x) : Separated (add cmp s x) := by
  rw [separated_iff hc] at hs ⊢
  refine ⟨sorted_add hc.lawful hs.1 x, fun a ha b hb => ?_⟩
  rw [mem_add hc.lawful] at ha hb
  rcases ha with rfl | ha <;> rcases hb with rfl | hb
  · exact .inl rfl
  · exact .inr (hx b hb).symm
  · exact .inr (hx a ha)
  · exact hs.2 a ha b hb

theorem separated_addAll (hc : Lexicographic cmp) {s xs : List α} (hs : Separated s) (hxs : Separated xs)
    (hx : ∀ e ∈ s, ∀ x ∈ xs, Apart e x) : Separated (addAll cmp s xs) := by
  rw [separated_iff hc] at hs hxs ⊢
  refine ⟨sorted_addAll hc.lawful hs.1 xs, fun a ha b hb => ?_⟩
  rw [mem_addAll hc.lawful] at ha hb
  rcases ha with ha | ha <;> rcases hb with hb | hb
  · exact hxs.2 a ha b hb
  · exact .inr (hx b hb a ha).symm
  · exact .inr (hx a ha b hb)
  · exact hs.2 a ha b hb

theorem Separated.exists_block (hc : Lexicographic cmp) (hs : Separated s) {i j : Nat} (hij : i ≤ j)
    (h : Set.Icc i j ⊆ cover s) : ∃ a ∈ s, Set.Icc i j ⊆ points a := by
  obtain ⟨a, ha, hlo, hhi⟩ := h (Set.left_mem_Icc.mpr hij)
  refine ⟨a, ha, Set.Icc_subset_Icc hlo ?_⟩
  by_contra hlt
  obtain ⟨b, hb, hb1, hb2⟩ := h (show hi a + 1 ∈ Set.Icc i j from ⟨by omega, by omega⟩)
  rcases ((separated_iff hc).mp hs).2 a ha b hb with rfl | hap | hap <;> omega

theorem Separated.eq_of_meet (hc : Lexicographic cmp) (hs : Separated s) {a b : α} (ha : a ∈ s)
    (hb : b ∈ s) {n : Nat} (hna : n ∈ points a) (hnb : n ∈ points b) : a = b := by
  rcases ((separated_iff hc).mp hs).2 a ha b hb with h | h
  · exact h
  · simp only [points, Set.mem_Icc] at hna hnb
    rcases h with h | h <;> omega

theorem Separated.mem_of_cover_eq (hc : Lexicographic cmp) {s t : List α} (hs : Separated s) (ht : Separated t)
    (h : cover s = cover t) {a : α} (ha : a ∈ s) : a ∈ t := by
  have hlo : lo a ∈ points a := Set.left_mem_Icc.mpr (lo_le_hi a)
  obtain ⟨b, hb, hab⟩ := ht.exists_block hc (lo_le_hi a) fun n hn => h ▸ ⟨a, ha, hn⟩
  obtain ⟨a', ha', hba⟩ := hs.exists_block hc (lo_le_hi b) fun n hn => h.symm ▸ ⟨b, hb, hn⟩
  obtain rfl := hs.eq_of_meet hc ha ha' hlo (hba (hab hlo))
  have h1 := (Set.Icc_subset_Icc_iff (lo_le_hi a)).mp hab
  have h2 := (Set.Icc_subset_Icc_iff (lo_le_hi b)).mp hba
  rwa [hc.ext a b (le_antisymm h2.1 h1.1) (le_antisymm h1.2 h2.2)]

theorem Separated.ext (hc : Lexicographic cmp) {s t : List α} (hs : Separated s) (ht : Separated t)
    (h : cover s = cover t) : s = t :=
  (hs.sorted hc).ext hc.lawful (ht.sorted hc) fun _ =>
    ⟨hs.mem_of_cover_eq hc ht h, ht.mem_of_cover_eq hc hs h.symm⟩

end TunnelCore.Spans
