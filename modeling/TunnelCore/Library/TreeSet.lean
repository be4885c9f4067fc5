import Mathlib.Data.List.TakeWhile
import Mathlib.Tactic.Tauto

namespace TunnelCore.TreeSet

variable {α : Type*} {cmp : α → α → Int}

structure Lawful (cmp : α → α → Int) : Prop where
  eq_zero : ∀ a b, cmp a b = 0 ↔ a = b
  neg_swap : ∀ a b, cmp a b < 0 ↔ 0 < cmp b a
  trans : ∀ a b c, cmp a b < 0 → cmp b c < 0 → cmp a c < 0

def Sorted (cmp : α → α → Int) (s : List α) : Prop := s.Pairwise (fun a b => cmp a b < 0)

def floor (cmp : α → α → Int) (s : List α) (x : α) : Option α := (s.filter (fun e => cmp e x ≤ 0)).getLast?

def ceiling (cmp : α → α → Int) (s : List α) (x : α) : Option α := s.find? (fun e => 0 ≤ cmp e x)

def higher (cmp : α → α → Int) (s : List α) (x : α) : Option α := s.find? (fun e => 0 < cmp e x)

def remove (cmp : α → α → Int) (s : List α) (x : α) : List α := s.filter (fun e => cmp e x ≠ 0)

def add (cmp : α → α → Int) (s : List α) (x : α) : List α :=
  if s.any (fun e => cmp e x = 0) then s
  else s.takeWhile (fun e => cmp e x < 0) ++ x :: s.dropWhile (fun e => cmp e x < 0)

def addAll (cmp : α → α → Int) (s : List α) (xs : List α) : List α := xs.foldl (add cmp) s

theorem Lawful.irrefl (hc : Lawful cmp) (a : α) : ¬cmp a a < 0 := by
  have := (hc.eq_zero a a).mpr rfl
  omega

theorem Lawful.trichotomy (hc : Lawful cmp) (a b : α) : cmp a b < 0 ∨ a = b ∨ cmp b a < 0 := by
  rcases Int.lt_trichotomy (cmp a b) 0 with h | h | h
  · exact .inl h
  · exact .inr (.inl ((hc.eq_zero a b).mp h))
  · exact .inr (.inr ((hc.neg_swap b a).mpr h))

theorem Sorted.ext (hc : Lawful cmp) {s t : List α} (hs : Sorted cmp s) (ht : Sorted cmp t)
    (h : ∀ a, a ∈ s ↔ a ∈ t) : s = t := by
  have hne : ∀ {a b : α}, cmp a b < 0 → a ≠ b := fun hab he => hc.irrefl _ (he ▸ hab)
  have hperm := (List.perm_ext_iff_of_nodup (hs.imp hne) (ht.imp hne)).mpr h
  refine hperm.eq_of_pairwise (fun a b _ _ hab hba => ?_) hs ht
  exact absurd (hc.trans a b a hab hba) (hc.irrefl a)

variable {s : List α} {x : α} {p : α → Bool}

theorem floor_some (hs : Sorted cmp s) {x f : α} (h : floor cmp s x = some f) :
    f ∈ s ∧ cmp f x ≤ 0 ∧ ∀ e ∈ s, cmp e x ≤ 0 → e = f ∨ cmp e f < 0 := by
  obtain ⟨init, hsplit⟩ := List.getLast?_eq_some_iff.mp h
  have hm : ∀ e, e ∈ init ++ [f] ↔ e ∈ s ∧ cmp e x ≤ 0 := by intro e; rw [← hsplit]; simp
  have hf := (hm f).mp (by simp)
  refine ⟨hf.1, hf.2, fun e he hle => ?_⟩
  have hp : (init ++ [f]).Pairwise (fun a b => cmp a b < 0) := hsplit ▸ hs.filter _
  rcases List.mem_append.mp ((hm e).mpr ⟨he, hle⟩) with hi | hi
  · exact .inr ((List.pairwise_append.mp hp).2.2 e hi f (by simp))
  · exact .inl (by simpa using hi)

theorem floor_none (h : floor cmp s x = none) : ∀ e ∈ s, 0 < cmp e x := by
  intro e he
  have hn : s.filter (fun e => cmp e x ≤ 0) = [] := by simpa [floor] using h
  have := List.filter_eq_nil_iff.mp hn e he
  simpa using this

theorem find_first (hs : Sorted cmp s) {c : α}
    (h : s.find? p = some c) : c ∈ s ∧ p c = true ∧ ∀ e ∈ s, p e = true → e = c ∨ cmp c e < 0 := by
  obtain ⟨hp, as, bs, rfl, hn⟩ := List.find?_eq_some_iff_append.mp h
  refine ⟨by simp, hp, fun e he hpe => ?_⟩
  rcases List.mem_append.mp he with ha | hb
  · exact absurd hpe (by simpa using hn e ha)
  · rcases List.mem_cons.mp hb with rfl | hb
    · exact .inl rfl
    · exact .inr (List.rel_of_pairwise_cons (List.pairwise_append.mp hs).2.1 hb)

theorem ceiling_some (hs : Sorted cmp s) {x c : α} (h : ceiling cmp s x = some c) :
    c ∈ s ∧ 0 ≤ cmp c x ∧ ∀ e ∈ s, 0 ≤ cmp e x → e = c ∨ cmp c e < 0 := by
  simpa using find_first hs h

theorem ceiling_none (h : ceiling cmp s x = none) : ∀ e ∈ s, cmp e x < 0 := by
  simpa [ceiling] using h

theorem higher_some (hs : Sorted cmp s) {x c : α} (h : higher cmp s x = some c) :
    c ∈ s ∧ 0 < cmp c x ∧ ∀ e ∈ s, 0 < cmp e x → e = c ∨ cmp c e < 0 := by
  simpa using find_first hs h

theorem higher_none (h : higher cmp s x = none) : ∀ e ∈ s, cmp e x ≤ 0 := by
  simpa [higher] using h

theorem le_of_lt_higher (hc : Lawful cmp) (hs : Sorted cmp s) {x e : α} (he : e ∈ s)
    (h : ∀ n, higher cmp s x = some n → cmp e n < 0) : e = x ∨ cmp e x < 0 := by
  rcases hc.trichotomy e x with hlt | heq | hgt
  · exact .inr hlt
  · exact .inl heq
  · exfalso
    rw [hc.neg_swap] at hgt
    cases hn : higher cmp s x with
    | none =>
      have := higher_none hn e he
      omega
    | some n =>
      have hen := h n hn
      rcases (higher_some hs hn).2.2 e he hgt with rfl | hne
      · exact hc.irrefl e hen
      · exact hc.irrefl e (hc.trans _ _ _ hen hne)

theorem mem_remove (hc : Lawful cmp) {x e : α} : e ∈ remove cmp s x ↔ e ∈ s ∧ e ≠ x := by
  simp [remove, hc.eq_zero]

theorem length_remove_lt (hc : Lawful cmp) (hx : x ∈ s) :
    (remove cmp s x).length < s.length := by
  apply List.length_filter_lt_length_iff_exists.mpr
  exact ⟨x, hx, by simp [hc.eq_zero]⟩

theorem mem_add (hc : Lawful cmp) {x e : α} : e ∈ add cmp s x ↔ e = x ∨ e ∈ s := by
  by_cases h : ∃ y ∈ s, cmp y x = 0
  · obtain ⟨y, hy, hyx⟩ := h
    have he := (hc.eq_zero y x).mp hyx
    subst he
    rw [add, if_pos (by simp only [List.any_eq_true, decide_eq_true_eq]; exact ⟨y, hy, hyx⟩)]
    exact ⟨.inr, fun h => h.elim (· ▸ hy) id⟩
  · rw [add, if_neg (by simpa using h)]
    have hm : e ∈ s ↔ e ∈ s.takeWhile (fun e => cmp e x < 0) ∨ e ∈ s.dropWhile (fun e => cmp e x < 0) := by
      rw [← List.mem_append, List.takeWhile_append_dropWhile]
    rw [hm, List.mem_append, List.mem_cons]
    tauto

theorem dropWhile_ge (hc : Lawful cmp) (hs : Sorted cmp s) (x : α) :
    ∀ e ∈ s.dropWhile (fun e => cmp e x < 0), ¬cmp e x < 0 := by
  induction s with
  | nil => simp
  | cons y s ih =>
    obtain ⟨hy, hs'⟩ := List.pairwise_cons.mp hs
    by_cases h : cmp y x < 0
    · simpa [List.dropWhile_cons, h] using ih hs'
    · intro e he
      simp only [List.dropWhile_cons, h, decide_false, Bool.false_eq_true, if_false, List.mem_cons] at he
      rcases he with rfl | he
      · exact h
      · exact fun hex => h (hc.trans _ _ _ (hy e he) hex)

theorem sorted_add (hc : Lawful cmp) (hs : Sorted cmp s) (x : α) : Sorted cmp (add cmp s x) := by
  by_cases h : ∃ y ∈ s, cmp y x = 0
  · rwa [add, if_pos (by simpa using h)]
  · rw [add, if_neg (by simpa using h)]
    have hsplit := List.takeWhile_append_dropWhile (p := fun e => decide (cmp e x < 0)) (l := s)
    have hs' : Sorted cmp (s.takeWhile (fun e => cmp e x < 0) ++ s.dropWhile (fun e => cmp e x < 0)) := by
      rwa [hsplit]
    obtain ⟨ht, hd, htd⟩ := List.pairwise_append.mp hs'
    have hlow : ∀ a ∈ s.takeWhile (fun e => cmp e x < 0), cmp a x < 0 := fun a ha => by
      simpa using List.mem_takeWhile_imp ha
    have hhigh : ∀ b ∈ s.dropWhile (fun e => cmp e x < 0), cmp x b < 0 := fun b hb => by
      have hge := dropWhile_ge hc hs x b hb
      have hne : cmp b x ≠ 0 := fun h0 => h ⟨b, (List.dropWhile_suffix _).subset hb, h0⟩
      exact (hc.neg_swap x b).mpr (by omega)
    refine List.pairwise_append.mpr ⟨ht, List.pairwise_cons.mpr ⟨hhigh, hd⟩, fun a ha b hb => ?_⟩
    rcases List.mem_cons.mp hb with rfl | hb
    · exact hlow a ha
    · exact htd a ha b hb

theorem mem_addAll (hc : Lawful cmp) {s xs : List α} {e : α} : e ∈ addAll cmp s xs ↔ e ∈ xs ∨ e ∈ s := by
  induction xs generalizing s with
  | nil => simp [addAll]
  | cons x xs ih =>
    rw [addAll, List.foldl_cons]
    change e ∈ addAll cmp (add cmp s x) xs ↔ _
    rw [ih, mem_add hc, List.mem_cons]
    tauto

theorem sorted_addAll (hc : Lawful cmp) (hs : Sorted cmp s) (xs : List α) :
    Sorted cmp (addAll cmp s xs) := by
  induction xs generalizing s with
  | nil => exact hs
  | cons x xs ih => exact ih (sorted_add hc hs x)

theorem filter_add (hx : p x = false) :
    (add cmp s x).filter p = s.filter p := by
  rw [add]
  split
  · rfl
  · rw [List.filter_append, List.filter_cons, hx]
    simp only [Bool.false_eq_true, if_false]
    rw [← List.filter_append, List.takeWhile_append_dropWhile]

theorem filter_addAll {s xs : List α} (hx : ∀ x ∈ xs, p x = false) :
    (addAll cmp s xs).filter p = s.filter p := by
  induction xs generalizing s with
  | nil => rfl
  | cons x xs ih =>
    rw [addAll, List.foldl_cons]
    change (addAll cmp (add cmp s x) xs).filter p = _
    rw [ih (fun y hy => hx y (List.mem_cons_of_mem _ hy)), filter_add (hx x List.mem_cons_self)]

end TunnelCore.TreeSet
