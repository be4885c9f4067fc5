import Mathlib.Data.List.Induction

namespace TunnelCore

variable {σ ι : Type*}

def Along (step : σ → ι → σ) (P : σ → ι → Prop) : σ → List ι → Prop
  | _, [] => True
  | s, i :: is => P s i ∧ Along step P (step s i) is

variable {step : σ → ι → σ} {P Q : σ → ι → Prop}

instance Along.decidable [∀ s i, Decidable (P s i)] : ∀ (s : σ) (is : List ι), Decidable (Along step P s is)
  | _, [] => isTrue trivial
  | s, i :: is => @instDecidableAnd _ _ inferInstance (Along.decidable (step s i) is)

variable {is : List ι} {s : σ}

theorem Along.of_invariant {I : σ → Prop} (h : ∀ s i, I s → P s i → I (step s i) ∧ Q s i)
    (hs : I s) (ha : Along step P s is) : Along step Q s is := by
  induction is generalizing s with
  | nil => trivial
  | cons i is ih =>
    obtain ⟨hi, hrest⟩ := ha
    obtain ⟨hs', hq⟩ := h s i hs hi
    exact ⟨hq, ih hs' hrest⟩

theorem Along.foldl {I : σ → Prop} (h : ∀ s i, I s → P s i → I (step s i)) (hs : I s)
    (ha : Along step P s is) : I (is.foldl step s) := by
  induction is generalizing s with
  | nil => exact hs
  | cons i is ih => exact ih (h s i hs ha.1) ha.2

theorem along_concat_iff {i : ι} :
    Along step P s (is ++ [i]) ↔ Along step P s is ∧ P (is.foldl step s) i := by
  induction is generalizing s with
  | nil => exact and_comm
  | cons j is ih =>
    change P s j ∧ Along step P (step s j) (is ++ [i]) ↔ _
    rw [ih, ← and_assoc]
    rfl

theorem Along.concat {i : ι} (h : Along step P s (is ++ [i])) :
    Along step P s is ∧ P (is.foldl step s) i := along_concat_iff.mp h

theorem Along.of_prefix {is js : List ι} (h : Along step P s js) (hp : is <+: js) : Along step P s is := by
  induction js using List.reverseRecOn with
  | nil => rw [List.prefix_nil.mp hp]; trivial
  | append_singleton js j ih =>
    rcases List.prefix_concat_iff.mp hp with rfl | hp
    · exact h
    · exact ih h.concat.1 hp

/-- A predicate that holds at the start and that a step keeps exactly under `P` holds after every part
of a run exactly if all its steps satisfy `P`. -/
theorem forall_prefix_iff_along {I : σ → Prop} (hs : I s) (h : ∀ (past : List ι) (i : ι), I (past.foldl step s) →
      (I (step (past.foldl step s) i) ↔ P (past.foldl step s) i)) (is : List ι) :
    (∀ past, past <+: is → I (past.foldl step s)) ↔ Along step P s is := by
  induction is using List.reverseRecOn with
  | nil =>
    refine iff_of_true (fun past hp => ?_) trivial
    rw [List.prefix_nil.mp hp]
    exact hs
  | append_singleton is i ih =>
    have hlast (hi : I (is.foldl step s)) : I ((is ++ [i]).foldl step s) ↔ P (is.foldl step s) i := by
      rw [List.foldl_append]
      exact h is i hi
    rw [along_concat_iff, ← ih]
    constructor
    · intro hall
      have hpast := fun past (hp : past <+: is) => hall past (hp.trans (List.prefix_append is [i]))
      exact ⟨hpast, (hlast (hpast is (List.prefix_refl is))).mp (hall _ (List.prefix_refl _))⟩
    · rintro ⟨hpast, hi⟩ past hp
      rcases List.prefix_concat_iff.mp hp with rfl | hp
      · exact (hlast (hpast is (List.prefix_refl is))).mpr hi
      · exact hpast past hp

/-- As long as the run stays in `K` it is clear of `B`; it leaves `K` only into `B`, and only by a step without `P`. -/
theorem forall_prefix_not_iff_along {K B : σ → Prop} (hclear : ∀ s, K s → ¬B s)
    (hkeep : ∀ s i, K s → Q s i → P s i → K (step s i)) (hleave : ∀ s i, K s → Q s i → ¬P s i → B (step s i))
    (hs : K s) (ha : Along step Q s is) :
    (∀ past, past <+: is → ¬B (past.foldl step s)) ↔ Along step P s is := by
  induction is generalizing s with
  | nil =>
    refine iff_of_true (fun past hp => ?_) trivial
    rw [List.prefix_nil.mp hp]
    exact hclear s hs
  | cons i is ih =>
    obtain ⟨hq, ha⟩ := ha
    constructor
    · intro hall
      have hp : P s i := by
        by_contra hp
        exact hall [i] (List.prefix_append [i] is) (hleave s i hs hq hp)
      refine ⟨hp, (ih (hkeep s i hs hq hp) ha).mp fun past hpast => ?_⟩
      exact hall (i :: past) (List.cons_prefix_cons.mpr ⟨rfl, hpast⟩)
    · rintro ⟨hp, hrest⟩ past hpast
      cases past with
      | nil => exact hclear s hs
      | cons j past =>
        obtain ⟨rfl, htail⟩ := List.cons_prefix_cons.mp hpast
        exact (ih (hkeep s j hs hq hp) ha).mpr hrest past htail

/-- A predicate that only a step with `P` brings about, and that lasts only through steps with `Q`, holds at the end of
a run since a step with `P`. -/
theorem exists_since {I : σ → Prop} (h : ∀ s i, I (step s i) → P s i ∨ (Q s i ∧ I s)) (hs : ¬I s)
    (hend : I (is.foldl step s)) :
    ∃ before i since, is = before ++ i :: since ∧ P (before.foldl step s) i ∧
      Along step Q (step (before.foldl step s) i) since ∧
      ∀ part, part <+: since → I ((before ++ i :: part).foldl step s) := by
  induction is using List.reverseRecOn with
  | nil => exact (hs hend).elim
  | append_singleton is j ih =>
    rw [List.foldl_append] at hend
    rcases h _ j hend with hp | ⟨hq, hi⟩
    · refine ⟨is, j, [], rfl, hp, trivial, fun part hpart => ?_⟩
      rw [List.prefix_nil.mp hpart, List.foldl_append]
      exact hend
    · obtain ⟨before, i, since, rfl, hp, hsince, hlast⟩ := ih hi
      rw [List.foldl_append] at hq
      refine ⟨before, i, since ++ [j], by simp, hp, along_concat_iff.mpr ⟨hsince, hq⟩, fun part hpart => ?_⟩
      rcases List.prefix_concat_iff.mp hpart with rfl | hpart
      · rw [← List.cons_append, ← List.append_assoc, List.foldl_append]
        exact hend
      · exact hlast part hpart

theorem split_concat {log a b : List ι} {e x : ι} (h : log ++ [e] = a ++ x :: b) :
    (log = a ∧ e = x ∧ b = []) ∨ ∃ b', b = b' ++ [e] ∧ log = a ++ x :: b' := by
  induction b using List.reverseRecOn with
  | nil =>
    obtain ⟨hlog, he⟩ := List.append_inj' h rfl
    exact .inl ⟨hlog, List.singleton_inj.mp he, rfl⟩
  | append_singleton b y =>
    rw [← List.cons_append, ← List.append_assoc] at h
    obtain ⟨hlog, he⟩ := List.append_inj' h rfl
    exact .inr ⟨b, by rw [List.singleton_inj.mp he], hlog⟩

theorem split_append {log events a b : List ι} {x : ι} (h : log ++ events = a ++ x :: b) (hx : x ∉ events) :
    ∃ b', b = b' ++ events ∧ log = a ++ x :: b' := by
  rcases List.append_eq_append_iff.mp h with ⟨c, -, hevents⟩ | ⟨c, hlog, hrest⟩
  · exact (hx (hevents ▸ by simp)).elim
  · cases c with
    | nil => exact (hx (by simp [← show x :: b = events from hrest])).elim
    | cons y c =>
      obtain ⟨rfl, rfl⟩ := List.cons.inj hrest
      exact ⟨c, rfl, hlog⟩

end TunnelCore
