import Mathlib.Tactic.TypeStar

namespace TunnelCore.Chains

inductive Verdict
  | accept
  | reject
deriving DecidableEq

inductive Target (ν : Type*)
  | verdict (v : Verdict)
  | jump (chain : ν)
deriving DecidableEq

structure Rule (ν μ : Type*) where
  spec : μ
  target : Target ν
deriving DecidableEq

abbrev Table (ν μ : Type*) := ν → Option (List (Rule ν μ))

theorem findSome?_congr {α β : Type*} {f g : α → Option β} {l : List α} (h : ∀ a ∈ l, f a = g a) :
    l.findSome? f = l.findSome? g := by
  induction l with
  | nil => rfl
  | cons a l ih => rw [List.findSome?_cons, List.findSome?_cons, h a (.head _), ih fun b hb => h b (.tail _ hb)]

theorem findSome?_guard {α β : Type*} (c : α → Bool) (f : α → β) (l : List α) :
    (l.findSome? fun a => if c a then some (f a) else none) = (l.find? c).map f := by
  induction l with
  | nil => rfl
  | cons a l ih =>
    rw [List.findSome?_cons, List.find?_cons, ih]
    cases c a <;> rfl

section Traversal

variable {ν μ π : Type*} (sat : μ → π → Bool)

/-- The first matching rule with a verdict decides, and a chain without one returns to its caller.
The number bounds how deep chains nest. -/
def traverse (t : Table ν μ) : Nat → ν → π → Option Verdict
  | 0, _, _ => none
  | depth + 1, chain, p => ((t chain).getD []).findSome? fun r =>
    if sat r.spec p then
      match r.target with
      | .verdict v => some v
      | .jump next => traverse t depth next p
    else none

def firstMatch (rules : List (μ × Verdict)) (p : π) : Option Verdict :=
  rules.findSome? fun r => if sat r.1 p then some r.2 else none

variable {sat} {t : Table ν μ} {chain : ν} {p : π}

theorem firstMatch_cons (m : μ) (v : Verdict) (rules : List (μ × Verdict)) :
    firstMatch sat ((m, v) :: rules) p = if sat m p then some v else firstMatch sat rules p := by
  rw [firstMatch, List.findSome?_cons]
  cases sat m p <;> rfl

theorem firstMatch_const {rules : List (μ × Verdict)} {v : Verdict} (h : ∀ r ∈ rules, r.2 = v) :
    firstMatch sat rules p = if rules.any (fun r => sat r.1 p) then some v else none := by
  induction rules with
  | nil => rfl
  | cons r rules ih =>
    obtain ⟨m, v'⟩ := r
    obtain rfl : v' = v := h _ (.head _)
    rw [firstMatch_cons, ih fun r hr => h r (.tail _ hr), List.any_cons]
    cases sat m p <;> rfl

theorem traverse_rules {rules : List (μ × Verdict)} (h : t chain = some (rules.map fun r => ⟨r.1, .verdict r.2⟩))
    (depth : Nat) : traverse sat t (depth + 1) chain p = firstMatch sat rules p := by
  rw [traverse, h, Option.getD_some, List.findSome?_map, firstMatch]
  rfl

theorem traverse_calls {always : μ} (ha : sat always p = true) {chains : List ν}
    (h : t chain = some (chains.map fun c => ⟨always, .jump c⟩)) (depth : Nat) :
    traverse sat t (depth + 1) chain p = chains.findSome? fun c => traverse sat t depth c p := by
  rw [traverse, h, Option.getD_some, List.findSome?_map]
  congr 1
  funext c
  exact if_pos ha

end Traversal

section Commands

variable {ν μ : Type*} [DecidableEq ν]

def setChain (chain : ν) (rules : Option (List (Rule ν μ))) (t : Table ν μ) : Table ν μ :=
  fun c => if c = chain then rules else t c

def modify (chain : ν) (f : List (Rule ν μ) → List (Rule ν μ)) (t : Table ν μ) : Table ν μ :=
  setChain chain ((t chain).map f) t

def append (chain : ν) (r : Rule ν μ) : Table ν μ → Table ν μ := modify chain (· ++ [r])

def flush (chain : ν) : Table ν μ → Table ν μ := modify chain fun _ => []

variable {t : Table ν μ} {chain : ν}

@[simp]
theorem modify_same (f : List (Rule ν μ) → List (Rule ν μ)) : modify chain f t chain = (t chain).map f := if_pos rfl

theorem modify_of_ne {c : ν} (h : c ≠ chain) (f : List (Rule ν μ) → List (Rule ν μ)) :
    modify chain f t c = t c := if_neg h

theorem foldl_append (rules : List (Rule ν μ)) :
    rules.foldl (fun t r => append chain r t) t = modify chain (· ++ rules) t := by
  induction rules generalizing t with
  | nil =>
    funext c
    by_cases h : c = chain
    · subst h
      simp
    · rw [modify_of_ne h]
      rfl
  | cons r rules ih =>
    rw [List.foldl_cons, ih]
    funext c
    by_cases h : c = chain
    · subst h
      simp [append, Function.comp_def]
    · rw [modify_of_ne h, modify_of_ne h, append, modify_of_ne h]

end Commands

end TunnelCore.Chains
