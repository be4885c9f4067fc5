import Mathlib.Tactic.TypeStar

namespace TunnelCore

/-- A call that reports success or failure and may change the state either way. -/
abbrev Action (σ : Type*) := σ → Bool × σ

namespace Action

variable {σ α : Type*}

def skip : Action σ := fun s => (true, s)

def update (f : σ → σ) : Action σ := fun s => (true, f s)

/-- `if (!a()) return false;` followed by `b`. -/
def andThen (a b : Action σ) : Action σ := fun s => if (a s).1 then b (a s).2 else (false, (a s).2)

/-- `if (!a()) { if (!b()) return false; }` -/
def orElse (a b : Action σ) : Action σ := fun s => if (a s).1 then a s else b (a s).2

def ignore (a : Action σ) : Action σ := fun s => (true, (a s).2)

/-- A scope guard around the body: the rollback runs when the body returns false. -/
def onFailure (rollback body : Action σ) : Action σ := fun s =>
  if (body s).1 then body s else (false, (rollback (body s).2).2)

def branch (c : σ → Bool) (a b : Action σ) : Action σ := fun s => if c s then a s else b s

def inspect (f : σ → Action σ) : Action σ := fun s => f s s

def forAll (f : α → Action σ) : List α → Action σ
  | [] => skip
  | x :: xs => (f x).andThen (forAll f xs)

def forEach (f : α → Action σ) : List α → Action σ
  | [] => skip
  | x :: xs => (f x).ignore.andThen (forEach f xs)

/-- `for (x : xs) if (f(x)) cnt++;` -/
def countSuccesses (f : α → Action σ) : List α → σ → Nat × σ
  | [], s => (0, s)
  | x :: xs, s =>
    let rest := countSuccesses f xs (f x s).2
    (if (f x s).1 then rest.1 + 1 else rest.1, rest.2)

theorem countSuccesses_le (f : α → Action σ) (xs : List α) (s : σ) : (countSuccesses f xs s).1 ≤ xs.length := by
  induction xs generalizing s with
  | nil => exact Nat.le_refl 0
  | cons x xs ih =>
    have hrest := ih (f x s).2
    rw [countSuccesses, List.length_cons]
    split
    · exact Nat.succ_le_succ hrest
    · exact Nat.le_succ_of_le hrest

theorem countSuccesses_cons_eq_iff (f : α → Action σ) (x : α) (xs : List α) (s : σ) :
    (countSuccesses f (x :: xs) s).1 = xs.length + 1 ↔
      (f x s).1 = true ∧ (countSuccesses f xs (f x s).2).1 = xs.length := by
  have hle := countSuccesses_le f xs (f x s).2
  rw [countSuccesses]
  split
  next hok => simp [hok]
  next hfailed =>
    refine iff_of_false ?_ fun h => hfailed h.1
    simp only
    omega

theorem countSuccesses_eq_foldl (f : α → Action σ) (xs : List α) (s : σ) :
    (countSuccesses f xs s).2 = xs.foldl (fun s x => (f x s).2) s := by
  induction xs generalizing s with
  | nil => rfl
  | cons x xs ih => exact ih (f x s).2

theorem forEach_update (f : α → σ → σ) (xs : List α) :
    forEach (fun x => update (f x)) xs = update fun s => xs.foldl (fun s x => f x s) s := by
  induction xs with
  | nil => rfl
  | cons x xs ih =>
    rw [forEach, ih]
    rfl

theorem forEach_map {β : Type*} (f : α → Action σ) (g : β → α) (xs : List β) :
    forEach f (xs.map g) = forEach (fun x => f (g x)) xs := by
  induction xs with
  | nil => rfl
  | cons x xs ih => rw [List.map_cons, forEach, forEach, ih]

variable {xs : List α}

theorem forEach_congr {f g : α → Action σ} (h : ∀ x ∈ xs, f x = g x) : forEach f xs = forEach g xs := by
  induction xs with
  | nil => rfl
  | cons x xs ih => rw [forEach, forEach, h x (.head _), ih fun y hy => h y (.tail _ hy)]

/-- From a state with `P` the action ends with `X` when it succeeds and with `Y` when it fails. -/
def Triple (P : σ → Prop) (a : Action σ) (X Y : σ → Prop) : Prop :=
  ∀ s, P s → if (a s).1 then X (a s).2 else Y (a s).2

variable {P M X Y : σ → Prop} {a b : Action σ}

theorem Triple.weaken {P' X' Y' : σ → Prop} (h : Triple P a X Y) (hp : ∀ s, P' s → P s)
    (hx : ∀ s, X s → X' s) (hy : ∀ s, Y s → Y' s) : Triple P' a X' Y' := by
  intro s hs
  have := h s (hp s hs)
  split
  next hr => exact hx _ (by rwa [if_pos hr] at this)
  next hr => exact hy _ (by rwa [if_neg hr] at this)

theorem Triple.final (h : Triple P a X X) {s : σ} (hs : P s) : X (a s).2 := by
  have := h s hs
  split at this <;> exact this

theorem Triple.success (h : Triple P a X Y) {s : σ} (hs : P s) (hr : (a s).1 = true) : X (a s).2 := by
  have := h s hs
  rwa [if_pos hr] at this

theorem Triple.onSuccess (h : Triple P a X Y) : Triple P a X fun _ => True :=
  h.weaken (fun _ => id) (fun _ => id) fun _ _ => trivial

theorem triple_top : Triple P a (fun _ => True) fun _ => True := fun _ _ => by simp

theorem triple_of_fact {p : Prop} (h : p → Triple P a X Y) : Triple (fun s => P s ∧ p) a X Y :=
  fun s hs => h hs.2 s hs.1

theorem triple_skip : Triple P skip P Y := fun _ hs => hs

theorem triple_update {f : σ → σ} (h : ∀ s, P s → X (f s)) : Triple P (update f) X Y := h

theorem triple_andThen (ha : Triple P a M Y) (hb : Triple M b X Y) : Triple P (a.andThen b) X Y := by
  intro s hs
  have h := ha s hs
  rw [andThen]
  split
  next hr => exact hb _ (by rwa [if_pos hr] at h)
  next hr => exact (by rwa [if_neg hr] at h)

theorem triple_andThen_failed (ha : Triple P a (fun _ => False) Y) : Triple P (a.andThen b) X Y :=
  triple_andThen ha fun _ => False.elim

theorem triple_orElse (ha : Triple P a X M) (hb : Triple M b X Y) : Triple P (a.orElse b) X Y := by
  intro s hs
  have h := ha s hs
  rw [orElse]
  split
  next hr => rwa [if_pos hr] at h
  next hr => exact hb _ (by rwa [if_neg hr] at h)

theorem triple_ignore (h : Triple P a X X) : Triple P a.ignore X Y := fun _ hs => h.final hs

theorem triple_onFailure {rollback : Action σ} (hb : Triple P a X M) (hr : Triple M rollback Y Y) :
    Triple P (rollback.onFailure a) X Y := by
  intro s hs
  have h := hb s hs
  rw [onFailure]
  split
  next hres => rwa [if_pos hres] at h
  next hres => exact hr.final (by rwa [if_neg hres] at h)

theorem triple_onFailure_never {rollback : Action σ} (hb : Triple P a X fun _ => False) :
    Triple P (rollback.onFailure a) X Y := triple_onFailure hb fun _ => False.elim

theorem triple_branch {c : σ → Bool} (ha : Triple (fun s => P s ∧ c s = true) a X Y)
    (hb : Triple (fun s => P s ∧ c s = false) b X Y) : Triple P (branch c a b) X Y := by
  intro s hs
  rw [branch]
  cases hc : c s with
  | true => exact ha s ⟨hs, hc⟩
  | false => exact hb s ⟨hs, hc⟩

theorem triple_branch_either {c : σ → Bool} (ha : Triple P a X Y) (hb : Triple P b X Y) :
    Triple P (branch c a b) X Y :=
  triple_branch (fun s hs => ha s hs.1) fun s hs => hb s hs.1

theorem triple_inspect {f : σ → Action σ} (h : ∀ s, P s → Triple P (f s) X Y) : Triple P (inspect f) X Y :=
  fun s hs => h s hs s hs

theorem triple_forEach {f : α → Action σ} (h : ∀ x ∈ xs, Triple P (f x) P P) :
    Triple P (forEach f xs) P Y := by
  induction xs with
  | nil => exact triple_skip
  | cons x xs ih => exact triple_andThen (triple_ignore (h x (.head _))) (ih fun y hy => h y (.tail _ hy))

theorem triple_forAll {f : α → Action σ} (h : ∀ x ∈ xs, Triple P (f x) P Y) :
    Triple P (forAll f xs) P Y := by
  induction xs with
  | nil => exact triple_skip
  | cons x xs ih => exact triple_andThen (h x (.head _)) (ih fun y hy => h y (.tail _ hy))

end Action

end TunnelCore
