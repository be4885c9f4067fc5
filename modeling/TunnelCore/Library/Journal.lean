import Mathlib.Data.List.Induction

namespace TunnelCore

variable {σ τ ι : Type*}

/-- What was done on the way from one state to another, the last item at the end. -/
inductive Journal (done : σ → ι → σ → Prop) : σ → List ι → σ → Prop
  | nil (s : σ) : Journal done s [] s
  | concat {s t u : σ} {is : List ι} {i : ι} : Journal done s is t → done t i u → Journal done s (is ++ [i]) u

variable {done : σ → ι → σ → Prop}

/-- Items that are undone one by one, the last first, lead back to the start. The undoing is of a system that is seen
through `view`. -/
theorem Journal.rollback {view : τ → σ} {undo : τ → ι → τ}
    (h : ∀ {x : τ} {s : σ} {i : ι}, done s i (view x) → view (undo x i) = s) {s : σ} {is : List ι} {x : τ}
    (hj : Journal done s is (view x)) : view (is.reverse.foldl undo x) = s := by
  generalize ht : view x = t at hj
  induction hj generalizing x with
  | nil => exact ht
  | concat hj hdone ih =>
    subst ht
    rw [List.reverse_concat, List.foldl_cons]
    exact ih (h hdone)

end TunnelCore
