import Mathlib.Data.List.Basic

namespace TunnelCore.Jobs

/-- A launched job: where it stands, and whether it has been told to stop. -/
structure Job (φ : Type*) where
  phase : φ
  cancelled : Bool
deriving DecidableEq

variable {φ : Type*}

def launch (phase : φ) (jobs : List (Job φ)) : List (Job φ) := jobs ++ [⟨phase, false⟩]

def cancel (id : Nat) (jobs : List (Job φ)) : List (Job φ) :=
  jobs.modify id fun job => { job with cancelled := true }

def moveTo (id : Nat) (phase : φ) (jobs : List (Job φ)) : List (Job φ) := jobs.modify id fun job => { job with phase }

def phaseOf (jobs : List (Job φ)) (id : Nat) : Option φ := jobs[id]?.map Job.phase

variable {jobs : List (Job φ)} {id other : Nat} {phase : φ}

variable {job : Job φ}

theorem phaseOf_eq_some (h : jobs[id]? = some job) : phaseOf jobs id = some job.phase := by
  rw [phaseOf, h, Option.map_some]

theorem getElem?_launch_length : (launch phase jobs)[jobs.length]? = some ⟨phase, false⟩ := by
  rw [launch, List.getElem?_concat_length]

theorem phaseOf_launch :
    phaseOf (launch phase jobs) id = if id = jobs.length then some phase else phaseOf jobs id := by
  split
  next h => rw [h, phaseOf, getElem?_launch_length, Option.map_some]
  next h =>
    rw [phaseOf, phaseOf, launch]
    rcases Nat.lt_or_ge id jobs.length with hlt | hge
    · rw [List.getElem?_append_left hlt]
    · rw [List.getElem?_append_right hge, List.getElem?_singleton, if_neg (by omega), List.getElem?_eq_none hge]

@[simp] theorem phaseOf_cancel : phaseOf (cancel id jobs) other = phaseOf jobs other := by
  rw [phaseOf, cancel, List.getElem?_modify, phaseOf]
  cases jobs[other]? with
  | none => rfl
  | some job =>
    simp only [Option.map_eq_map, Option.map_some]
    split <;> rfl

theorem getElem?_moveTo_self (h : jobs[id]? = some job) :
    (moveTo id phase jobs)[id]? = some { job with phase } := by
  rw [moveTo, List.getElem?_modify, h]
  simp

theorem getElem?_moveTo_of_ne (h : id ≠ other) : (moveTo id phase jobs)[other]? = jobs[other]? := by
  rw [moveTo, List.getElem?_modify]
  simp [h]

theorem phaseOf_moveTo_self {old : φ} (h : phaseOf jobs id = some old) :
    phaseOf (moveTo id phase jobs) id = some phase := by
  obtain ⟨job, hjob, -⟩ := Option.map_eq_some_iff.mp h
  rw [phaseOf, getElem?_moveTo_self hjob, Option.map_some]

theorem phaseOf_moveTo_of_ne (h : id ≠ other) : phaseOf (moveTo id phase jobs) other = phaseOf jobs other := by
  rw [phaseOf, getElem?_moveTo_of_ne h, phaseOf]

end TunnelCore.Jobs
