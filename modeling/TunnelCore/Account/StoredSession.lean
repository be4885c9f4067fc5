import TunnelCore.Account.Transitions

namespace TunnelCore.Account

variable {ρ : Type}

/-- What is stored is the live session, an empty one where nothing is stored; a token that is not
empty can stand in a header and belongs to a named account. -/
structure Mirrors (w : World ρ) : Prop where
  stored : w.store.session.getD ⟨"", "", false, false⟩ = w.live
  valid : w.controller.token = "" ∨
    '\r' ∉ w.controller.token.toList ∧ '\n' ∉ w.controller.token.toList ∧ w.controller.username ≠ ""

section

variable {S : Scope} {qt : Qt} {app : App ρ} {w w' : World ρ}

theorem Mirrors.of_account (h : Mirrors w) (hl : w'.live = w.live) (hs : w'.store.session = w.store.session) :
    Mirrors w' := by
  have htoken : w'.controller.token = w.controller.token := congrArg Session.token hl
  have hname : w'.controller.username = w.controller.username := congrArg Session.username hl
  exact ⟨by rw [hs, hl, h.stored], by rw [htoken, hname]; exact h.valid⟩

theorem valid_of_validSession {token username : String} (h : validSession token username = true) :
    '\r' ∉ token.toList ∧ '\n' ∉ token.toList ∧ username ≠ "" := by
  simp only [validSession, Bool.and_eq_true, Bool.not_eq_true', List.contains_eq_mem, decide_eq_true_eq,
    decide_eq_false_iff_not] at h
  exact ⟨h.1.1.2, h.1.2, h.2⟩

theorem Mirrors.of_save {session : Session} (hf : w'.frame = w.frame.save session) (hv : session.token = "" ∨
      '\r' ∉ session.token.toList ∧ '\n' ∉ session.token.toList ∧ session.username ≠ "") : Mirrors w' := by
  have hs : w'.store.session = some session := congrArg Frame.stored hf
  have hl : w'.live = session := congrArg Frame.live hf
  subst hl
  exact ⟨by rw [hs]; rfl, hv⟩

theorem Adjusts.mirrors (hw : Adjusts S qt app w w') (h : Mirrors w) : Mirrors w' := by
  cases hw with
  | note _ => exact h.of_account rfl rfl
  | quiet hf | idle hf | select _ hf | look hf | store _ hf | apply _ _ hf =>
    exact h.of_account (congrArg Frame.live hf) (congrArg Frame.stored hf)
  | clear => exact ⟨rfl, .inl rfl⟩
  -- where the session is saved, the live one has just changed to it
  | link hf => exact .of_save hf h.valid
  | signIn _ hv hf => exact .of_save hf (.inr (valid_of_validSession hv))

theorem Acts.mirrors (hw : Acts S qt app w w') (h : Mirrors w) : Mirrors w' := by
  have hsilent {w₁ : World ρ} (hs : Silent S qt app w w₁) : Mirrors w₁ :=
    hs.invariant (fun _ _ => Adjusts.mirrors) h
  induction hw with
  | silent hs => exact hsilent hs
  | sends hs _ => exact (hsilent hs).of_account rfl rfl
  | purchases hs _ _ => exact (hsilent hs).of_account rfl rfl
  | background _ _ hf ih => exact ih.of_account (congrArg Frame.live hf) (congrArg Frame.stored hf)

theorem Transition.mirrors {input : Input} (hw : Transition qt app w input w') (h : Mirrors w) :
    Mirrors w' := by
  cases hw with
  | ignored => exact h
  | called _ hacts _ _ => exact hacts.mirrors h
  | leaves => exact ⟨rfl, .inl rfl⟩
  | unregistered | revokes | confirms => exact h.of_account rfl rfl
  | stale _ _ hf | bought _ hf => exact h.of_account (congrArg Frame.live hf) (congrArg Frame.stored hf)
  | answered _ _ _ hacts _ => exact hacts.mirrors (h.of_account rfl rfl)
  | refreshed _ _ _ h₁ hl =>
    exact h.of_account ((congrArg Frame.live hl.frame).trans (congrArg Frame.live h₁))
      ((congrArg Frame.stored hl.frame).trans (congrArg Frame.stored h₁))

theorem Initial.mirrors {store : Store ρ} (h : Initial store w) : Mirrors w := by
  refine ⟨h.session.symm, h.valid.imp (fun hnone => ?_) valid_of_validSession⟩
  have hlive := h.session
  rw [hnone] at hlive
  exact congrArg Session.token hlive

end

/-- After any events the stored session is the live one. -/
theorem stored_session_mirrors_live (qt : Qt) (app : App ρ) (env : Env) (store : Store ρ) (steps : List Step) :
    Mirrors (run qt app steps (start qt app env store)) := by
  refine run_invariant (fun w₀ w hinit hacts => ?_) (fun w input w' hstep h => ?_) env steps
  · exact hacts.mirrors hinit.mirrors
  · exact hstep.mirrors h

end TunnelCore.Account
