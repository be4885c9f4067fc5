import TunnelCore.Account.Logout
import TunnelCore.Account.Traffic

namespace TunnelCore.Account

variable {ρ : Type}

/-- A foreground API request or a download of the current generation has not been answered. -/
def Outstanding (k : Core) : Prop := ∃ p ∈ k.pending, p.handler.isForeground = true ∧ p.generation = k.generation

structure Serves (f : Frame) : Prop where
  busy : f.busy = true → Outstanding f.core
  purchases : f.core.purchases = []
  billing : ∀ p ∈ f.core.pending, p.handler.isBilling = false

namespace Serves

variable {f g : Frame}

theorem shrink (h : Serves f) (hsub : ∀ p ∈ g.core.pending, p ∈ f.core.pending)
    (hpurchases : g.core.purchases = f.core.purchases) (hbusy : g.busy = true → Outstanding g.core) : Serves g where
  busy := hbusy
  purchases := hpurchases.trans h.purchases
  billing p hp := h.billing p (hsub p hp)

theorem send (h : Serves f) {p : Pending} (hb : p.handler.isBilling = false)
    (hpending : g.core.pending = f.core.pending ++ [p]) (hpurchases : g.core.purchases = f.core.purchases)
    (hbusy : g.busy = true → Outstanding g.core) : Serves g where
  busy := hbusy
  purchases := hpurchases.trans h.purchases
  billing q hq := by
    rcases List.mem_append.mp (hpending ▸ hq) with hq | hq
    · exact h.billing q hq
    · obtain rfl := List.mem_singleton.mp hq
      exact hb

end Serves

section

variable {S : Scope} {qt : Qt} {app : App ρ} {w w' : World ρ}

theorem Outstanding.finish (h : Outstanding w.core) (hd : Distinct w) {id : Nat} {p : Pending}
    (hp : w.pending.find? (·.id = id) = some p)
    (hn : p.handler.isForeground = false ∨ p.generation ≠ w.controller.generation) : Outstanding (w.finish id).core := by
  obtain ⟨q, hq, hqf, hqg⟩ := h
  refine ⟨q, List.mem_filter.mpr ⟨hq, decide_eq_true fun hid => ?_⟩, hqf, hqg⟩
  obtain rfl := hd.eq_of_find hp hq hid
  exact hn.elim (fun hn => Bool.false_ne_true (hn.symm.trans hqf)) fun hn => hn hqg

theorem Serves.clearSession (h : Serves w.frame) : Serves (clearSession w).frame := by
  obtain ⟨hpending, -, hpurchases⟩ := clearSession_keeps w
  exact h.shrink hpending hpurchases nofun

theorem Serves.sendForeground (h : Serves w.frame) (hios : app.platform ≠ .ios) {handler : Handler} {request : Request}
    (hc : Carries app w handler request) : Serves (w.sendForeground handler request).frame := by
  have hb : handler.isBilling = false := Bool.eq_false_iff.mpr fun hb => hios (hc.billing hb)
  exact h.send hb rfl rfl fun _ => ⟨_, List.mem_append_right _ (List.mem_singleton_self _), hc.foreground, rfl⟩

theorem Adjusts.serves (hw : Adjusts S qt app w w') (h : Serves w.frame) : Serves w'.frame := by
  cases hw with
  | quiet hf | link hf | signIn _ _ hf | select _ hf | look hf | store _ hf | apply _ _ hf =>
    rw [hf]
    exact h.shrink (fun _ hp => hp) rfl h.busy
  | idle hf =>
    rw [hf]
    exact h.shrink (fun _ hp => hp) rfl nofun
  | note _ => exact h.shrink (fun _ hp => hp) rfl h.busy
  | clear => exact h.clearSession

theorem Acts.serves (hw : Acts S qt app w w') (hios : app.platform ≠ .ios) (hS : ¬ S.purchases) (h : Serves w.frame) :
    Serves w'.frame := by
  have hsilent {w₁ : World ρ} (hs : Silent S qt app w w₁) : Serves w₁.frame :=
    hs.invariant (I := fun w => Serves w.frame) (fun _ _ => Adjusts.serves) h
  induction hw with
  | silent hs => exact hsilent hs
  | sends hs hsends => exact (hsilent hs).sendForeground hios hsends.toCarries
  | purchases _ hp _ => exact (hS hp).elim
  | background _ _ hf ih =>
    rw [hf]
    refine ih.send rfl rfl rfl fun hb => ?_
    obtain ⟨p, hp, hpf, hpg⟩ := ih.busy hb
    exact ⟨p, List.mem_append_left _ hp, hpf, hpg⟩

theorem Transition.serves {input : Input} (hw : Transition qt app w input w') (hios : app.platform ≠ .ios)
    (hd : Distinct w) (h : Serves w.frame) : Serves w'.frame := by
  have hnone {id : Nat} (hid : id ∈ w.purchases) : False := by
    rw [show w.purchases = [] from h.purchases] at hid
    nomatch hid
  cases hw with
  | ignored => exact h
  | called _ hacts _ _ => exact hacts.serves hios id h
  | leaves => exact h.clearSession
  | unregistered => exact h.shrink (fun _ hp => hp) rfl nofun
  | revokes _ _ hc _ _ => exact h.sendForeground hios hc
  | stale hp hg hf =>
    rw [hf]
    exact h.shrink (fun _ hp => (List.mem_filter.mp hp).1) rfl fun hb => (h.busy hb).finish hd hp (.inr hg)
  | @answered id _ p _ hp _ _ hacts _ =>
    have hdone : Serves (w.answered id).frame := h.shrink (fun _ hp => (List.mem_filter.mp hp).1) rfl nofun
    have hb := h.billing p (List.mem_of_find?_eq_some hp)
    exact hacts.serves hios (fun hb' => Bool.false_ne_true (hb.symm.trans hb')) hdone
  | refreshed hp hf _ h₁ hl =>
    rw [hl.frame, h₁]
    exact h.shrink (fun _ hp => (List.mem_filter.mp hp).1) rfl fun hb => (h.busy hb).finish hd hp (.inl hf)
  | bought hid _ => exact (hnone hid).elim
  | confirms hid _ => exact (hnone hid).elim

theorem Initial.serves {store : Store ρ} (h : Initial store w) : Serves w.frame := by
  have hk : w.frame.core = _ := h.core
  refine ⟨fun hb => (Bool.false_ne_true (h.busy.symm.trans hb)).elim, by rw [hk], ?_⟩
  rw [hk]
  nofun

theorem serves_run (env : Env) (hios : app.platform ≠ .ios) (store : Store ρ) (steps : List Step) :
    Serves (run qt app steps (start qt app env store)).frame := by
  refine (run_invariant (P := fun w => Distinct w ∧ Serves w.frame) (fun w₀ w hinit hacts => ?_)
    (fun w input w' hstep h => ?_) env steps).2
  · exact ⟨hacts.traffic.distinct hinit.distinct, hacts.serves hios id hinit.serves⟩
  · exact ⟨hstep.traffic.distinct h.1, hstep.serves hios h.1 h.2⟩

end

/-- A busy controller waits for a reply in every run, and one that waits for a reply is busy as long
as a session is only left while the controller is not busy. -/
theorem busy_iff_outstanding (qt : Qt) (app : App ρ) (env : Env) (hios : app.platform ≠ .ios) (store : Store ρ)
    (steps : List Step) :
    ((run qt app steps (start qt app env store)).controller.busy = true →
        Outstanding (run qt app steps (start qt app env store)).core) ∧
      (Along (Step.run qt app) IdleLogout (start qt app env store) steps →
        Outstanding (run qt app steps (start qt app env store)).core →
          (run qt app steps (start qt app env store)).controller.busy = true) := by
  refine ⟨(serves_run env hios store steps).busy, fun hidle ⟨p, hp, hf, _⟩ => ?_⟩
  have horder : Orderly (run qt app steps (start qt app env store)) :=
    Along.foldl (fun _ _ => orderly_step) (orderly_start qt app env store) hidle
  exact (horder.waiting_of_pending hp hf).busy

theorem refresh_busy :
    (run plainQt plainApp [plainStep (.reply 0 (okReply [("device", .object [("device_id", .string "device")])]))]
        (start plainQt plainApp plainEnv signedInStore)).controller.busy = true ∧
      Outstanding
        (run plainQt plainApp [plainStep (.reply 0 (okReply [("device", .object [("device_id", .string "device")])]))]
          (start plainQt plainApp plainEnv signedInStore)).core := by
  have h := busy_iff_outstanding plainQt plainApp plainEnv (by decide) signedInStore
    [plainStep (.reply 0 (okReply [("device", .object [("device_id", .string "device")])]))]
  have hwaits := h.1 rfl
  exact ⟨h.2 ⟨nofun, trivial⟩ hwaits, hwaits⟩

/-- The registration at the start is refused after `logout` was called; its failure clears the flag
while the revoke is on its way. -/
def refusedDuringLogout : List Step :=
  [plainStep (.call .logout),
    plainStep (.reply 0 ⟨409, true, some (.object [("error", .string "device_limit_reached")]), ""⟩)]

theorem idle_during_logout :
    (run plainQt plainApp refusedDuringLogout (start plainQt plainApp plainEnv signedInStore)).controller.busy = false ∧
      Outstanding (run plainQt plainApp refusedDuringLogout (start plainQt plainApp plainEnv signedInStore)).core :=
  ⟨rfl, ⟨1, 0, .api true .logout⟩, .head [], rfl, rfl⟩

end TunnelCore.Account
