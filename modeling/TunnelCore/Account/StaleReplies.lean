import TunnelCore.Account.Transitions
import TunnelCore.Library.Runs
import Mathlib.Algebra.Ring.Nat

namespace TunnelCore.Account

variable {ρ : Type}

def Event.isCleared : Event → Bool
  | .cleared => true
  | _ => false

def clearsIn (log : List Event) : Nat := log.countP Event.isCleared

/-- A waiting handler holds the generation of the moment its request was sent, so its distance to
the current one is the number of clears since; `m_reply` is of the current generation. -/
structure Sound (k : Core) : Prop where
  fresh : ∀ p ∈ k.pending, p.id < k.nextId
  logged : ∀ id request, .sent id request ∈ k.log → id < k.nextId
  age : ∀ a id request b, k.log = a ++ .sent id request :: b → ∀ p ∈ k.pending, p.id = id →
    p.generation + BitVec.ofNat 32 (clearsIn b) = k.generation
  waiting : ∀ id, k.reply = some id → ∃ p ∈ k.pending, p.id = id
  current : ∀ p ∈ k.pending, k.reply = some p.id → p.handler.isForeground = true ∧ p.generation = k.generation

namespace Sound

variable {k : Core}

theorem record (h : Sound k) {e : Event} (hs : ∀ id request, e ≠ .sent id request) (hc : e.isCleared = false) :
    Sound { k with log := k.log ++ [e] } where
  fresh := h.fresh
  logged id request hm := by
    rcases List.mem_append.mp hm with hm | hm
    · exact h.logged id request hm
    · exact (hs id request (List.mem_singleton.mp hm).symm).elim
  age a id request b hb p hp hid := by
    rcases split_concat hb with ⟨-, he, -⟩ | ⟨b, rfl, hlog⟩
    · exact (hs id request he).elim
    · rw [clearsIn, List.countP_append, List.countP_singleton, hc]
      exact h.age a id request b hlog p hp hid
  waiting := h.waiting
  current := h.current

theorem send (h : Sound k) (handler : Handler) (request : Request) {reply : Option Nat}
    (hr : reply = k.reply ∨ reply = some k.nextId ∧ handler.isForeground = true) :
    Sound { k with
      reply := reply
      pending := k.pending ++ [⟨k.nextId, k.generation, handler⟩]
      nextId := k.nextId + 1
      log := k.log ++ [.sent k.nextId request] } where
  fresh p hp := by
    rcases List.mem_append.mp hp with hp | hp
    · exact Nat.lt_succ_of_lt (h.fresh p hp)
    · obtain rfl := List.mem_singleton.mp hp
      exact Nat.lt_succ_self _
  logged id r hm := by
    rcases List.mem_append.mp hm with hm | hm
    · exact Nat.lt_succ_of_lt (h.logged id r hm)
    · obtain ⟨rfl, -⟩ := Event.sent.inj (List.mem_singleton.mp hm)
      exact Nat.lt_succ_self _
  age a id r b hb p hp hid := by
    rcases split_concat hb with ⟨-, he, rfl⟩ | ⟨b, rfl, hlog⟩
    · obtain ⟨rfl, -⟩ := Event.sent.inj he
      rcases List.mem_append.mp hp with hp | hp
      · exact (Nat.ne_of_lt (h.fresh p hp) hid).elim
      · obtain rfl := List.mem_singleton.mp hp
        simp [clearsIn]
    · have hold : id < k.nextId := h.logged id r (hlog ▸ by simp)
      rcases List.mem_append.mp hp with hp | hp
      · rw [clearsIn, List.countP_append]
        exact h.age a id r b hlog p hp hid
      · obtain rfl := List.mem_singleton.mp hp
        exact (Nat.ne_of_lt hold hid.symm).elim
  waiting id hid := by
    rcases hr with rfl | ⟨rfl, -⟩
    · obtain ⟨p, hp, hpid⟩ := h.waiting id hid
      exact ⟨p, List.mem_append_left _ hp, hpid⟩
    · exact ⟨_, List.mem_append_right _ (List.mem_singleton_self _), Option.some.inj hid⟩
  current p hp hid := by
    rcases List.mem_append.mp hp with hold | hp
    · rcases hr with rfl | ⟨rfl, -⟩
      · exact h.current p hold hid
      · exact (Nat.ne_of_lt (h.fresh p hold) (Option.some.inj hid).symm).elim
    · obtain rfl := List.mem_singleton.mp hp
      rcases hr with rfl | ⟨-, hf⟩
      · obtain ⟨q, hq, hqid⟩ := h.waiting _ hid
        exact (Nat.ne_of_lt (h.fresh q hq) hqid).elim
      · exact ⟨hf, rfl⟩

theorem finish (h : Sound k) (id : Nat) {reply : Option Nat} (hr : reply = none ∨ reply = k.reply ∧ k.reply ≠ some id) :
    Sound { k with
      reply := reply
      pending := k.pending.filter (·.id ≠ id)
      log := k.log ++ [.delivered id] } := by
  have hrec := h.record (e := .delivered id) nofun rfl
  refine ⟨fun p hp => hrec.fresh p (List.mem_filter.mp hp).1, hrec.logged,
    fun a id r b hb p hp => hrec.age a id r b hb p (List.mem_filter.mp hp).1, fun id' hid => ?_, fun p hp hid => ?_⟩
  · rcases hr with rfl | ⟨rfl, hne⟩
    · nomatch hid
    · obtain ⟨p, hp, rfl⟩ := h.waiting id' hid
      have : p.id ≠ id := fun he => hne (he ▸ hid)
      exact ⟨p, List.mem_filter.mpr ⟨hp, by simpa using this⟩, rfl⟩
  · rcases hr with rfl | ⟨rfl, -⟩
    · nomatch hid
    · exact h.current p (List.mem_filter.mp hp).1 hid

theorem next (h : Sound k) :
    Sound { k with generation := k.generation + 1, reply := none, log := k.log ++ [.cleared] } where
  fresh := h.fresh
  logged id request hm := h.logged id request ((List.mem_append.mp hm).resolve_right (by simp))
  age a id request b hb p hp hid := by
    rcases split_concat hb with ⟨-, he, -⟩ | ⟨b, rfl, hlog⟩
    · nomatch he
    · rw [clearsIn, List.countP_append, List.countP_singleton, ← h.age a id request b hlog p hp hid]
      exact (congrArg (p.generation + ·) (BitVec.ofNat_add _ 1)).trans (BitVec.add_assoc _ _ _).symm
  waiting := nofun
  current := nofun

theorem purchase (h : Sound k) (purchases : List Nat) {nextId : Nat} (hn : k.nextId ≤ nextId) :
    Sound { k with purchases := purchases, nextId := nextId } where
  fresh p hp := Nat.lt_of_lt_of_le (h.fresh p hp) hn
  logged id request hm := Nat.lt_of_lt_of_le (h.logged id request hm) hn
  age := h.age
  waiting := h.waiting
  current := h.current

theorem reroute (h : Sound k) (routing : RoutingState) : Sound { k with routing := routing } :=
  ⟨h.fresh, h.logged, h.age, h.waiting, h.current⟩

theorem stale (h : Sound k) {a b : List Event} {id : Nat} {request : Request}
    (hlog : k.log = a ++ .sent id request :: b) (hpos : 0 < clearsIn b) (hlt : clearsIn b < 2 ^ 32) {p : Pending}
    (hp : p ∈ k.pending) (hid : p.id = id) : p.generation ≠ k.generation := by
  intro heq
  have hage := h.age a id request b hlog p hp hid
  rw [heq] at hage
  have hzero : BitVec.ofNat 32 (clearsIn b) = 0 := by simpa using hage
  have := congrArg BitVec.toNat hzero
  rw [BitVec.toNat_ofNat, Nat.mod_eq_of_lt hlt] at this
  exact Nat.ne_of_gt hpos this

end Sound

section Steps

variable {S : Scope} {qt : Qt} {app : App ρ} {env : Env} {w w' : World ρ}

theorem sound_clearSession (h : Sound w.core) : Sound (clearSession w).core := by
  cases hr : w.controller.reply with
  | none => exact clearSession_core_none hr ▸ h.next.reroute _
  | some id => exact clearSession_core_some hr ▸ (h.next.finish id (.inl rfl)).reroute _

theorem Silent.sound (hw : Silent S qt app w w') (h : Sound w.core) : Sound w'.core := by
  refine hw.invariant (I := fun w => Sound w.core) (fun w₁ w₂ hstep h => ?_) h
  cases hstep.calm with
  | quiet hc => exact hc ▸ h.reroute _
  | @note e he => exact h.record (fun _ _ heq => by subst heq; nomatch he) (by cases e <;> first | rfl | nomatch he)
  | clear => exact sound_clearSession h

theorem sound_sendForeground (h : Sound w.core) {handler : Handler} (hf : handler.isForeground = true)
    (request : Request) : Sound (w.sendForeground handler request).core := h.send handler request (.inr ⟨rfl, hf⟩)

theorem Acts.sound (hw : Acts S qt app w w') (h : Sound w.core) : Sound w'.core := by
  induction hw with
  | silent hc => exact hc.sound h
  | sends hc hs => exact sound_sendForeground (hc.sound h) hs.foreground _
  | purchases hc _ _ => exact ((hc.sound h).purchase _ (Nat.le_succ _)).record nofun rfl
  | @background _ w₂ _ _ _ _ _ hf ih =>
    rw [show w₂.core = _ from congrArg Frame.core hf]
    exact ih.send _ _ (.inl rfl)

theorem deliver_stale (qt : Qt) (app : App ρ) (env : Env) {id : Nat} {p : Pending}
    (hp : w.pending.find? (·.id = id) = some p)
    (hg : p.generation ≠ w.controller.generation) (r : Reply) :
    ∃ keys ⊆ w.controller.routingRefreshInFlight,
      deliver qt app env id r w = (w.finish id).modify fun c => { c with routingRefreshInFlight := keys } := by
  have hg' : ¬ p.generation = (w.finish id).controller.generation := hg
  rw [deliver, hp]
  dsimp only
  split
  · exact ⟨_, List.Subset.refl _, if_neg hg'⟩
  · exact ⟨_, List.filter_sublist.subset, if_neg hg⟩
  · exact ⟨_, List.Subset.refl _, if_neg hg'⟩

theorem Sound.reply_ne (h : Sound w.core) {id : Nat} {p : Pending} (hp : w.pending.find? (·.id = id) = some p)
    (hn : p.handler.isForeground = false ∨ p.generation ≠ w.controller.generation) :
    w.controller.reply ≠ some id := by
  intro hr
  obtain rfl : p.id = id := by simpa using List.find?_some hp
  obtain ⟨hf, hg⟩ := h.current p (List.mem_of_find?_eq_some hp) hr
  exact hn.elim (fun hn => nomatch hf.symm.trans hn) fun hn => hn hg

theorem Transition.sound {input : Input} (hw : Transition qt app w input w') (h : Sound w.core) : Sound w'.core := by
  cases hw with
  | ignored | unregistered => exact h
  | called _ hacts _ _ => exact hacts.sound h
  | leaves => exact sound_clearSession h
  | revokes _ _ hc _ _ => exact sound_sendForeground h hc.foreground _
  | @stale id _ _ _ hp hg hf =>
    rw [show w'.core = _ from congrArg Frame.core hf]
    exact h.finish id (.inr ⟨rfl, h.reply_ne hp (.inr hg)⟩)
  | @answered id _ _ _ _ _ _ hacts _ =>
    have hdone : Sound (w.answered id).core := h.finish id (.inl rfl)
    exact hacts.sound hdone
  | @refreshed id _ _ _ w₁ _ hp hf _ h₁ hl =>
    have hdone : Sound w₁.core := by
      rw [show w₁.core = _ from congrArg Frame.core h₁]
      exact h.finish id (.inr ⟨rfl, h.reply_ne hp (.inl hf)⟩)
    rw [show w'.core = _ from congrArg Frame.core hl.frame]
    exact hdone.reroute _
  | bought _ hf =>
    rw [show w'.core = _ from congrArg Frame.core hf]
    exact h.purchase _ (Nat.le_refl _)
  | @confirms id _ _ _ _ _ =>
    have hbought : Sound (w.bought id).core := h.purchase _ (Nat.le_refl _)
    exact sound_sendForeground hbought rfl _

theorem Initial.sound {store : Store ρ} (h : Initial store w) : Sound w.core := by
  rw [h.core]
  exact ⟨nofun, nofun, fun a id request b hb => by simp at hb, nofun, nofun⟩

theorem sound_run (store : Store ρ) (steps : List Step) : Sound (run qt app steps (start qt app env store)).core := by
  refine run_invariant (P := fun w => Sound w.core) (fun w₀ w hinit hacts => ?_) (fun w input w' hstep h => ?_) env steps
  · exact hacts.sound hinit.sound
  · exact hstep.sound h

theorem deliver_aborted (h : Sound w.core) {id : Nat} (hr : w.controller.reply = some id) (r : Reply) :
    deliver qt app env id r (nextGeneration w) = abortReply (nextGeneration w) := by
  obtain ⟨q, hq, hqid⟩ := h.waiting id hr
  cases hp : w.pending.find? (·.id = id) with
  | none => exact absurd hqid (by simpa using List.find?_eq_none.mp hp q hq)
  | some p =>
    obtain rfl : p.id = id := by simpa using List.find?_some hp
    obtain ⟨hf, hg⟩ := h.current p (List.mem_of_find?_eq_some hp) hr
    have hne : ¬ p.generation = (nextGeneration w).controller.generation := by
      rw [hg]
      intro heq
      simp [nextGeneration, World.modify, World.record, World.core] at heq
    have habort : abortReply (nextGeneration w) = (nextGeneration w).finish p.id := by
      rw [abortReply, show (nextGeneration w).controller.reply = some p.id from hr]
    rw [deliver, show (nextGeneration w).pending.find? (·.id = p.id) = some p from hp, habort]
    dsimp only
    split
    · exact if_neg hne
    next hh =>
      rw [hh] at hf
      exact (Bool.false_ne_true hf).elim
    · exact if_neg hne

end Steps

/-- A reply to a request that was sent before the session was cleared is inert: it is no longer
waited for, or it is taken off and only the keys in flight may get fewer. So is the one that
`clearSession` aborts, whose handler runs before it returns. -/
theorem stale_reply_inert (qt : Qt) (app : App ρ) (env : Env) (store : Store ρ) (steps : List Step) {w : World ρ}
    (hw : w = run qt app steps (start qt app env store)) {a b : List Event} {id : Nat} {request : Request}
    (hlog : w.log = a ++ .sent id request :: b) (hpos : 0 < clearsIn b) (hlt : clearsIn b < 2 ^ 32)
    (now : Env) (r : Reply) :
    (deliver qt app now id r w = w ∨
      ∃ keys ⊆ w.controller.routingRefreshInFlight,
        deliver qt app now id r w = (w.finish id).modify fun c => { c with routingRefreshInFlight := keys }) ∧
      ∀ aborted, w.controller.reply = some aborted →
        deliver qt app now aborted r (nextGeneration w) = abortReply (nextGeneration w) := by
  have h : Sound w.core := hw ▸ sound_run store steps
  refine ⟨?_, fun aborted hr => deliver_aborted h hr r⟩
  cases hp : w.pending.find? (·.id = id) with
  | none => exact .inl (by rw [deliver, hp])
  | some p =>
    have hid : p.id = id := by simpa using List.find?_some hp
    exact .inr (deliver_stale qt app now hp (h.stale hlog hpos hlt (List.mem_of_find?_eq_some hp) hid) r)

/-- The revoke of a logout is answered while the registration at the start still waits. -/
def overlappedLogout : List Step := [plainStep (.call .logout), plainStep (.reply 1 (okReply []))]

theorem stale_registration_inert :
    ∃ w, w = run plainQt plainApp overlappedLogout (start plainQt plainApp plainEnv signedInStore) ∧
      w.pending.length = 1 ∧
      (deliver plainQt plainApp plainEnv 0 (okReply []) w = w ∨
        ∃ keys ⊆ w.controller.routingRefreshInFlight,
          deliver plainQt plainApp plainEnv 0 (okReply []) w =
            (w.finish 0).modify fun c => { c with routingRefreshInFlight := keys }) :=
  ⟨_, rfl, rfl, (stale_reply_inert plainQt plainApp plainEnv signedInStore overlappedLogout rfl (a := []) rfl
    (by decide) (by decide) plainEnv (okReply [])).1⟩

end TunnelCore.Account
