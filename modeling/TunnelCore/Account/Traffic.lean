import TunnelCore.Account.Transitions

namespace TunnelCore.Account

variable {ρ : Type}

def Event.isSent : Event → Bool
  | .sent _ _ => true
  | _ => false

/-- Nothing is sent: the token stays, or it is dropped together with the session, or it is a new one. -/
structure Unsent (tokens : String → Prop) (w w' : World ρ) : Prop where
  log : ∃ events, w'.log = w.log ++ events ∧ (∀ e ∈ events, e.isSent = false) ∧
    (w'.controller.token = w.controller.token ∨ w'.controller.token = "" ∧ .cleared ∈ events ∨
      w'.controller.token ≠ "" ∧ tokens w'.controller.token)
  pending : ∀ p ∈ w'.pending, p ∈ w.pending
  nextId : w.nextId ≤ w'.nextId

/-- What goes over the network, and what happens to the token in between. -/
inductive Traffic (tokens : String → Prop) (requests : Request → Prop) (w : World ρ) : World ρ → Prop
  | unsent {w' : World ρ} (h : Unsent tokens w w') : Traffic tokens requests w w'
  | sent {w₁ w₂ : World ρ} {handler : Handler} {request : Request} (h : Traffic tokens requests w w₁)
      (hr : requests request) (ht : request.token = none ∨ request.token = some w₁.controller.token)
      (hf : handler.Fits request)
      (hlog : w₂.log = w₁.log ++ [.sent w₁.nextId request])
      (hp : w₂.pending = w₁.pending ++ [⟨w₁.nextId, w₁.controller.generation, handler⟩])
      (hn : w₂.nextId = w₁.nextId + 1) (hl : w₂.controller.token = w₁.controller.token) :
      Traffic tokens requests w w₂

section

variable {tokens : String → Prop} {requests : Request → Prop} {S : Scope} {qt : Qt} {app : App ρ} {w w₁ w' : World ρ}

theorem Unsent.trans (h₁ : Unsent tokens w w₁) (h₂ : Unsent tokens w₁ w') : Unsent tokens w w' where
  log := by
    obtain ⟨events₁, hlog₁, hsent₁, htoken₁⟩ := h₁.log
    obtain ⟨events₂, hlog₂, hsent₂, htoken₂⟩ := h₂.log
    refine ⟨events₁ ++ events₂, by rw [hlog₂, hlog₁, List.append_assoc], ?_, ?_⟩
    · intro e he
      exact (List.mem_append.mp he).elim (hsent₁ e) (hsent₂ e)
    · rcases htoken₂ with hsame | ⟨hempty, hcleared⟩ | hnew
      · rw [hsame]
        exact htoken₁.imp_right (.imp_left fun h => ⟨h.1, List.mem_append_left _ h.2⟩)
      · exact .inr (.inl ⟨hempty, List.mem_append_right _ hcleared⟩)
      · exact .inr (.inr hnew)
  pending p hp := h₁.pending p (h₂.pending p hp)
  nextId := Nat.le_trans h₁.nextId h₂.nextId

theorem Unsent.refl (w : World ρ) : Unsent tokens w w := ⟨⟨[], by simp, nofun, .inl rfl⟩, fun _ hp => hp, Nat.le_refl _⟩

theorem Unsent.of_frame {f : Frame} (hf : w'.frame = f) (hlog : f.core.log = w.log) (hpending : f.core.pending = w.pending)
    (hnext : f.core.nextId = w.nextId)
    (ht : f.live.token = w.controller.token ∨ f.live.token ≠ "" ∧ tokens f.live.token) : Unsent tokens w w' := by
  subst hf
  exact ⟨⟨[], hlog.trans (List.append_nil _).symm, nofun, ht.imp_right .inr⟩, fun _ hp => hpending ▸ hp,
    Nat.le_of_eq hnext.symm⟩

theorem unsent_record {e : Event} (he : e.isSent = false) (w : World ρ) : Unsent tokens w (w.record e) :=
  ⟨⟨[e], rfl, by simpa using he, .inl rfl⟩, fun _ hp => hp, Nat.le_refl _⟩

theorem unsent_finish (id : Nat) (w : World ρ) : Unsent tokens w (w.finish id) :=
  ⟨⟨[.delivered id], rfl, by simp [Event.isSent], .inl rfl⟩, fun _ hp => (List.mem_filter.mp hp).1, Nat.le_refl _⟩

theorem unsent_answered (id : Nat) (w : World ρ) : Unsent tokens w (w.answered id) :=
  (unsent_finish id w).trans (.of_frame rfl rfl rfl rfl (.inl rfl))

theorem unsent_bought (id : Nat) (w : World ρ) : Unsent tokens w (w.bought id) := .of_frame rfl rfl rfl rfl (.inl rfl)

theorem unsent_clearSession (w : World ρ) : Unsent tokens w (clearSession w) := by
  obtain ⟨hpending, hnext, -⟩ := clearSession_keeps w
  refine ⟨?_, hpending, Nat.le_of_eq hnext.symm⟩
  cases hr : w.controller.reply with
  | none =>
    have hlog : (clearSession w).log = w.log ++ [.cleared] := congrArg Core.log (clearSession_core_none hr)
    exact ⟨_, hlog, by simp [Event.isSent], .inr (.inl ⟨rfl, by simp⟩)⟩
  | some id =>
    have hlog : (clearSession w).log = w.log ++ [.cleared] ++ [.delivered id] :=
      congrArg Core.log (clearSession_core_some hr)
    rw [List.append_assoc] at hlog
    exact ⟨_, hlog, by simp [Event.isSent], .inr (.inl ⟨rfl, by simp⟩)⟩

theorem Adjusts.unsent (hw : Adjusts S qt app w w') : Unsent S.tokens w w' := by
  cases hw with
  | quiet hf | idle hf | link hf | select _ hf | look hf | store _ hf | apply _ _ hf =>
    exact .of_frame hf rfl rfl rfl (.inl rfl)
  | signIn ht hv hf => exact .of_frame hf rfl rfl rfl (.inr ⟨authenticated_of_validSession hv, ht⟩)
  | @note e he => exact unsent_record (by cases e <;> first | rfl | nomatch he) w
  | clear => exact unsent_clearSession w

theorem Silent.unsent (hw : Silent S qt app w w') : Unsent S.tokens w w' := by
  induction hw with
  | refl => exact .refl w
  | tail _ h ih => exact ih.trans h.unsent

theorem Traffic.after (h₁ : Unsent tokens w w₁) (h₂ : Traffic tokens requests w₁ w') : Traffic tokens requests w w' := by
  induction h₂ with
  | unsent h => exact .unsent (h₁.trans h)
  | sent _ hr ht hf hlog hp hn hl ih => exact .sent ih hr ht hf hlog hp hn hl

theorem Acts.traffic (hw : Acts S qt app w w') : Traffic S.tokens (·.isConfirm = false) w w' := by
  induction hw with
  | silent h => exact .unsent h.unsent
  | sends h hs => exact .sent (.unsent h.unsent) hs.confirm hs.token hs.fits rfl rfl rfl rfl
  | @purchases w₁ productId h _ _ =>
    refine .unsent (h.unsent.trans ⟨⟨[.purchaseStarted productId], rfl, by simp [Event.isSent], .inl rfl⟩, ?_, ?_⟩)
    · exact fun _ hp => hp
    · exact Nat.le_succ _
  | background _ hs hf ih =>
    exact .sent ih hs.confirm (.inr hs.token) (by exact trivial) (congrArg (·.core.log) hf) (congrArg (·.core.pending) hf)
      (congrArg (·.core.nextId) hf) (congrArg (·.live.token) hf)

def Input.Issues (qt : Qt) (token : String) : Input → Prop
  | .reply _ r => r.Issues qt token
  | _ => False

theorem Traffic.mono {tokens' : String → Prop} {requests' : Request → Prop} (hw : Traffic tokens requests w w')
    (h : ∀ token, tokens token → tokens' token) (hr : ∀ request, requests request → requests' request) :
    Traffic tokens' requests' w w' := by
  induction hw with
  | unsent hu =>
    obtain ⟨⟨events, hlog, hsent, htoken⟩, hpending, hnext⟩ := hu
    exact .unsent ⟨⟨events, hlog, hsent, htoken.imp_right (.imp_right (.imp_right (h _)))⟩, hpending, hnext⟩
  | sent _ hreq ht hf hlog hp hn hl ih => exact .sent ih (hr _ hreq) ht hf hlog hp hn hl

/-- A purchase is confirmed only by its callback, with the token there is then. -/
def Confirms (w : World ρ) (input : Input) (request : Request) : Prop :=
  request.isConfirm = true → ∃ id outcome, input = .purchase id outcome ∧ id ∈ w.purchases ∧
    request.token = some w.controller.token

theorem confirms_of_not {input : Input} {request : Request} (h : request.isConfirm = false) : Confirms w input request :=
  fun hc => (Bool.false_ne_true (h.symm.trans hc)).elim

theorem Transition.traffic {input : Input} (hw : Transition qt app w input w') :
    Traffic (input.Issues qt) (Confirms w input) w w' := by
  cases hw with
  | ignored => exact .unsent (.refl w)
  | called _ hacts _ _ => exact hacts.traffic.mono nofun fun _ => confirms_of_not
  | leaves => exact .unsent (unsent_clearSession w)
  | unregistered => exact .unsent (.of_frame rfl rfl rfl rfl (.inl rfl))
  | revokes _ _ hc _ hn => exact .sent (.unsent (.refl w)) (confirms_of_not hn) hc.token hc.fits rfl rfl rfl rfl
  | stale _ _ hf => exact .unsent ((unsent_finish _ w).trans (.of_frame hf rfl rfl rfl (.inl rfl)))
  | answered _ _ _ hacts _ =>
    exact .after (unsent_answered _ w) (hacts.traffic.mono (fun _ => id) fun _ => confirms_of_not)
  | @refreshed id _ _ _ w₁ _ _ _ _ h₁ hl =>
    have hfinished : w'.frame = (w.finish id).frame.route w'.routing := hl.frame.trans (congrArg (Frame.route · _) h₁)
    exact .unsent ((unsent_finish id w).trans (.of_frame hfinished rfl rfl rfl (.inl rfl)))
  | bought _ hf => exact .unsent (.of_frame hf rfl rfl rfl (.inl rfl))
  | @confirms id _ _ body hid hc =>
    have hcarries : Carries app (w.bought id) _ (.api .billingAppleConfirm true _ body) := carries_confirm hc
    exact .sent (.unsent (unsent_bought id w)) (fun _ => ⟨id, _, rfl, hid, rfl⟩) hcarries.token hcarries.fits
      rfl rfl rfl rfl

theorem Traffic.events (hw : Traffic tokens requests w w') :
    ∃ events, w'.log = w.log ++ events ∧ ∀ id request, .sent id request ∈ events → requests request := by
  induction hw with
  | unsent hu =>
    obtain ⟨⟨events, hlog, hsent, -⟩, -, -⟩ := hu
    exact ⟨events, hlog, fun id request hm => (Bool.false_ne_true (hsent _ hm).symm).elim⟩
  | @sent w₁ _ _ request _ hr _ _ hlog _ _ _ ih =>
    obtain ⟨events, hold, hrequests⟩ := ih
    refine ⟨events ++ [.sent w₁.nextId request], by rw [hlog, hold, List.append_assoc], fun id other hm => ?_⟩
    rcases List.mem_append.mp hm with hm | hm
    · exact hrequests id other hm
    · obtain ⟨-, rfl⟩ := Event.sent.inj (List.mem_singleton.mp hm)
      exact hr

/-- The token there is and those that were sent. -/
structure Owned (T : String → Prop) (w : World ρ) : Prop where
  token : T w.controller.token
  sent : ∀ id request token, .sent id request ∈ w.log → request.token = some token → T token

theorem Traffic.owned {T : String → Prop} (hw : Traffic tokens requests w w') (ht : ∀ token, tokens token → T token)
    (hempty : T "") (h : Owned T w) : Owned T w' := by
  induction hw with
  | unsent hu =>
    obtain ⟨events, hlog, hsent, htoken⟩ := hu.log
    refine ⟨?_, fun id request token hmem => ?_⟩
    · rcases htoken with heq | ⟨heq, -⟩ | ⟨-, hnew⟩
      · exact heq ▸ h.token
      · exact heq ▸ hempty
      · exact ht _ hnew
    · rw [hlog, List.mem_append] at hmem
      exact h.sent id request token (hmem.resolve_right fun he => absurd (hsent _ he) nofun)
  | sent _ _ hcarried _ hlog _ _ hl ih =>
    refine ⟨hl ▸ ih.token, fun id request token hmem htoken => ?_⟩
    rw [hlog, List.mem_append, List.mem_singleton] at hmem
    rcases hmem with hmem | hnew
    · exact ih.sent id request token hmem htoken
    · cases hnew
      rw [htoken] at hcarried
      exact Option.some.inj (hcarried.resolve_left nofun) ▸ ih.token

theorem owned_of_log {T : String → Prop} (ht : T w.controller.token) (hlog : w.log = []) : Owned T w :=
  ⟨ht, fun _ _ _ h => absurd (hlog ▸ h) List.not_mem_nil⟩

/-- Every token that goes out was stored at the start or issued by a reply of the run. -/
theorem sent_tokens_issued (qt : Qt) (app : App ρ) (env : Env) (store : Store ρ) (steps : List Step) :
    Owned (fun token => token = "" ∨ (∃ session, store.session = some session ∧ session.token = token) ∨
        ∃ s ∈ steps, s.input.Issues qt token) (run qt app steps (start qt app env store)) := by
  refine List.foldlRecOn steps _ ?_ fun w hw s hs =>
    (s.transition w).traffic.owned (fun _ hi => .inr (.inr ⟨s, hs, hi⟩)) (.inl rfl) hw
  rw [start]
  split
  next session hsession =>
    split
    next hv =>
      refine (show Acts .plain qt app _ _ from acts_registerDevice (fun _ => ?_) false).traffic.owned
        (fun _ => False.elim) (.inl rfl) (owned_of_log (.inr (.inl ⟨session, hsession, rfl⟩)) rfl)
      exact decide_eq_true (authenticated_of_validSession hv)
    · exact owned_of_log (.inl rfl) rfl
  · exact owned_of_log (.inl rfl) rfl

structure Distinct (w : World ρ) : Prop where
  fresh : ∀ p ∈ w.pending, p.id < w.nextId
  unique : ∀ p ∈ w.pending, ∀ q ∈ w.pending, p.id = q.id → p = q

theorem Unsent.distinct (hw : Unsent tokens w w') (h : Distinct w) : Distinct w' where
  fresh p hp := Nat.lt_of_lt_of_le (h.fresh p (hw.pending p hp)) hw.nextId
  unique p hp q hq := h.unique p (hw.pending p hp) q (hw.pending q hq)

theorem Traffic.distinct (hw : Traffic tokens requests w w') (h : Distinct w) : Distinct w' := by
  induction hw with
  | unsent hu => exact hu.distinct h
  | sent _ _ _ _ _ hpending hn _ ih =>
    refine ⟨fun p hp => ?_, fun p hp q hq hid => ?_⟩
    · rw [hn]
      rcases List.mem_append.mp (hpending ▸ hp) with hp | hp
      · exact Nat.lt_succ_of_lt (ih.fresh p hp)
      · obtain rfl := List.mem_singleton.mp hp
        exact Nat.lt_succ_self _
    · rw [hpending] at hp hq
      rcases List.mem_append.mp hp with hp | hp <;> rcases List.mem_append.mp hq with hq | hq
      · exact ih.unique p hp q hq hid
      · obtain rfl := List.mem_singleton.mp hq
        exact (Nat.ne_of_lt (ih.fresh p hp) hid).elim
      · obtain rfl := List.mem_singleton.mp hp
        exact (Nat.ne_of_lt (ih.fresh q hq) hid.symm).elim
      · exact (List.mem_singleton.mp hp).trans (List.mem_singleton.mp hq).symm

theorem Initial.distinct {store : Store ρ} (h : Initial store w) : Distinct w := by
  have hpending : w.pending = [] := congrArg Core.pending h.core
  constructor
  · rw [hpending]
    nofun
  · rw [hpending]
    nofun

theorem Distinct.eq_of_find (h : Distinct w) {id : Nat} {p q : Pending} (hp : w.pending.find? (·.id = id) = some p)
    (hq : q ∈ w.pending) (hid : q.id = id) : q = p := by
  have hpid : p.id = id := by simpa using List.find?_some hp
  exact h.unique q hq p (List.mem_of_find?_eq_some hp) (hid.trans hpid.symm)

end

end TunnelCore.Account
