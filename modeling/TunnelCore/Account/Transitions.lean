import TunnelCore.Account.Handlers

namespace TunnelCore.Account

variable {ρ : Type}

def World.bought (id : Nat) (w : World ρ) : World ρ :=
  { w.modify fun c => { c with busy := false } with purchases := w.purchases.filter (· ≠ id) }

inductive Transition (qt : Qt) (app : App ρ) (w : World ρ) : Input → World ρ → Prop
  | ignored {input : Input} : Transition qt app w input w
  | called {c : UserCall} {w' : World ρ} (hc : c.isLogout = false) (h : Acts (.call c) qt app w w')
      (hs : c.reroutes = true → Selects qt app w w') (hb : w.controller.busy = true → w'.frame = w.frame) :
      Transition qt app w (.call c) w'
  | leaves {c : UserCall} (hc : c.isLogout = true) (ha : w.controller.authenticated = false) :
      Transition qt app w (.call c) (clearSession w)
  | unregistered {c : UserCall} {message : String} (hc : c.isLogout = true) (ha : w.controller.authenticated = true) :
      Transition qt app w (.call c) (fail message w)
  | revokes {c : UserCall} {handler : Handler} {request : Request} (hc : c.isLogout = true)
      (ha : w.controller.authenticated = true) (h : Carries app w handler request) (hk : handler.cacheKey = none)
      (hn : request.isConfirm = false) : Transition qt app w (.call c) (w.sendForeground handler request)
  | stale {id : Nat} {r : Reply} {p : Pending} {w' : World ρ} (hp : w.pending.find? (·.id = id) = some p)
      (hg : p.generation ≠ w.controller.generation) (h : w'.frame = (w.finish id).frame) :
      Transition qt app w (.reply id r) w'
  | answered {id : Nat} {r : Reply} {p : Pending} {w' : World ρ} (hp : w.pending.find? (·.id = id) = some p)
      (hg : p.generation = w.controller.generation) (hf : p.handler.isForeground = true)
      (h : Acts (.answer qt w p.handler r) qt app (w.answered id) w')
      (hs : p.handler.reroutes = true → Selects qt app (w.answered id) w') : Transition qt app w (.reply id r) w'
  | refreshed {id : Nat} {r : Reply} {p : Pending} {cacheKey : String} {w₁ w' : World ρ}
      (hp : w.pending.find? (·.id = id) = some p) (hf : p.handler.isForeground = false)
      (hk : p.handler.cacheKey = some cacheKey) (h₁ : w₁.frame = (w.finish id).frame) (h : Learns cacheKey w₁ w') :
      Transition qt app w (.reply id r) w'
  | bought {id : Nat} {outcome : Purchase} {w' : World ρ} (hid : id ∈ w.purchases)
      (h : w'.frame = (w.bought id).frame) : Transition qt app w (.purchase id outcome) w'
  | confirms {id : Nat} {outcome : Purchase} {continuation : Continuation} {body : JsonObject} (hid : id ∈ w.purchases)
      (hc : ∃ transactionId, continuation = .billingConfirm transactionId) :
      Transition qt app w (.purchase id outcome)
        (request .billingAppleConfirm body continuation true true (w.bought id))

section

variable {qt : Qt} {app : App ρ} {env : Env} {w : World ρ}

variable {continuation : Continuation}

theorem carries_revoke {endpoint : Endpoint} (hc : continuation = .logout ∨ continuation = .logoutAll)
    (body : JsonObject) : Carries app w (.api true continuation) (.api endpoint true (some w.controller.token) body) := by
  rcases hc with rfl | rfl
  · exact ⟨rfl, .inr rfl, ⟨nofun, .inl rfl⟩, nofun⟩
  · exact ⟨rfl, .inr rfl, ⟨nofun, .inl rfl⟩, nofun⟩

theorem transition_call (env : Env) (c : UserCall) : Transition qt app w (.call c) (c.run qt app env w) := by
  cases hc : c.isLogout with
  | false =>
    refine .called hc (acts_call c hc) (fun hr => ?_) fun hb => call_busy hb c hc
    cases c with
    | selectGeoRoutingCountry countryCode => exact selects_selectGeoRoutingCountry countryCode
    | _ => cases hr
  | true =>
    cases c with
    | logout =>
      cases ha : w.controller.authenticated with
      | false =>
        rw [UserCall.run, logout, ha]
        exact .leaves rfl ha
      | true =>
        rw [UserCall.run, logout, ha]
        split
        · contradiction
        · split
          · exact .unregistered rfl ha
          · exact .revokes rfl ha (carries_revoke (.inl rfl) _) rfl rfl
    | logoutAll =>
      cases ha : w.controller.authenticated with
      | false =>
        rw [UserCall.run, logoutAll, ha]
        exact .leaves rfl ha
      | true =>
        rw [UserCall.run, logoutAll, ha]
        exact .revokes rfl ha (carries_revoke (.inr rfl) _) rfl rfl
    | _ => cases hc

theorem transition_reply (env : Env) (id : Nat) (r : Reply) :
    Transition qt app w (.reply id r) (deliver qt app env id r w) := by
  cases hp : w.pending.find? (·.id = id) with
  | none =>
    rw [deliver, hp]
    exact .ignored
  | some p =>
    rw [deliver, hp]
    dsimp only
    split
    next post continuation hh =>
      split
      next hg =>
        refine .answered hp hg (by rw [hh]; rfl) ?_ fun hr => ?_
        · rw [hh]
          exact acts_apiFinished post continuation r id w
        · rw [hh] at hr
          exact selects_apiFinished post hr r id w
      next hg => exact .stale hp hg rfl
    next cacheKey country hh =>
      split
      · refine .refreshed hp (by rw [hh]; rfl) (by rw [hh]; rfl) ?_ (backgroundFinished_learns cacheKey country r _)
        rfl
      next hg => exact .stale hp hg rfl
    next fileName mode profile hh =>
      split
      next hg =>
        refine .answered hp hg (by rw [hh]; rfl) (acts_downloadFinished fileName mode profile r id w) fun hr => ?_
        rw [hh] at hr
        nomatch hr
      next hg => exact .stale hp hg rfl

theorem deliver_api {id : Nat} {r : Reply} {p : Pending} (hp : w.pending.find? (·.id = id) = some p) {post : Bool}
    (hh : p.handler = .api post continuation)
    (hg : p.generation = w.controller.generation) :
    deliver qt app env id r w = apiFinished qt app env post continuation r (w.finish id) := by
  rw [deliver, hp]
  simp only [hh]
  exact if_pos hg

theorem transition_purchase (id : Nat) (outcome : Purchase) :
    Transition qt app w (.purchase id outcome) (purchaseFinished id outcome w) := by
  rw [purchaseFinished]
  split
  next hid =>
    rw [List.contains_iff_mem] at hid
    cases outcome with
    | cancelled | pending | failed => exact .bought hid rfl
    | succeeded => exact .confirms hid ⟨_, rfl⟩
  · exact .ignored

theorem Step.transition (s : Step) (w : World ρ) : Transition qt app w s.input (s.run qt app w) := by
  obtain ⟨env, input⟩ := s
  cases input with
  | call c => exact transition_call env c
  | reply id r => exact transition_reply env id r
  | purchase id outcome => exact transition_purchase id outcome

theorem carries_confirm {body : JsonObject} (hc : ∃ transactionId, continuation = .billingConfirm transactionId) :
    Carries app w (.api true continuation) (.api .billingAppleConfirm true (some w.controller.token) body) := by
  obtain ⟨transactionId, rfl⟩ := hc
  exact ⟨rfl, .inr rfl, ⟨nofun, .inl rfl⟩, nofun⟩

end

structure Initial (store : Store ρ) (w : World ρ) : Prop where
  core : w.core = ⟨0, none, [], [], 0, [], ⟨fun _ => none, store.routingCache, "", ""⟩⟩
  busy : w.controller.busy = false
  session : w.live = w.store.session.getD ⟨"", "", false, false⟩
  valid : w.store.session = none ∨ validSession w.controller.token w.controller.username = true

theorem start_acts (qt : Qt) (app : App ρ) (env : Env) (store : Store ρ) :
    ∃ w, Initial store w ∧ Acts .plain qt app w (start qt app env store) := by
  rw [start]
  split
  next session hs =>
    split
    next hv =>
      refine ⟨_, ⟨rfl, rfl, ?_, .inr hv⟩, acts_registerDevice (fun _ => ?_) false⟩
      · change (⟨_, _, _, _⟩ : Session) = store.session.getD _
        rw [hs]
        rfl
      · exact decide_eq_true (authenticated_of_validSession hv)
    · exact ⟨_, ⟨rfl, rfl, rfl, .inl rfl⟩, .silent .refl⟩
  · exact ⟨_, ⟨rfl, rfl, rfl, .inl rfl⟩, .silent .refl⟩

theorem run_invariant {P : World ρ → Prop} {store : Store ρ}
    (hstart : ∀ w₀ w, Initial store w₀ → Acts .plain qt app w₀ w → P w)
    (hstep : ∀ w input w', Transition qt app w input w' → P w → P w') (env : Env) (steps : List Step) :
    P (run qt app steps (start qt app env store)) := by
  obtain ⟨w₀, hinit, hacts⟩ := start_acts qt app env store
  exact List.foldlRecOn (motive := P) steps _ (hstart w₀ _ hinit hacts)
    fun w hw s _ => hstep w _ _ (s.transition w) hw

end TunnelCore.Account
