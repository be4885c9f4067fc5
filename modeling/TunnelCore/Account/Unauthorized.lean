import TunnelCore.Account.StaleReplies
import TunnelCore.Account.StoredSession
import TunnelCore.Account.Traffic

namespace TunnelCore.Account

variable {ρ : Type}

/-- The handler that waits for a reply was given to the request of the log; a session in which a
token has been sent is still there until it is cleared. -/
structure Tied (w : World ρ) : Prop extends Distinct w where
  logged : ∀ id request, .sent id request ∈ w.log → id < w.nextId
  fits : ∀ p ∈ w.pending, ∀ request, .sent p.id request ∈ w.log → p.handler.Fits request
  live : ∀ a id request b token, w.log = a ++ .sent id request :: b → clearsIn b = 0 → request.token = some token →
    token ≠ "" → w.controller.token ≠ ""

section

variable {tokens : String → Prop} {requests : Request → Prop} {w w' : World ρ}

theorem mem_log_of_unsent {log events : List Event} (h : ∀ e ∈ events, e.isSent = false) {id : Nat} {request : Request}
    (hm : .sent id request ∈ log ++ events) : .sent id request ∈ log :=
  (List.mem_append.mp hm).resolve_right fun hm => Bool.false_ne_true (h _ hm).symm

theorem Unsent.tied (hw : Unsent tokens w w') (h : Tied w) : Tied w' := by
  have hdistinct := hw.distinct h.toDistinct
  obtain ⟨⟨events, hlog, hsent, htoken⟩, hpending, hnext⟩ := hw
  refine ⟨hdistinct, fun id request hm => ?_, fun p hp request hm => ?_, fun a id request b token hb hc ht hne => ?_⟩
  · exact Nat.lt_of_lt_of_le (h.logged id request (mem_log_of_unsent hsent (hlog ▸ hm))) hnext
  · exact h.fits p (hpending p hp) request (mem_log_of_unsent hsent (hlog ▸ hm))
  · have hold : Event.sent id request ∉ events := fun hm => Bool.false_ne_true (hsent _ hm).symm
    obtain ⟨b', rfl, hb'⟩ := split_append (hlog ▸ hb) hold
    rw [clearsIn, List.countP_append, Nat.add_eq_zero_iff] at hc
    rcases htoken with hsame | ⟨-, hcleared⟩ | ⟨hnew, -⟩
    · rw [hsame]
      exact h.live a id request b' token hb' hc.1 ht hne
    · exact (List.countP_eq_zero.mp hc.2 _ hcleared rfl).elim
    · exact hnew

theorem Traffic.tied (hw : Traffic tokens requests w w') (h : Tied w) : Tied w' := by
  have hdistinct := hw.distinct h.toDistinct
  induction hw with
  | unsent hu => exact hu.tied h
  | @sent w₁ w₂ handler request hbefore _ ht hf hlog hp hn hl ih =>
    replace ih := ih (hbefore.distinct h.toDistinct)
    refine ⟨hdistinct, fun id other hm => ?_, fun p hm other hs => ?_, fun a id other b token hb hc htoken hne => ?_⟩
    · rw [hn]
      rcases List.mem_append.mp (hlog ▸ hm) with hm | hm
      · exact Nat.lt_succ_of_lt (ih.logged id other hm)
      · obtain ⟨rfl, -⟩ := Event.sent.inj (List.mem_singleton.mp hm)
        exact Nat.lt_succ_self _
    · rcases List.mem_append.mp (hp ▸ hm) with hm | hm <;> rcases List.mem_append.mp (hlog ▸ hs) with hs | hs
      · exact ih.fits p hm other hs
      · obtain ⟨hid, -⟩ := Event.sent.inj (List.mem_singleton.mp hs)
        exact (Nat.ne_of_lt (ih.fresh p hm) hid).elim
      · obtain rfl := List.mem_singleton.mp hm
        exact (Nat.lt_irrefl _ (ih.logged _ other hs)).elim
      · obtain rfl := List.mem_singleton.mp hm
        obtain ⟨-, rfl⟩ := Event.sent.inj (List.mem_singleton.mp hs)
        exact hf
    · rw [hl]
      rcases split_concat (hlog ▸ hb) with ⟨-, he, -⟩ | ⟨b', rfl, hb'⟩
      · obtain ⟨-, rfl⟩ := Event.sent.inj he
        rcases ht with ht | ht
        · exact nomatch ht.symm.trans htoken
        · exact Option.some.inj (ht.symm.trans htoken) ▸ hne
      · rw [clearsIn, List.countP_append, Nat.add_eq_zero_iff] at hc
        exact ih.live a id other b' token hb' hc.1 htoken hne

theorem Initial.tied {store : Store ρ} (h : Initial store w) : Tied w := by
  have hpending : w.pending = [] := congrArg Core.pending h.core
  have hlog : w.log = [] := congrArg Core.log h.core
  refine ⟨h.distinct, ?_, ?_, fun a id request b token hb => ?_⟩
  · rw [hlog]
    nofun
  · rw [hpending]
    nofun
  · rw [hlog] at hb
    simp at hb

theorem tied_run (qt : Qt) (app : App ρ) (env : Env) (store : Store ρ) (steps : List Step) :
    Tied (run qt app steps (start qt app env store)) := by
  refine run_invariant (fun w₀ w hinit hacts => ?_) (fun w input w' hstep h => ?_) env steps
  · exact hacts.traffic.tied hinit.tied
  · exact hstep.traffic.tied h

end

def Event.carries (token : String) : Event → Bool
  | .sent _ request => request.token = some token
  | _ => false

/-- The token is not the current one, and has not been sent since the log was `base`. -/
structure Spent (token : String) (base : List Event) (w : World ρ) : Prop where
  dropped : w.controller.token ≠ token
  log : ∃ events, w.log = base ++ events ∧ ∀ e ∈ events, e.carries token = false

section

variable {tokens : String → Prop} {requests : Request → Prop} {qt : Qt} {app : App ρ} {w w' : World ρ}
  {token : String} {base : List Event}

theorem Spent.append (h : Spent token base w) {events : List Event} (hlog : w'.log = w.log ++ events)
    (hevents : ∀ e ∈ events, e.carries token = false) (ht : w'.controller.token ≠ token) : Spent token base w' := by
  obtain ⟨old, hold, hcarries⟩ := h.log
  refine ⟨ht, old ++ events, by rw [hlog, hold, List.append_assoc], fun e he => ?_⟩
  exact (List.mem_append.mp he).elim (hcarries e) (hevents e)

theorem Traffic.spent (hw : Traffic tokens requests w w') (hne : token ≠ "") (hissued : ¬ tokens token)
    (h : Spent token base w) : Spent token base w' := by
  induction hw with
  | unsent hu =>
    obtain ⟨⟨events, hlog, hsent, htoken⟩, -, -⟩ := hu
    refine h.append hlog (fun e he => ?_) ?_
    · cases e with
      | sent id request => exact nomatch hsent _ he
      | _ => rfl
    · rcases htoken with hsame | ⟨hempty, -⟩ | ⟨-, hnew⟩
      · exact hsame ▸ h.dropped
      · exact hempty ▸ hne.symm
      · exact fun he => hissued (he ▸ hnew)
  | @sent w₁ w₂ _ request _ _ ht _ hlog _ _ hl ih =>
    refine ih.append hlog (fun e he => ?_) (hl ▸ ih.dropped)
    obtain rfl := List.mem_singleton.mp he
    refine decide_eq_false fun hcarried => ?_
    rcases ht with ht | ht
    · exact nomatch ht.symm.trans hcarried
    · exact ih.dropped (Option.some.inj (ht.symm.trans hcarried))

theorem spent_run (hne : token ≠ "") {steps : List Step} (hissued : ∀ s ∈ steps, ¬ s.input.Issues qt token)
    (h : Spent token base w) : Spent token base (run qt app steps w) :=
  List.foldlRecOn (motive := Spent token base) steps _ h
    fun w hw s hs => (s.transition w).traffic.spent hne (hissued s hs) hw

end

def Handler.isTelegramLink : Handler → Bool
  | .api _ .linkTelegram => true
  | _ => false

def Reply.apiError (r : Reply) : String := (r.object.value "error").toString

section

variable {qt : Qt} {app : App ρ} {env : Env} {w : World ρ} {r : Reply}

theorem endSession_busy (w : World ρ) : endSession (w.modify fun c => { c with busy := false }) = endSession w := by
  rw [endSession, clearSession_busy, endSession]

theorem apiFinished_unauthorized (hr : r.status = 401) {post : Bool} {continuation : Continuation} {request : Request}
    (hfits : (Handler.api post continuation).Fits request) {token : String} (ht : request.token = some token)
    (hlink : (Handler.api post continuation).isTelegramLink = true → r.apiError = "unauthorized") (id : Nat) :
    apiFinished qt app env post continuation r (w.finish id) = endSession (w.answered id) := by
  have hunsuccessful : r.successful = false := by simp [Reply.successful, hr]
  have hsignIn : continuation.isSignIn = false := by
    refine Bool.eq_false_iff.mpr fun h => ?_
    cases (hfits.1 h).symm.trans ht
  rw [apiFinished, hunsuccessful, hr]
  cases continuation with
  | authenticate => cases hsignIn
  | linkTelegram =>
    simp only [failed, linkTelegramFailed, show (r.object.value "error").toString = "unauthorized" from hlink rfl]
    rfl
  | me | configs | billing =>
    obtain rfl : post = false := hfits.2.resolve_left Bool.false_ne_true
    rw [World.answered, endSession_busy]
    simp [failed, unhandled, hr]
  | _ => rfl

theorem linkTelegramFailed_keeps {apiError : String} (h : apiError ≠ "unauthorized") :
    (linkTelegramFailed 401 apiError w).store = w.store := by
  simp only [linkTelegramFailed, h]
  split <;> rfl

theorem apiFinished_link_kept (hr : r.status = 401) (h : r.apiError ≠ "unauthorized") (post : Bool) (id : Nat) :
    (apiFinished qt app env post .linkTelegram r (w.finish id)).store = w.store := by
  have hunsuccessful : r.successful = false := by simp [Reply.successful, hr]
  rw [apiFinished, hunsuccessful, hr]
  exact linkTelegramFailed_keeps h

theorem deliver_background {id : Nat} {p : Pending} (hp : w.pending.find? (·.id = id) = some p)
    {cacheKey country : String} (hh : p.handler = .background cacheKey country) :
    (deliver qt app env id r w).store.session = w.store.session := by
  rw [deliver, hp]
  simp only [hh]
  split
  · exact congrArg Frame.stored (backgroundFinished_learns cacheKey country r _).frame
  · rfl

section Refused

variable {id : Nat} {p : Pending} {request : Request} {token : String} (hp : w.pending.find? (·.id = id) = some p)
  (hg : p.generation = w.controller.generation) (hfits : p.handler.Fits request) (ht : request.token = some token)
  (hr : r.status = 401)

include hp hg hfits ht hr

theorem deliver_ends_session (hf : p.handler.isForeground = true)
    (hlink : p.handler.isTelegramLink = true → r.apiError = "unauthorized") :
    deliver qt app env id r w = endSession (w.answered id) := by
  cases hh : p.handler with
  | api post continuation =>
    rw [hh] at hfits hlink
    rw [deliver_api hp hh hg, apiFinished_unauthorized hr hfits ht hlink id]
  | background =>
    rw [hh] at hf
    cases hf
  | download =>
    rw [hh] at hfits
    cases hfits.symm.trans ht

theorem ended_session_cases (hstored : w.store.session ≠ none)
    (hnone : (deliver qt app env id r w).store.session = none) :
    p.handler.isForeground = true ∧ (p.handler.isTelegramLink = true → r.apiError = "unauthorized") := by
  cases hh : p.handler with
  | api post continuation =>
    refine ⟨rfl, fun hlink => ?_⟩
    obtain rfl : continuation = .linkTelegram := by
      cases continuation with
      | linkTelegram => rfl
      | _ => cases hlink
    by_contra herror
    rw [deliver_api hp hh hg, apiFinished_link_kept hr herror post id] at hnone
    exact hstored hnone
  | background cacheKey country => exact absurd ((deliver_background hp hh).symm.trans hnone) hstored
  | download =>
    rw [hh] at hfits
    cases hfits.symm.trans ht

end Refused

end

/-- A refused token ends the session, and is never sent again unless the server issues it anew,
exactly when the request was not a background refresh and, for a link to Telegram, when the error is
`unauthorized`. -/
theorem unauthorized_ends_session (qt : Qt) (app : App ρ) (env : Env) (store : Store ρ) (steps : List Step) {w : World ρ}
    (hw : w = run qt app steps (start qt app env store)) {a b : List Event} {id : Nat} {request : Request}
    {token : String} (hlog : w.log = a ++ .sent id request :: b) (htoken : request.token = some token)
    (hne : token ≠ "") (hsession : clearsIn b = 0) {p : Pending} (hp : w.pending.find? (·.id = id) = some p)
    (now : Env) {r : Reply} (hr : r.status = 401) :
    ((deliver qt app now id r w).store.session = none ∧
        ∀ later : List Step, (∀ s ∈ later, ¬ s.input.Issues qt token) →
          ∃ events, (run qt app later (deliver qt app now id r w)).log = (deliver qt app now id r w).log ++ events ∧
            ∀ e ∈ events, e.carries token = false) ↔
      p.handler.isForeground = true ∧ (p.handler.isTelegramLink = true → r.apiError = "unauthorized") := by
  have hsound : Sound w.core := hw ▸ sound_run store steps
  have htied : Tied w := hw ▸ tied_run qt app env store steps
  have hmirrors : Mirrors w := by
    rw [hw]
    refine run_invariant (fun w₀ w hinit hacts => ?_) (fun w input w' hstep h => ?_) env steps
    · exact hacts.mirrors hinit.mirrors
    · exact hstep.mirrors h
  have hmem := List.mem_of_find?_eq_some hp
  have hid : p.id = id := by simpa using List.find?_some hp
  have hgeneration : p.generation = w.controller.generation := by
    have hage := hsound.age a id request b hlog p hmem hid
    rw [hsession, BitVec.add_zero] at hage
    exact hage
  have hfits : p.handler.Fits request := htied.fits p hmem request (by rw [hid, hlog]; simp)
  have hstored : w.store.session ≠ none := by
    intro hnone
    have hlive := hmirrors.stored
    rw [hnone] at hlive
    exact htied.live a id request b token hlog hsession htoken hne (congrArg Session.token hlive).symm
  constructor
  · rintro ⟨hnone, -⟩
    exact ended_session_cases hp hgeneration hfits htoken hr hstored hnone
  · rintro ⟨hf, hlink⟩
    rw [deliver_ends_session hp hgeneration hfits htoken hr hf hlink]
    refine ⟨rfl, fun later hissued => ?_⟩
    have hspent : Spent token (endSession (w.answered id)).log (endSession (w.answered id)) :=
      ⟨hne.symm, [], (List.append_nil _).symm, nofun⟩
    exact (spent_run hne hissued hspent).log

theorem refused_registration_ends_session :
    (deliver plainQt plainApp plainEnv 0 ⟨401, true, none, ""⟩
        (start plainQt plainApp plainEnv signedInStore)).store.session = none ∧
      ∀ later : List Step, (∀ s ∈ later, ¬ s.input.Issues plainQt "token") →
        ∃ events, (run plainQt plainApp later (deliver plainQt plainApp plainEnv 0 ⟨401, true, none, ""⟩
            (start plainQt plainApp plainEnv signedInStore))).log =
          (deliver plainQt plainApp plainEnv 0 ⟨401, true, none, ""⟩
            (start plainQt plainApp plainEnv signedInStore)).log ++ events ∧
          ∀ e ∈ events, e.carries "token" = false :=
  (unauthorized_ends_session plainQt plainApp plainEnv signedInStore [] rfl (a := []) (b := []) rfl rfl (by decide) rfl
    rfl plainEnv rfl).mpr ⟨rfl, nofun⟩

section Refused

def refused (error : String) : Reply := ⟨401, true, some (.object [("error", .string error)]), ""⟩

def cachedStore : Store Unit := { signedInStore with routingCache := fun _ => [("rules", .array [])] }

def refusedRefresh : List Step := untilRouting ++ [plainStep (.reply 5 (refused "unauthorized"))]

def emailStore : Store Unit := { signedInStore with session := some ⟨"token", "user@example.org", true, false⟩ }

def refusedLink : List Step :=
  [plainStep (.reply 0 ⟨409, true, some (.object [("error", .string "device_limit_reached")]), ""⟩),
    plainStep (.call (.linkTelegram "123456")), plainStep (.reply 1 (refused "token_expired"))]

/-- After the refusal of the background refresh, and after that of a link for another reason, the
session is stored and the next refresh sends the token again. -/
theorem refused_token_sent_again :
    (run plainQt plainApp untilRouting (start plainQt plainApp plainEnv cachedStore)).pending.map
        (fun p => (p.id, p.handler)) = [(4, .api false .configs), (5, .background "default:linux" "")] ∧
      (run plainQt plainApp refusedRefresh (start plainQt plainApp plainEnv cachedStore)).store.session.isSome = true ∧
      ((run plainQt plainApp
          [plainStep (.reply 4 (okReply [("configs", .array [])])), plainStep (.call .refresh)]
          (run plainQt plainApp refusedRefresh (start plainQt plainApp plainEnv cachedStore))).log.drop
        (run plainQt plainApp refusedRefresh (start plainQt plainApp plainEnv cachedStore)).log.length).any
          (·.carries "token") = true ∧
      (run plainQt plainApp refusedLink (start plainQt plainApp plainEnv emailStore)).store.session.isSome = true ∧
      ((run plainQt plainApp [plainStep (.call .refresh)]
          (run plainQt plainApp refusedLink (start plainQt plainApp plainEnv emailStore))).log.drop
        (run plainQt plainApp refusedLink (start plainQt plainApp plainEnv emailStore)).log.length).any
          (·.carries "token") = true := by decide

end Refused

end TunnelCore.Account
