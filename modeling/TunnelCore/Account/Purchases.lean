import TunnelCore.Account.Logout
import TunnelCore.Account.Traffic

namespace TunnelCore.Account

variable {ρ : Type}

section

variable {qt : Qt} {app : App ρ} {env : Env} {w w' : World ρ}

/-- While a purchase is on its way, and a session is only left while the controller is not busy, the
token stays. -/
theorem Purchasing.token {id : Nat} {input : Input} (h : Purchasing id w) (hw : Transition qt app w input w')
    (hidle : ∀ c, input = .call c → c.isLogout = true → w.controller.authenticated = true → w.controller.busy = false) :
    w'.controller.token = w.controller.token := by
  have hbusy (c : UserCall) (hc : c.isLogout = true) (he : input = .call c) : False :=
    Bool.false_ne_true ((hidle c he hc h.authenticated).symm.trans h.busy)
  cases hw with
  | ignored | confirms => rfl
  | called _ _ _ hf => exact congrArg (·.live.token) (hf h.busy)
  | leaves _ ha => exact nomatch ha.symm.trans h.authenticated
  | unregistered hc _ => exact (hbusy _ hc rfl).elim
  | revokes hc _ _ _ _ => exact (hbusy _ hc rfl).elim
  | stale _ _ hf | bought _ hf => exact congrArg (·.live.token) hf
  | answered hp _ hf _ _ => exact nomatch (h.pending _ (List.mem_of_find?_eq_some hp)).symm.trans hf
  | refreshed _ _ _ h₁ hl => exact (congrArg (·.live.token) hl.frame).trans (congrArg (·.live.token) h₁)

theorem Silent.purchases {S : Scope} (hw : Silent S qt app w w') : w'.purchases = w.purchases := by
  induction hw with
  | refl => rfl
  | @tail w₁ w₂ _ h ih =>
    rw [← ih]
    cases h with
    | quiet hf | idle hf | link hf | signIn _ _ hf | select _ hf | look hf | store _ hf | apply _ _ hf =>
      exact congrArg (·.core.purchases) hf
    | note _ => rfl
    | clear => exact (clearSession_keeps w₁).2.2

theorem Acts.purchases_eq {S : Scope} (hw : Acts S qt app w w') (hS : ¬ S.purchases) : w'.purchases = w.purchases := by
  induction hw with
  | silent h => exact h.purchases
  | sends h _ => exact h.purchases
  | purchases _ hp _ => exact (hS hp).elim
  | background _ _ hf ih => exact (congrArg (·.core.purchases) hf).trans ih

theorem start_purchases (qt : Qt) (app : App ρ) (env : Env) (store : Store ρ) :
    (start qt app env store).purchases = [] := by
  obtain ⟨w₀, hinit, hstart⟩ := start_acts qt app env store
  exact (hstart.purchases_eq id).trans (congrArg Core.purchases hinit.core)

/-- The purchase was started by one of these events, in the session with this token. -/
def StartedWith (qt : Qt) (app : App ρ) (w : World ρ) (steps : List Step) (id : Nat) (token : String) : Prop :=
  ∃ before s after, steps = before ++ s :: after ∧ id ∉ (run qt app before w).purchases ∧
    id ∈ (s.run qt app (run qt app before w)).purchases ∧ (s.run qt app (run qt app before w)).controller.token = token

theorem startedWith_run (qt : Qt) (app : App ρ) (env : Env) (store : Store ρ) {steps : List Step}
    (h : Along (Step.run qt app) IdleLogout (start qt app env store) steps) {id : Nat}
    (hid : id ∈ (run qt app steps (start qt app env store)).purchases) :
    StartedWith qt app (start qt app env store) steps id (run qt app steps (start qt app env store)).controller.token := by
  induction steps using List.reverseRecOn with
  | nil =>
    rw [run, List.foldl_nil, start_purchases] at hid
    nomatch hid
  | append_singleton steps s ih =>
    obtain ⟨halong, hlast⟩ := h.concat
    have hrun : run qt app (steps ++ [s]) (start qt app env store) =
        s.run qt app (run qt app steps (start qt app env store)) := List.foldl_append ..
    rw [hrun] at hid ⊢
    by_cases hold : id ∈ (run qt app steps (start qt app env store)).purchases
    · have horder : Orderly (run qt app steps (start qt app env store)) :=
        Along.foldl (fun _ _ => orderly_step) (orderly_start qt app env store) halong
      obtain ⟨before, s₀, after, hsteps, hbefore, hstarted, htoken⟩ := ih halong hold
      refine ⟨before, s₀, after ++ [s], by rw [hsteps]; simp, hbefore, hstarted, htoken.trans ?_⟩
      refine ((horder.purchasing_of_mem hold).token (s.transition _) fun c hc => ?_).symm
      rw [IdleLogout, Step.isLogout, hc] at hlast
      exact hlast
    · exact ⟨steps, s, [], rfl, hold, hid, rfl⟩

end

/-- As long as a session is only left while the controller is not busy, each confirmation is sent by
the callback of a purchase, with the token of the session in which that purchase was started. -/
theorem confirmation_in_session_of_purchase (qt : Qt) (app : App ρ) (env : Env) (store : Store ρ) {steps : List Step}
    (h : Along (Step.run qt app) IdleLogout (start qt app env store) steps) {s : Step} {events : List Event}
    (hlog : (s.run qt app (run qt app steps (start qt app env store))).log =
      (run qt app steps (start qt app env store)).log ++ events)
    {n : Nat} {request : Request} (hsent : .sent n request ∈ events) (hconfirm : request.isConfirm = true) :
    ∃ id outcome token, s.input = .purchase id outcome ∧ request.token = some token ∧
      StartedWith qt app (start qt app env store) steps id token := by
  obtain ⟨events', hlog', hrequests⟩ := (s.transition (run qt app steps (start qt app env store))).traffic.events
  obtain rfl := List.append_cancel_left (hlog.symm.trans hlog')
  obtain ⟨id, outcome, hinput, hid, htoken⟩ := hrequests n request hsent hconfirm
  exact ⟨id, outcome, _, hinput, htoken, startedWith_run qt app env store h hid⟩

section AppStore

def iosApp : App Unit := { plainApp with platform := .ios }

/-- The device limit is reached, which leaves the controller idle; then the App Store is asked. -/
def untilPurchase : List Step :=
  [plainStep (.reply 0 ⟨409, true, some (.object [("error", .string "device_limit_reached")]), ""⟩),
    plainStep (.call .renewSubscription),
    plainStep (.reply 1 (okReply [("billing", .object [("methods", .array
      [.object [("type", .string "app_store"), ("product_id", .string "monthly")]])])]))]

def purchased : Step := plainStep (.purchase 2 (.succeeded "transaction" "monthly" "transaction" "Production"))

theorem purchase_confirmed_in_session :
    StartedWith plainQt iosApp (start plainQt iosApp plainEnv signedInStore) untilPurchase 2 "token" := by
  have halong : Along (Step.run plainQt iosApp) IdleLogout (start plainQt iosApp plainEnv signedInStore) untilPurchase :=
    ⟨nofun, nofun, nofun, trivial⟩
  obtain ⟨id, outcome, token, hinput, htoken, hstarted⟩ :=
    confirmation_in_session_of_purchase plainQt iosApp plainEnv signedInStore halong (s := purchased) rfl (.head _) rfl
  obtain ⟨rfl, -⟩ := Input.purchase.inj hinput
  obtain rfl := Option.some.inj htoken
  exact hstarted

def otherAccount : List Step :=
  [plainStep (.call .logout), plainStep (.reply 3 (okReply [])), plainStep (.call (.login "other" "password")),
    plainStep (.reply 4 (okReply [("access_token", .string "other token"), ("token_type", .string "bearer"),
      ("user", .object [("username", .string "other")])]))]

def confirmsWith (token : String) : Event → Bool
  | .sent _ request => request.isConfirm && request.token = some token
  | _ => false

theorem purchase_confirmed_for_other_account :
    (run plainQt iosApp untilPurchase (start plainQt iosApp plainEnv signedInStore)).purchases = [2] ∧
      (run plainQt iosApp untilPurchase (start plainQt iosApp plainEnv signedInStore)).controller.token = "token" ∧
      (run plainQt iosApp (untilPurchase ++ otherAccount ++ [purchased])
        (start plainQt iosApp plainEnv signedInStore)).log.any (confirmsWith "other token") = true := by decide

end AppStore

end TunnelCore.Account
