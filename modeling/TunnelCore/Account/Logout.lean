import TunnelCore.Account.Transitions
import TunnelCore.Library.Runs

namespace TunnelCore.Account

variable {ρ : Type}

def openAfter (waiting : List Nat) : Event → List Nat
  | .sent id request => if request.isRevoke then waiting ++ [id] else waiting
  | .delivered id => waiting.filter (· ≠ id)
  | _ => waiting

/-- The revoke requests of a log that have been sent and whose replies have not been delivered. -/
def openRevokes (log : List Event) : List Nat := log.foldl openAfter []

def RegistersFree (log : List Event) : Prop :=
  ∀ a id request b, log = a ++ .sent id request :: b → request.isRegister = true → openRevokes a = []

theorem openRevokes_concat (log : List Event) (e : Event) :
    openRevokes (log ++ [e]) = openAfter (openRevokes log) e := by
  rw [openRevokes, List.foldl_append]
  rfl

theorem RegistersFree.concat {log : List Event} (h : RegistersFree log) {e : Event}
    (he : ∀ id request, e = .sent id request → request.isRegister = true → openRevokes log = []) :
    RegistersFree (log ++ [e]) := by
  intro a id request b hlog hr
  rcases split_concat hlog with ⟨rfl, hsent, -⟩ | ⟨b', -, hold⟩
  · exact he id request hsent hr
  · exact h a id request b' hold hr

structure Free (k : Core) : Prop where
  pending : ∀ p ∈ k.pending, p.handler.isForeground = false
  purchases : k.purchases = []
  revokes : openRevokes k.log = []
  registers : RegistersFree k.log

structure Waiting (id : Nat) (w : World ρ) : Prop where
  busy : w.controller.busy = true
  reply : w.controller.reply = some id
  pending : ∀ p ∈ w.pending, p.handler.isForeground = true → p.id = id ∧ p.generation = w.controller.generation ∧
    (p.handler.isSignIn = true ∨ w.controller.authenticated = true)
  purchases : w.purchases = []
  revokes : ∀ r ∈ openRevokes w.log, r = id
  registers : RegistersFree w.log

structure Purchasing (id : Nat) (w : World ρ) : Prop where
  busy : w.controller.busy = true
  authenticated : w.controller.authenticated = true
  pending : ∀ p ∈ w.pending, p.handler.isForeground = false
  purchases : w.purchases = [id]
  revokes : openRevokes w.log = []
  registers : RegistersFree w.log

inductive Orderly (w : World ρ) : Prop
  | free (h : Free w.core)
  | waiting (id : Nat) (h : Waiting id w)
  | purchasing (id : Nat) (h : Purchasing id w)

namespace Free

variable {k : Core}

theorem record (h : Free k) {e : Event} (hs : ∀ id request, e ≠ .sent id request) :
    Free { k with log := k.log ++ [e] } where
  pending := h.pending
  purchases := h.purchases
  revokes := by
    rw [openRevokes_concat, h.revokes]
    cases e with
    | sent id request => exact (hs id request rfl).elim
    | _ => rfl
  registers := h.registers.concat fun id request he => (hs id request he).elim

theorem finish (h : Free k) (id : Nat) :
    Free { k with pending := k.pending.filter (·.id ≠ id), log := k.log ++ [.delivered id] } :=
  have hrec := h.record (e := .delivered id) nofun
  ⟨fun p hp => h.pending p (List.mem_filter.mp hp).1, h.purchases, hrec.revokes, hrec.registers⟩

theorem change (h : Free k) (generation : BitVec 32) (reply : Option Nat) (routing : RoutingState) :
    Free { k with generation := generation, reply := reply, routing := routing } :=
  ⟨h.pending, h.purchases, h.revokes, h.registers⟩

end Free

section Effects

variable {S : Scope} {qt : Qt} {app : App ρ} {w w' : World ρ}

theorem free_clearSession (h : Free w.core) : Free (clearSession w).core := by
  have hcleared := h.record (e := .cleared) nofun
  cases hr : w.controller.reply with
  | none => exact clearSession_core_none hr ▸ hcleared.change _ _ _
  | some id => exact clearSession_core_some hr ▸ (hcleared.finish id).change _ _ _

theorem Silent.free (hw : Silent S qt app w w') (h : Free w.core) : Free w'.core := by
  refine hw.invariant (I := fun w => Free w.core) (fun w₁ w₂ hstep h => ?_) h
  cases hstep.calm with
  | quiet hc => exact hc ▸ h.change _ _ _
  | note he => exact h.record fun _ _ heq => by subst heq; nomatch he
  | clear => exact free_clearSession h

theorem Free.sendForeground (h : Free w.core) {handler : Handler}
    (ha : handler.isSignIn = true ∨ w.controller.authenticated = true) (request : Request) :
    Waiting w.nextId (w.sendForeground handler request) where
  busy := rfl
  reply := rfl
  pending p hp hf := by
    rcases List.mem_append.mp hp with hold | hnew
    · exact nomatch hf.symm.trans (h.pending p hold)
    · obtain rfl := List.mem_singleton.mp hnew
      exact ⟨rfl, rfl, ha⟩
  purchases := h.purchases
  revokes r hr := by
    have hopen : openRevokes (w.sendForeground handler request).log =
        if request.isRevoke then openRevokes w.log ++ [w.nextId] else openRevokes w.log := openRevokes_concat _ _
    rw [hopen, show openRevokes w.log = [] from h.revokes] at hr
    split at hr
    · exact List.mem_singleton.mp hr
    · nomatch hr
  registers := h.registers.concat fun _ _ _ _ => h.revokes

theorem Free.startPurchase (h : Free w.core) (ha : w.controller.authenticated = true) (productId : String) :
    Purchasing w.nextId (w.startPurchase productId) := by
  have hrec := h.record (e := .purchaseStarted productId) nofun
  exact ⟨rfl, ha, h.pending, congrArg (· ++ [w.nextId]) h.purchases, hrec.revokes, hrec.registers⟩

/-- Background requests are sent and replies go; the rest of the core, `m_busy` and the token stay. -/
structure Undisturbed (w w' : World ρ) : Prop where
  busy : w'.controller.busy = w.controller.busy
  token : w'.controller.token = w.controller.token
  generation : w'.controller.generation = w.controller.generation
  reply : w'.controller.reply = w.controller.reply
  purchases : w'.purchases = w.purchases
  pending : ∀ p ∈ w'.pending, p.handler.isForeground = true → p ∈ w.pending
  revokes : openRevokes w'.log ⊆ openRevokes w.log
  registers : RegistersFree w.log → RegistersFree w'.log

theorem Orderly.undisturbed (h : Orderly w) (hu : Undisturbed w w') : Orderly w' := by
  have hauth : w'.controller.authenticated = w.controller.authenticated := by
    rw [Controller.authenticated, hu.token, Controller.authenticated]
  have hnone (h : ∀ p ∈ w.pending, p.handler.isForeground = false) (p : Pending) (hp : p ∈ w'.pending) :
      p.handler.isForeground = false := by
    by_contra hf
    rw [Bool.not_eq_false] at hf
    exact Bool.false_ne_true ((h p (hu.pending p hp hf)).symm.trans hf)
  have hnil (h : openRevokes w.log = []) : openRevokes w'.log = [] := List.subset_nil.mp (h ▸ hu.revokes)
  cases h with
  | free h =>
    exact .free ⟨hnone h.pending, hu.purchases.trans h.purchases, hnil h.revokes, hu.registers h.registers⟩
  | waiting id h =>
    refine .waiting id ⟨hu.busy.trans h.busy, hu.reply.trans h.reply, fun p hp hf => ?_,
      hu.purchases.trans h.purchases, fun r hr => h.revokes r (hu.revokes hr), hu.registers h.registers⟩
    rw [hu.generation, hauth]
    exact h.pending p (hu.pending p hp hf) hf
  | purchasing id h =>
    exact .purchasing id ⟨hu.busy.trans h.busy, hauth.trans h.authenticated, hnone h.pending,
      hu.purchases.trans h.purchases, hnil h.revokes, hu.registers h.registers⟩

theorem undisturbed_of_frame {pending : List Pending} {nextId : Nat} {log : List Event} {routing : RoutingState}
    (h : w'.frame = { w.frame with core :=
      { w.core with pending := pending, nextId := nextId, log := log, routing := routing } })
    (hp : ∀ p ∈ pending, p.handler.isForeground = true → p ∈ w.pending)
    (hrevokes : openRevokes log ⊆ openRevokes w.log) (hregisters : RegistersFree w.log → RegistersFree log) :
    Undisturbed w w' where
  busy := congrArg Frame.busy h
  token := congrArg (·.live.token) h
  generation := congrArg (·.core.generation) h
  reply := congrArg (·.core.reply) h
  purchases := congrArg (·.core.purchases) h
  pending := (show w'.pending = pending from congrArg (·.core.pending) h) ▸ hp
  revokes := (show w'.log = log from congrArg (·.core.log) h) ▸ hrevokes
  registers := (show w'.log = log from congrArg (·.core.log) h) ▸ hregisters

theorem undisturbed_background {handler : Handler} {request : Request}
    (hf : handler.isForeground = false) (hr : request.isRevoke = false) (hg : request.isRegister = false)
    (h : w'.frame = (w.send handler request).frame) : Undisturbed w w' := by
  refine undisturbed_of_frame h (fun p hp hpf => ?_) ?_ fun hfree => hfree.concat fun id r he hreg => ?_
  · rcases List.mem_append.mp hp with hp | hp
    · exact hp
    · obtain rfl := List.mem_singleton.mp hp
      exact nomatch hpf.symm.trans hf
  · change openRevokes (w.log ++ [.sent w.nextId request]) ⊆ _
    rw [openRevokes_concat, openAfter, if_neg (by simp [hr])]
    exact List.Subset.refl _
  · obtain ⟨-, rfl⟩ := Event.sent.inj he
    exact nomatch hreg.symm.trans hg

theorem undisturbed_finish {id : Nat} {routing : RoutingState} (h : w'.frame = (w.finish id).frame.route routing) :
    Undisturbed w w' := by
  refine undisturbed_of_frame h (fun p hp _ => (List.mem_filter.mp hp).1) ?_ fun hfree => hfree.concat nofun
  change openRevokes (w.log ++ [.delivered id]) ⊆ _
  rw [openRevokes_concat]
  exact List.filter_sublist.subset

theorem undisturbed_same (h : w'.frame = w.frame) : Undisturbed w w' :=
  undisturbed_of_frame (by exact h) (fun _ hp _ => hp) (List.Subset.refl _) id

theorem Acts.orderly (hw : Acts S qt app w w') (hsession : S.session) (h : Free w.core) : Orderly w' := by
  induction hw with
  | silent hc => exact .free (hc.free h)
  | sends hc hs => exact .waiting _ ((hc.free h).sendForeground (hs.session hsession) _)
  | purchases hc _ ha => exact .purchasing _ ((hc.free h).startPurchase (ha hsession) _)
  | background _ hs hf ih => exact ih.undisturbed (undisturbed_background rfl hs.revoke hs.register hf)

end Effects

section Steps

variable {qt : Qt} {app : App ρ} {env : Env} {w : World ρ}

theorem Orderly.free_of_idle (h : Orderly w) (hb : w.controller.busy = false) : Free w.core := by
  cases h with
  | free h => exact h
  | waiting id h => exact nomatch hb.symm.trans h.busy
  | purchasing id h => exact nomatch hb.symm.trans h.busy

theorem Orderly.waiting_of_pending (h : Orderly w) {p : Pending} (hp : p ∈ w.pending)
    (hf : p.handler.isForeground = true) : Waiting p.id w := by
  cases h with
  | free h => exact nomatch hf.symm.trans (h.pending p hp)
  | waiting id h => exact (h.pending p hp hf).1 ▸ h
  | purchasing id h => exact nomatch hf.symm.trans (h.pending p hp)

theorem Waiting.finish {id : Nat} (h : Waiting id w) {log : List Event} (hopen : openRevokes log = openRevokes w.log)
    (hregisters : RegistersFree log) (generation : BitVec 32) (routing : RoutingState) :
    Free { w.core with
      generation := generation
      reply := none
      pending := w.pending.filter (·.id ≠ id)
      log := log ++ [.delivered id]
      routing := routing } where
  pending p hp := by
    obtain ⟨hp, hne⟩ := List.mem_filter.mp hp
    by_contra hf
    rw [Bool.not_eq_false] at hf
    exact absurd (h.pending p hp hf).1 (by simpa using hne)
  purchases := h.purchases
  revokes := by
    rw [openRevokes_concat, hopen, openAfter, List.filter_eq_nil_iff]
    intro r hr
    simpa using h.revokes r hr
  registers := hregisters.concat nofun

theorem free_cancel (h : Orderly w) (ha : w.controller.authenticated = false) : Free (clearSession w).core := by
  cases h with
  | free h => exact free_clearSession h
  | waiting id h =>
    exact clearSession_core_some h.reply ▸
      h.finish (openRevokes_concat _ _) (h.registers.concat (e := .cleared) nofun) _ _
  | purchasing id h => exact nomatch ha.symm.trans h.authenticated

end Steps

def Step.isLogout (s : Step) : Bool :=
  match s.input with
  | .call c => c.isLogout
  | _ => false

def IdleLogout (w : World ρ) (s : Step) : Prop :=
  s.isLogout = true → w.controller.authenticated = true → w.controller.busy = false

theorem Free.ofCore {k : Core} (h : Free k) {w : World ρ} (hc : w.core = k) : Free w.core := hc ▸ h

section Run

variable {qt : Qt} {app : App ρ} {w w' : World ρ}

theorem Orderly.purchasing_of_mem (h : Orderly w) {id : Nat} (hid : id ∈ w.purchases) : Purchasing id w := by
  cases h with
  | free h => exact nomatch (show w.purchases = [] from h.purchases) ▸ hid
  | waiting _ h => exact nomatch h.purchases ▸ hid
  | purchasing bought h => exact (List.mem_singleton.mp (h.purchases ▸ hid)) ▸ h

theorem Purchasing.free_bought {id : Nat} (h : Purchasing id w) : Free (w.bought id).core :=
  ⟨h.pending, by simp [World.core, World.bought, h.purchases], h.revokes, h.registers⟩

theorem Transition.orderly {input : Input} (hw : Transition qt app w input w') (h : Orderly w)
    (hidle : ∀ c, input = .call c → c.isLogout = true → w.controller.authenticated = true → w.controller.busy = false) :
    Orderly w' := by
  cases hw with
  | ignored => exact h
  | called _ hacts _ hbusy =>
    cases hb : w.controller.busy with
    | true => exact h.undisturbed (undisturbed_same (hbusy hb))
    | false => exact hacts.orderly trivial (h.free_of_idle hb)
  | leaves _ ha => exact .free (free_cancel h ha)
  | unregistered hc ha => exact .free (h.free_of_idle (hidle _ rfl hc ha))
  | revokes hc ha _ _ _ => exact .waiting _ ((h.free_of_idle (hidle _ rfl hc ha)).sendForeground (.inr ha) _)
  | stale _ _ hf => exact h.undisturbed (undisturbed_finish hf)
  | @answered id _ p _ hp _ hf hacts _ =>
    have hmem := List.mem_of_find?_eq_some hp
    obtain rfl : p.id = id := by simpa using List.find?_some hp
    have hwait := h.waiting_of_pending hmem hf
    obtain ⟨-, -, ha⟩ := hwait.pending p hmem hf
    have hdone : Free (w.answered p.id).core := hwait.finish rfl hwait.registers _ _
    exact hacts.orderly ha hdone
  | refreshed _ _ _ h₁ hl =>
    exact h.undisturbed (undisturbed_finish (hl.frame.trans (congrArg (Frame.route · w'.routing) h₁)))
  | bought hid hf => exact .free ((h.purchasing_of_mem hid).free_bought.ofCore (congrArg Frame.core hf))
  | confirms hid _ =>
    have hpurchasing := h.purchasing_of_mem hid
    exact .waiting _ (hpurchasing.free_bought.sendForeground (.inr hpurchasing.authenticated) _)

theorem orderly_step {s : Step} (h : Orderly w) (hs : IdleLogout w s) : Orderly (s.run qt app w) := by
  refine (s.transition w).orderly h fun c hc => ?_
  rw [IdleLogout, Step.isLogout, hc] at hs
  exact hs

theorem Initial.free {store : Store ρ} (h : Initial store w) : Free w.core := by
  rw [h.core]
  exact ⟨nofun, rfl, rfl, fun a id request b hlog => by simp at hlog⟩

theorem orderly_start (qt : Qt) (app : App ρ) (env : Env) (store : Store ρ) : Orderly (start qt app env store) := by
  obtain ⟨w₀, hinit, hstart⟩ := start_acts qt app env store
  exact hstart.orderly trivial hinit.free

end Run

/-- When `logout` and `logoutAll` are called like all other calls, the device is never registered
between a revoke and its reply. -/
theorem registers_free_of_idle_logout (qt : Qt) (app : App ρ) (env : Env) (store : Store ρ) {steps : List Step}
    (h : Along (Step.run qt app) IdleLogout (start qt app env store) steps) :
    RegistersFree (run qt app steps (start qt app env store)).log := by
  have horder : Orderly (run qt app steps (start qt app env store)) :=
    Along.foldl (fun _ _ => orderly_step) (orderly_start qt app env store) h
  cases horder with
  | free h => exact h.registers
  | waiting _ h => exact h.registers
  | purchasing _ h => exact h.registers

theorem registers_free_after_device_limit :
    RegistersFree (run plainQt plainApp
      [plainStep (.reply 0 ⟨409, true, some (.object [("error", .string "device_limit_reached")]), ""⟩),
        plainStep (.call .logout), plainStep (.reply 1 (okReply []))]
      (start plainQt plainApp plainEnv signedInStore)).log :=
  registers_free_of_idle_logout plainQt plainApp plainEnv signedInStore
    ⟨nofun, fun _ _ => rfl, nofun, trivial⟩

/-- The account is being refreshed when the user logs out; the country selection then finds that the
server does not know the device. -/
def logoutDuringRefresh : List Step :=
  [plainStep (.reply 0 (okReply [("device", .object [("device_id", .string "device")])])),
    plainStep (.reply 1 (okReply [("subscriptions", .array [])])),
    plainStep (.call .logout),
    plainStep (.reply 2 ⟨404, true, some (.object [("error", .string "device_not_found")]), ""⟩)]

theorem device_registered_during_revoke :
    ¬ RegistersFree (run plainQt plainApp logoutDuringRefresh (start plainQt plainApp plainEnv signedInStore)).log := by
  intro h
  have hopen := h ((run plainQt plainApp logoutDuringRefresh (start plainQt plainApp plainEnv signedInStore)).log.take 8)
    4 (.api .devicesRegister true (some "token") [("device_id", .string "device"), ("platform", .string "linux")]) []
    rfl rfl
  nomatch hopen

end TunnelCore.Account
