import TunnelCore.Account.Replies
import Mathlib.Logic.Relation

namespace TunnelCore.Account

variable {ρ : Type}

/-- The cached policies, in memory and in the storage, and the last one applied. -/
structure RoutingState where
  memory : String → Option JsonObject
  stored : String → JsonObject
  appliedKey : String
  appliedRevision : String

/-- What decides which replies are waited for and which policies are known, and what has been done. -/
structure Core where
  generation : BitVec 32
  reply : Option Nat
  pending : List Pending
  purchases : List Nat
  nextId : Nat
  log : List Event
  routing : RoutingState

def World.routing (w : World ρ) : RoutingState :=
  ⟨w.controller.routingCache, w.store.routingCache, w.controller.lastAppliedRoutingCacheKey,
    w.controller.lastAppliedRoutingRevision⟩

def World.core (w : World ρ) : Core :=
  ⟨w.controller.generation, w.controller.reply, w.pending, w.purchases, w.nextId, w.log, w.routing⟩

namespace RoutingState

def cached (s : RoutingState) (cacheKey : String) : JsonObject :=
  match s.memory cacheKey with
  | some cached => cached
  | none => if hasRules (s.stored cacheKey) then s.stored cacheKey else []

def look (s : RoutingState) (cacheKey : String) : RoutingState :=
  { s with
    memory :=
      match s.memory cacheKey with
      | some _ => s.memory
      | none =>
        if hasRules (s.stored cacheKey) then Function.update s.memory cacheKey (some (s.stored cacheKey))
        else s.memory }

def store (s : RoutingState) (cacheKey : String) (routing : JsonObject) : RoutingState :=
  { s with
    memory := Function.update s.memory cacheKey (some routing)
    stored := Function.update s.stored cacheKey routing }

def apply (s : RoutingState) (cacheKey revision : String) : RoutingState :=
  { s with appliedKey := cacheKey, appliedRevision := revision }

end RoutingState

def Event.isNote : Event → Bool
  | .sent _ _ | .delivered _ | .cleared | .purchaseStarted _ => false
  | _ => true

def Handler.isForeground : Handler → Bool
  | .background _ _ => false
  | _ => true

def Continuation.isSignIn : Continuation → Bool
  | .authenticate _ _ => true
  | _ => false

def Handler.isSignIn : Handler → Bool
  | .api _ continuation => continuation.isSignIn
  | _ => false

def Continuation.cacheKey : Continuation → Option String
  | .countryRouting _ cacheKey | .defaultRouting cacheKey => some cacheKey
  | _ => none

def Handler.cacheKey : Handler → Option String
  | .api _ continuation => continuation.cacheKey
  | .background cacheKey _ => some cacheKey
  | .download _ _ _ => none

def Endpoint.isRevoke : Endpoint → Bool
  | .devicesRevoke | .devicesRevokeAll => true
  | _ => false

def Request.isRevoke : Request → Bool
  | .api endpoint _ _ _ => endpoint.isRevoke
  | .download _ => false

def Request.isRegister : Request → Bool
  | .api .devicesRegister _ _ _ => true
  | _ => false

/-- Nothing is sent: other fields and the storage change, a signal is emitted, or the session is
cleared. -/
inductive Calm (w : World ρ) : World ρ → Prop
  | quiet {w' : World ρ} {r : RoutingState} (h : w'.core = { w.core with routing := r }) : Calm w w'
  | note {e : Event} (he : e.isNote = true) : Calm w (w.record e)
  | clear : Calm w (clearSession w)

/-- The account, its policies and the requests of a state; the other fields decide nothing here. -/
structure Frame where
  core : Core
  live : Session
  stored : Option Session
  busy : Bool
  country : String

def World.live (w : World ρ) : Session :=
  ⟨w.controller.token, w.controller.username, w.controller.emailAccount, w.controller.telegramLinked⟩

def World.frame (w : World ρ) : Frame :=
  ⟨w.core, w.live, w.store.session, w.controller.busy, w.controller.geoRoutingCountry⟩

def Frame.route (f : Frame) (routing : RoutingState) : Frame := { f with core := { f.core with routing := routing } }

def Frame.save (f : Frame) (session : Session) : Frame := { f with live := session, stored := some session }

def Request.token : Request → Option String
  | .api _ _ token _ => token
  | .download _ => none

def Request.isConfirm : Request → Bool
  | .api .billingAppleConfirm _ _ _ => true
  | _ => false

def Continuation.isBilling : Continuation → Bool
  | .billing => true
  | _ => false

def Handler.isBilling : Handler → Bool
  | .api _ continuation => continuation.isBilling
  | _ => false

/-- The replies after which the policy of the selected country is looked for. -/
def Continuation.reroutes : Continuation → Bool
  | .geoRoutingCountries | .selectVpnCountry => true
  | _ => false

def Handler.reroutes : Handler → Bool
  | .api _ continuation => continuation.reroutes
  | _ => false

def Continuation.takesFailure : Continuation → Bool
  | .me | .configs | .billing => false
  | _ => true

/-- A sign-in and a download carry no token; what `request` does itself about a failure depends on
the method. -/
def Handler.Fits : Handler → Request → Prop
  | .api post continuation, request =>
    (continuation.isSignIn = true → request.token = none) ∧ (continuation.takesFailure = true ∨ post = false)
  | .background _ _, _ => True
  | .download _ _ _, request => request.token = none

/-- What a call or a handler is entitled to: a session, a change of the route, a purchase, the keys
of the policies and the tokens it was answered with. -/
structure Scope where
  session : Prop
  reroutes : Prop
  purchases : Prop
  keys : String → Prop
  tokens : String → Prop

def Scope.plain : Scope := ⟨True, False, False, fun _ => False, fun _ => False⟩

inductive Adjusts (S : Scope) (qt : Qt) (app : App ρ) (w : World ρ) : World ρ → Prop
  | quiet {w' : World ρ} (h : w'.frame = w.frame) : Adjusts S qt app w w'
  | idle {w' : World ρ} (h : w'.frame = { w.frame with busy := false }) : Adjusts S qt app w w'
  | note {e : Event} (he : e.isNote = true) : Adjusts S qt app w (w.record e)
  | clear : Adjusts S qt app w (clearSession w)
  | link {w' : World ρ} {linked : Bool} (h : w'.frame = w.frame.save { w.live with telegramLinked := linked }) :
      Adjusts S qt app w w'
  | signIn {w' : World ρ} {session : Session} (ht : S.tokens session.token)
      (hv : validSession session.token session.username = true) (h : w'.frame = w.frame.save session) :
      Adjusts S qt app w w'
  | select {w' : World ρ} {country : String} (hr : S.reroutes) (h : w'.frame = { w.frame with country := country }) :
      Adjusts S qt app w w'
  | look {w' : World ρ} {cacheKey : String} (h : w'.frame = w.frame.route (w.routing.look cacheKey)) :
      Adjusts S qt app w w'
  | store {w' : World ρ} {cacheKey : String} {routing : JsonObject} (hk : S.keys cacheKey)
      (h : w'.frame = w.frame.route (w.routing.store cacheKey routing)) : Adjusts S qt app w w'
  | apply {w' : World ρ} {cacheKey : String} {routing : JsonObject} {settings : ρ}
      (hk : S.keys cacheKey ∨ S.reroutes ∧ w.routing.cached cacheKey = routing)
      (ha : (app.applyRouting routing settings).1 = none)
      (h : w'.frame = w.frame.route (w.routing.apply cacheKey (routingRevision qt routing))) : Adjusts S qt app w w'

def Silent (S : Scope) (qt : Qt) (app : App ρ) : World ρ → World ρ → Prop := Relation.ReflTransGen (Adjusts S qt app)

/-- A request that keeps the controller busy carries the token there is, or none. -/
structure Carries (app : App ρ) (w : World ρ) (handler : Handler) (request : Request) : Prop where
  foreground : handler.isForeground = true
  token : request.token = none ∨ request.token = some w.controller.token
  fits : handler.Fits request
  billing : handler.isBilling = true → app.platform = .ios

/-- Such a request apart from those of `logout` and of a purchase; the policy of the selected country
is asked for only if none is cached. -/
structure Sends (S : Scope) (qt : Qt) (app : App ρ) (w : World ρ) (handler : Handler) (request : Request) : Prop
    extends Carries app w handler request where
  revoke : request.isRevoke = false
  confirm : request.isConfirm = false
  session : S.session → handler.isSignIn = true ∨ w.controller.authenticated = true
  policy : ∀ cacheKey, handler.cacheKey = some cacheKey →
    S.reroutes ∧ cacheKey = currentKey qt app w ∧ hasRules (w.routing.cached cacheKey) = false

/-- A refresh in the background follows on the policy that has just been applied. -/
structure Refreshes (qt : Qt) (w : World ρ) (cacheKey : String) (request : Request) : Prop where
  revoke : request.isRevoke = false
  register : request.isRegister = false
  confirm : request.isConfirm = false
  token : request.token = some w.controller.token
  key : w.routing.appliedKey = cacheKey
  revision : w.routing.appliedRevision = routingRevision qt (w.routing.cached cacheKey)

/-- What a call or a handler does, apart from `logout` and `logoutAll`. -/
inductive Acts (S : Scope) (qt : Qt) (app : App ρ) (w : World ρ) : World ρ → Prop
  | silent {w₁ : World ρ} (h : Silent S qt app w w₁) : Acts S qt app w w₁
  | sends {w₁ : World ρ} {handler : Handler} {request : Request} (h : Silent S qt app w w₁)
      (hs : Sends S qt app w₁ handler request) : Acts S qt app w (w₁.sendForeground handler request)
  | purchases {w₁ : World ρ} {productId : String} (h : Silent S qt app w w₁) (hp : S.purchases)
      (ha : S.session → w₁.controller.authenticated = true) : Acts S qt app w (w₁.startPurchase productId)
  | background {w₁ w₂ : World ρ} {cacheKey country : String} {request : Request} (h : Acts S qt app w w₁)
      (hs : Refreshes qt w₁ cacheKey request) (hf : w₂.frame = (w₁.send (.background cacheKey country) request).frame) :
      Acts S qt app w w₂

section Rules

variable {S : Scope} {qt : Qt} {app : App ρ} {w w' : World ρ}

theorem Adjusts.calm (h : Adjusts S qt app w w') : Calm w w' := by
  cases h with
  | quiet h | idle h | link h | signIn _ _ h | select _ h => exact .quiet (r := w.routing) (congrArg Frame.core h)
  | look h | store _ h | apply _ _ h => exact .quiet (congrArg Frame.core h)
  | note he => exact .note he
  | clear => exact .clear

theorem Silent.quiet (h : w'.frame = w.frame) : Silent S qt app w w' := .single (.quiet h)

theorem Silent.trans {w w₁ w₂ : World ρ} (h₁ : Silent S qt app w w₁) (h₂ : Silent S qt app w₁ w₂) :
    Silent S qt app w w₂ := Relation.ReflTransGen.trans h₁ h₂

theorem Silent.invariant {I : World ρ → Prop} (h : Silent S qt app w w')
    (hI : ∀ w₁ w₂, Adjusts S qt app w₁ w₂ → I w₁ → I w₂) (hw : I w) : I w' := by
  induction h with
  | refl => exact hw
  | tail _ h ih => exact hI _ _ h ih

theorem Acts.after {w w₁ w₂ : World ρ} (h₁ : Silent S qt app w w₁) (h₂ : Acts S qt app w₁ w₂) :
    Acts S qt app w w₂ := by
  induction h₂ with
  | silent h => exact .silent (h₁.trans h)
  | sends h hs => exact .sends (h₁.trans h) hs
  | purchases h hp ha => exact .purchases (h₁.trans h) hp ha
  | background _ hs hf ih => exact .background ih hs hf

theorem Acts.ofFrame {w w₁ w₂ : World ρ} (h : Acts S qt app w₁ w₂) (hf : w₁.frame = w.frame) : Acts S qt app w w₂ :=
  .after (.quiet hf) h

end Rules

theorem clearSession_core_none {w : World ρ} (h : w.controller.reply = none) :
    (clearSession w).core =
      { w.core with
        generation := w.controller.generation + 1
        reply := none
        log := w.log ++ [.cleared]
        routing := w.routing.apply "" "" } := by
  simp [clearSession, abortReply, nextGeneration, World.modify, World.record, World.core, World.routing,
    RoutingState.apply, h]

theorem clearSession_core_some {w : World ρ} {id : Nat} (h : w.controller.reply = some id) :
    (clearSession w).core =
      { w.core with
        generation := w.controller.generation + 1
        reply := none
        pending := w.pending.filter (·.id ≠ id)
        log := (w.log ++ [.cleared]) ++ [.delivered id]
        routing := w.routing.apply "" "" } := by
  simp [clearSession, abortReply, nextGeneration, World.modify, World.record, World.finish, World.core, World.routing,
    RoutingState.apply, h]

theorem clearSession_keeps (w : World ρ) :
    (∀ p ∈ (clearSession w).pending, p ∈ w.pending) ∧ (clearSession w).nextId = w.nextId ∧
      (clearSession w).purchases = w.purchases := by
  cases hr : w.controller.reply with
  | none => simp [clearSession, abortReply, nextGeneration, World.modify, World.record, hr]
  | some id =>
    simp only [clearSession, abortReply, nextGeneration, World.modify, World.record, World.finish, hr, and_self, and_true]
    exact fun p hp => (List.mem_filter.mp hp).1

end TunnelCore.Account
