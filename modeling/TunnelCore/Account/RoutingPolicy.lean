import TunnelCore.Account.Transitions

namespace TunnelCore.Account

variable {ρ : Type}

def readRule (qt : Qt) (value : Json) : Except String (Bool × String) :=
  if !value.isObject then .error "The server returned an invalid VPN routing rule."
  else
    let rule := value.toObject
    let type := qt.toLower (qt.trimmed (rule.value "type").toString)
    let route := qt.toLower (qt.trimmed (rule.value "route").toString)
    let ruleValue := qt.toLower (qt.trimmed (rule.value "value").toString)
    if (type ≠ "domain" && type ≠ "ip") || (route ≠ "direct" && route ≠ "vpn") || ruleValue = "" then
      .error "The server returned an unsupported VPN routing rule."
    else .ok (route = "direct", ruleValue)

/-- The part of the `applyRouting` callback of `CoreController` that decides on a policy. -/
def readPolicy (qt : Qt) (routing : JsonObject) : Except String (List (Bool × String)) :=
  if !(routing.value "rules").isArray then .error "The server returned an invalid VPN routing rule list."
  else
    match (routing.value "rules").toArray.mapM (readRule qt) with
    | .error message => .error message
    | .ok sites =>
      if sites.any (·.1) && sites.any (!·.1) then
        .error "The server returned mixed direct and VPN routing rules, which this client version cannot apply safely."
      else .ok sites

/-- The callbacks of `CoreController`; `write` changes the split-tunneling settings to the sites of
an accepted policy. -/
def coreApp (qt : Qt) (platform : Platform) (write : List (Bool × String) → ρ → ρ) : App ρ where
  platform := platform
  applyRouting routing settings :=
    match readPolicy qt routing with
    | .error message => (some message, settings)
    | .ok sites => (none, write sites settings)
  openUrl _ := true
  notifies := true

section

variable (qt : Qt) (app : App ρ)

/-- The policy cached for the current key is not the last one applied, and the callback rejects it. -/
structure Rejected (w : World ρ) (message : String) : Prop where
  rules : hasRules (cachedRouting (currentKey qt app w) w).1 = true
  changed : alreadyApplied qt (currentKey qt app w) (cachedRouting (currentKey qt app w) w).1 w.controller = false
  rejected : (app.applyRouting (cachedRouting (currentKey qt app w) w).1 w.store.routing).1 = some message

def requestsPolicy (country : String) (events : List Event) : Bool :=
  events.any fun
    | .sent _ (.api endpoint _ _ _) => endpoint = routingEndpoint app country
    | _ => false

end

/-- The callback rejects the cached policy with any settings, as the one of `CoreController` does; it
is the stored one, and no request for another is on its way. -/
structure Stuck (qt : Qt) (app : App ρ) (w : World ρ) : Prop where
  rejects : ∀ settings, (app.applyRouting (cachedRouting (currentKey qt app w) w).1 settings).1 ≠ none
  stored : w.store.routingCache (currentKey qt app w) = (cachedRouting (currentKey qt app w) w).1
  idle : ∀ p ∈ w.pending, p.handler.cacheKey ≠ some (currentKey qt app w)

/-- The policy of a key that the callback rejects with any settings. -/
structure Refused (app : App ρ) (key : String) (policy : JsonObject) : Prop where
  key : key ≠ ""
  rules : hasRules policy = true
  rejects : ∀ settings, (app.applyRouting policy settings).1 ≠ none

/-- `policy` is all that is known for `key`, and not the policy that is applied. -/
structure Wedged (qt : Qt) (key : String) (policy : JsonObject) (s : RoutingState) : Prop where
  stored : s.stored key = policy
  cached : s.cached key = policy
  unapplied : ¬ (s.appliedKey = key ∧ s.appliedRevision = routingRevision qt policy)

namespace Wedged

variable {qt : Qt} {app : App ρ} {key cacheKey : String} {policy : JsonObject} {s : RoutingState}

theorem look (h : Wedged qt key policy s) (cacheKey : String) : Wedged qt key policy (s.look cacheKey) :=
  ⟨h.stored, (look_cached s cacheKey key).trans h.cached, h.unapplied⟩

theorem forget (h : Wedged qt key policy s) (hr : Refused app key policy) : Wedged qt key policy (s.apply "" "") :=
  ⟨h.stored, h.cached, fun ha => hr.key ha.1.symm⟩

theorem store (h : Wedged qt key policy s) (hne : cacheKey ≠ key) (routing : JsonObject) :
    Wedged qt key policy (s.store cacheKey routing) where
  stored := (Function.update_of_ne hne.symm _ _).trans h.stored
  cached := by
    rw [← h.cached]
    simp [RoutingState.cached, RoutingState.store, hne.symm]
  unapplied := h.unapplied

theorem apply (h : Wedged qt key policy s) (hr : Refused app key policy) {routing : JsonObject} {settings : ρ}
    (hk : cacheKey ≠ key ∨ s.cached cacheKey = routing) (ha : (app.applyRouting routing settings).1 = none) :
    Wedged qt key policy (s.apply cacheKey (routingRevision qt routing)) := by
  refine ⟨h.stored, h.cached, fun happlied => ?_⟩
  obtain rfl : cacheKey = key := happlied.1
  rcases hk with hne | hcached
  · exact hne rfl
  · exact hr.rejects settings (by rwa [← h.cached, hcached])

theorem asks (h : Wedged qt key policy s) (hr : Refused app key policy)
    (hnone : hasRules (s.cached cacheKey) = false) : cacheKey ≠ key := by
  rintro rfl
  rw [h.cached, hr.rules] at hnone
  nomatch hnone

theorem refreshes (h : Wedged qt key policy s) (hk : s.appliedKey = cacheKey)
    (hrevision : s.appliedRevision = routingRevision qt (s.cached cacheKey)) : cacheKey ≠ key := by
  rintro rfl
  exact h.unapplied ⟨hk, by rw [hrevision, h.cached]⟩

theorem restart (h : Wedged qt key policy s) (hr : Refused app key policy) :
    Wedged qt key policy ⟨fun _ => none, s.stored, "", ""⟩ := by
  refine ⟨h.stored, ?_, fun ha => hr.key ha.1.symm⟩
  rw [RoutingState.cached, h.stored, hr.rules]
  rfl

end Wedged

section Guarded

variable {S : Scope} {qt : Qt} {app : App ρ} {key : String} {policy : JsonObject} {w w' : World ρ}

/-- The policy of the key is wedged, and nothing waits to store another one for it. -/
structure Guarded (qt : Qt) (key : String) (policy : JsonObject) (w : World ρ) : Prop where
  routing : Wedged qt key policy w.routing
  pending : ∀ p ∈ w.pending, p.handler.cacheKey ≠ some key

theorem Guarded.ofPending (h : Guarded qt key policy w) (hr : Wedged qt key policy w'.routing)
    (hp : ∀ p ∈ w'.pending, p ∈ w.pending) : Guarded qt key policy w' := ⟨hr, fun p hm => h.pending p (hp p hm)⟩

theorem Guarded.route (h : Guarded qt key policy w) {routing : RoutingState}
    (hc : w'.core = { w.core with routing := routing }) (hr : Wedged qt key policy routing) :
    Guarded qt key policy w' := by
  have hrouting : w'.routing = routing := congrArg Core.routing hc
  have hpending : w'.pending = w.pending := congrArg Core.pending hc
  exact h.ofPending (hrouting ▸ hr) fun p hm => hpending ▸ hm

theorem Guarded.ofFrame (h : Guarded qt key policy w) (hf : w'.frame = w.frame) : Guarded qt key policy w' :=
  h.route (congrArg Frame.core hf) h.routing

theorem guarded_clearSession (hr : Refused app key policy) (h : Guarded qt key policy w) :
    Guarded qt key policy (clearSession w) := by
  refine h.ofPending ?_ (clearSession_keeps w).1
  have hrouting : (clearSession w).routing = w.routing.apply "" "" := by
    cases hreply : w.controller.reply with
    | none => exact congrArg Core.routing (clearSession_core_none hreply)
    | some id => exact congrArg Core.routing (clearSession_core_some hreply)
  exact hrouting ▸ h.routing.forget hr

theorem Silent.guarded (hr : Refused app key policy) (hS : ¬ S.keys key) (hw : Silent S qt app w w')
    (h : Guarded qt key policy w) : Guarded qt key policy w' := by
  refine hw.invariant (fun w₁ w₂ hstep h => ?_) h
  have hne {cacheKey : String} (hk : S.keys cacheKey) : cacheKey ≠ key := fun he => hS (he ▸ hk)
  cases hstep with
  | quiet hf | idle hf | link hf | signIn _ _ hf | select _ hf => exact h.route (congrArg Frame.core hf) h.routing
  | note => exact h.ofPending h.routing fun _ => id
  | clear => exact guarded_clearSession hr h
  | look hf => exact h.route (congrArg Frame.core hf) (h.routing.look _)
  | store hk hf => exact h.route (congrArg Frame.core hf) (h.routing.store (hne hk) _)
  | apply hk ha hf => exact h.route (congrArg Frame.core hf) (h.routing.apply hr (hk.imp hne And.right) ha)

theorem Guarded.send (h : Guarded qt key policy w) {handler : Handler} (hk : handler.cacheKey ≠ some key)
    {generation : BitVec 32} (hr : w'.routing = w.routing)
    (hc : w'.pending = w.pending ++ [⟨w.nextId, generation, handler⟩]) : Guarded qt key policy w' where
  routing := hr ▸ h.routing
  pending p hm := by
    rcases List.mem_append.mp (hc ▸ hm) with hm | hm
    · exact h.pending p hm
    · obtain rfl := List.mem_singleton.mp hm
      exact hk

theorem Acts.guarded (hr : Refused app key policy) (hS : ¬ S.keys key) (hw : Acts S qt app w w')
    (h : Guarded qt key policy w) : Guarded qt key policy w' := by
  induction hw with
  | silent hc => exact hc.guarded hr hS h
  | sends hc hs =>
    have hg := hc.guarded hr hS h
    refine hg.send (fun hk => ?_) rfl rfl
    obtain ⟨-, -, hnone⟩ := hs.policy key hk
    exact hg.routing.asks hr hnone rfl
  | purchases hc _ _ =>
    have hg := hc.guarded hr hS h
    exact hg.ofPending hg.routing fun _ => id
  | background _ hs hf ih =>
    refine ih.send (fun hk => ?_) (congrArg (·.core.routing) hf) (congrArg (·.core.pending) hf)
    exact ih.routing.refreshes hs.key hs.revision (Option.some.inj hk)

theorem Learns.guarded {cacheKey : String} (hl : Learns cacheKey w w') (hne : cacheKey ≠ key)
    (h : Guarded qt key policy w) : Guarded qt key policy w' := by
  cases hl with
  | nothing => exact h
  | looks hf => exact h.route (congrArg Frame.core hf) (h.routing.look _)
  | stores hf => exact h.route (congrArg Frame.core hf) ((h.routing.look _).store hne _)

theorem Guarded.finish (h : Guarded qt key policy w) (id : Nat) : Guarded qt key policy (w.finish id) :=
  h.ofPending h.routing fun _ hm => (List.mem_filter.mp hm).1

theorem Transition.guarded {input : Input} (hw : Transition qt app w input w') (hr : Refused app key policy)
    (h : Guarded qt key policy w) : Guarded qt key policy w' := by
  cases hw with
  | ignored => exact h
  | called _ hacts _ _ => exact hacts.guarded hr id h
  | leaves => exact guarded_clearSession hr h
  | unregistered => exact h.ofPending h.routing fun _ => id
  | revokes _ _ _ hk _ => exact h.send (fun he => nomatch hk.symm.trans he) rfl rfl
  | @stale id _ _ _ _ _ hf => exact (h.finish id).ofFrame hf
  | @answered id _ p _ hfind _ _ hacts _ =>
    have hdone : Guarded qt key policy (w.answered id) := (h.finish id).ofPending h.routing fun _ hm => hm
    exact hacts.guarded hr (h.pending p (List.mem_of_find?_eq_some hfind)) hdone
  | @refreshed id _ p cacheKey w₁ _ hfind _ hk h₁ hl =>
    refine hl.guarded (fun he => ?_) ((h.finish id).ofFrame h₁)
    exact h.pending p (List.mem_of_find?_eq_some hfind) (he ▸ hk)
  | @bought id _ _ _ hf =>
    have hbought : Guarded qt key policy (w.bought id) := h.ofPending h.routing fun _ hm => hm
    exact hbought.ofFrame hf
  | confirms _ hc =>
    obtain ⟨transactionId, rfl⟩ := hc
    exact h.send (by exact nofun) rfl rfl

theorem guarded_start (hr : Refused app key policy) {s : RoutingState} (h : Wedged qt key policy s) (env : Env)
    {store : Store ρ} (hs : store.routingCache = s.stored) : Guarded qt key policy (start qt app env store) := by
  obtain ⟨w₀, hinit, hstart⟩ := start_acts qt app env store
  refine hstart.guarded hr id ⟨?_, ?_⟩
  · rw [show w₀.routing = _ from congrArg Core.routing hinit.core, hs]
    exact h.restart hr
  · rw [show w₀.pending = _ from congrArg Core.pending hinit.core]
    nofun

/-- What may follow on a state: any events, and restarts with what is stored then. -/
inductive Continues (qt : Qt) (app : App ρ) (w : World ρ) : World ρ → Prop
  | refl : Continues qt app w w
  | step {w₁ : World ρ} (s : Step) : Continues qt app w w₁ → Continues qt app w (s.run qt app w₁)
  | restart {w₁ : World ρ} (env : Env) : Continues qt app w w₁ → Continues qt app w (start qt app env w₁.store)

theorem Continues.guarded (hr : Refused app key policy) (hw : Continues qt app w w') (h : Guarded qt key policy w) :
    Guarded qt key policy w' := by
  induction hw with
  | refl => exact h
  | step s _ ih => exact (s.transition _).guarded hr ih
  | restart env _ ih => exact guarded_start hr ih.routing env rfl

end Guarded

section Rejection

variable {qt : Qt} {app : App ρ} {w : World ρ}

theorem routingCacheKey_ne_empty (qt : Qt) (app : App ρ) (country : String) : routingCacheKey qt app country ≠ "" := by
  rw [routingCacheKey]
  split <;> simp [toString]

theorem applyRouting_rejected {cacheKey message : String} {routing : JsonObject} {settings : ρ}
    (hr : hasRules routing = true) (hc : alreadyApplied qt cacheKey routing w.controller = false)
    (ha : app.applyRouting routing w.store.routing = (some message, settings)) :
    applyRouting qt app cacheKey routing true w =
      (false, fail (if message = "" then "Could not apply the VPN routing rules." else message)
        { w with store := { w.store with routing := settings } }) := by
  rw [applyRouting, hr, hc, ha]
  rfl

theorem refreshRouting_rejected (env : Env) {message : String} (h : Rejected qt app w message) :
    (refreshRouting qt app env w).pending = w.pending ∧ (refreshRouting qt app env w).controller.busy = false ∧
      (refreshRouting qt app env w).log = w.log := by
  obtain ⟨hrules, hchanged, hrejected⟩ := h
  rw [refreshRouting]
  rw [currentKey, currentCountry, cachedRouting_eq] at *
  generalize routingCacheKey qt app _ = cacheKey at *
  generalize w.routing.cached cacheKey = cached at *
  generalize hw₁ : ({ w with controller := _ } : World ρ) = w₁ at *
  have hstore : w₁.store = w.store := by rw [← hw₁]
  have hnew : alreadyApplied qt cacheKey cached w₁.controller = false := by
    rw [← hw₁]
    exact hchanged
  have hpending : w₁.pending = w.pending := by rw [← hw₁]
  have hlog : w₁.log = w.log := by rw [← hw₁]
  dsimp only at *
  rw [if_pos hrules, applyRouting_rejected hrules hnew (Prod.ext (by rw [hstore]; exact hrejected) rfl)]
  exact ⟨hpending, rfl, hlog⟩

theorem Rejected.guarded {message : String} (h : Rejected qt app w message) (hs : Stuck qt app w) :
    Guarded qt (currentKey qt app w) (cachedRouting (currentKey qt app w) w).1 w where
  routing := by
    refine ⟨hs.stored, by rw [cachedRouting_eq], fun ha => ?_⟩
    have hchanged := h.changed
    simp only [alreadyApplied, Bool.and_eq_false_iff, decide_eq_false_iff_not] at hchanged
    exact hchanged.elim (· ha.1.symm) (· ha.2.symm)
  pending := hs.idle

end Rejection

/-- Where the cached policy is rejected the chain stops without a request for a corrected one; and
in whatever follows, restarts included, none is sent and the rejected policy stays the cached one. -/
theorem rejected_policy_not_requested (qt : Qt) (app : App ρ) (env : Env) {w : World ρ} {message : String}
    (h : Rejected qt app w message) :
    (refreshRouting qt app env w).pending = w.pending ∧
      (refreshRouting qt app env w).controller.busy = false ∧
      (∀ events, (refreshRouting qt app env w).log = w.log ++ events →
        requestsPolicy app (currentCountry qt w) events = false) ∧
      (Stuck qt app w → ∀ w', Continues qt app (refreshRouting qt app env w) w' →
        (∀ p ∈ w'.pending, p.handler.cacheKey ≠ some (currentKey qt app w)) ∧
          (cachedRouting (currentKey qt app w) w').1 = (cachedRouting (currentKey qt app w) w).1) := by
  obtain ⟨hpending, hbusy, hlog⟩ := refreshRouting_rejected env h
  refine ⟨hpending, hbusy, fun events he => ?_, fun hs w' hw => ?_⟩
  · rw [hlog, List.self_eq_append_right] at he
    rw [he]
    rfl
  · have hr : Refused app _ _ := ⟨routingCacheKey_ne_empty qt app (currentCountry qt w), h.rules, hs.rejects⟩
    have hacts : Acts ⟨False, True, False, fun _ => False, fun _ => False⟩ qt app w (refreshRouting qt app env w) :=
      acts_refreshRouting trivial nofun
    have hg := hw.guarded hr (hacts.guarded hr id (h.guarded hs))
    exact ⟨hg.pending, by rw [cachedRouting_eq]; exact hg.routing.cached⟩

section Restart

def linuxApp : App Unit := coreApp plainQt .linux fun _ settings => settings

def mixedPolicy : JsonObject :=
  [("rules", .array
    [.object [("type", .string "ip"), ("value", .string "10.0.0.0/8"), ("route", .string "direct")],
      .object [("type", .string "domain"), ("value", .string "example.org"), ("route", .string "vpn")]])]

def mixedSession : World Unit :=
  run plainQt linuxApp (untilRouting ++ [plainStep (.reply 4 (okReply mixedPolicy))])
    (start plainQt linuxApp plainEnv signedInStore)

def restarted : World Unit :=
  run plainQt linuxApp untilRouting (start plainQt linuxApp plainEnv mixedSession.store)

theorem mixed_policy_rejected : Rejected plainQt linuxApp restarted
    "The server returned mixed direct and VPN routing rules, which this client version cannot apply safely." :=
  ⟨rfl, rfl, rfl⟩

theorem mixed_policy_stuck : Stuck plainQt linuxApp restarted := ⟨fun _ => nofun, rfl, nofun⟩

theorem mixed_policy_not_requested :
    (refreshRouting plainQt linuxApp plainEnv restarted).controller.busy = false ∧
      ∀ w, Continues plainQt linuxApp (refreshRouting plainQt linuxApp plainEnv restarted) w →
        ∀ p ∈ w.pending, p.handler.cacheKey ≠ some "default:linux" := by
  have h := rejected_policy_not_requested plainQt linuxApp plainEnv mixed_policy_rejected
  exact ⟨h.2.1, fun w hw => (h.2.2.2 mixed_policy_stuck w hw).1⟩

/-- The first session asked for the policy; after the restart the chain stops without asking again. -/
theorem restart_asks_no_policy :
    requestsPolicy linuxApp "" mixedSession.log = true ∧
      restarted.controller.authenticated = true ∧ restarted.controller.busy = false ∧
      restarted.controller.error =
        "The server returned mixed direct and VPN routing rules, which this client version cannot apply safely." ∧
      requestsPolicy linuxApp "" restarted.log = false := by decide

end Restart

end TunnelCore.Account
