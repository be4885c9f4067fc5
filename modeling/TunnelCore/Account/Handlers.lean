import TunnelCore.Account.Effects

namespace TunnelCore.Account

variable {ρ : Type}

/-- The endpoints of all requests but those of `logout`, `logoutAll` and a purchase. -/
def Endpoint.isOrdinary : Endpoint → Bool
  | .devicesRevoke | .devicesRevokeAll | .billingAppleConfirm => false
  | _ => true

def Continuation.isOrdinary (c : Continuation) : Bool := !c.isSignIn && !c.isBilling && c.cacheKey = none

theorem Endpoint.isOrdinary_request {endpoint : Endpoint} (h : endpoint.isOrdinary = true) (post : Bool)
    (token : Option String) (body : JsonObject) :
    (Request.api endpoint post token body).isRevoke = false ∧ (Request.api endpoint post token body).isConfirm = false := by
  cases endpoint with
  | devicesRevoke | devicesRevokeAll | billingAppleConfirm => nomatch h
  | _ => exact ⟨rfl, rfl⟩

/-- The session that the scope speaks of is there. -/
def Scope.Holds (S : Scope) (w : World ρ) : Prop := S.session → w.controller.authenticated = true

section Calls

variable {S : Scope} {qt : Qt} {app : App ρ} {env : Env} {w : World ρ}

theorem silent_fail (message : String) (w : World ρ) : Silent S qt app w (fail message w) := .single (.idle rfl)

theorem acts_fail (message : String) (w : World ρ) : Acts S qt app w (fail message w) := .silent (silent_fail message w)

theorem silent_note {e : Event} (he : e.isNote = true) : Silent S qt app w (w.record e) := .single (.note he)

theorem silent_endSession (w : World ρ) : Silent S qt app w (endSession w) :=
  (Relation.ReflTransGen.single .clear).trans (silent_fail _ _)

theorem acts_endSession (w : World ρ) : Acts S qt app w (endSession w) := .silent (silent_endSession w)

theorem request_token (endpoint : Endpoint) (body : JsonObject) (post auth : Bool) (w : World ρ) :
    (Request.api endpoint post (if !post || auth then some w.controller.token else none) body).token = none ∨
      (Request.api endpoint post (if !post || auth then some w.controller.token else none) body).token =
        some w.controller.token := by
  change (if !post || auth then some w.controller.token else none) = none ∨ _ = _
  split
  · exact .inr rfl
  · exact .inl rfl

variable {continuation : Continuation} {w' : World ρ} {cacheKey : String}

theorem sends_request (ha : S.Holds w) {endpoint : Endpoint}
    (he : endpoint.isOrdinary = true) {post : Bool}
    (hs : continuation.isSignIn = false) (hf : continuation.takesFailure = true ∨ post = false)
    (hb : continuation.isBilling = true → app.platform = .ios)
    (hk : ∀ cacheKey, continuation.cacheKey = some cacheKey →
      S.reroutes ∧ cacheKey = currentKey qt app w ∧ hasRules (w.routing.cached cacheKey) = false)
    (body : JsonObject) (auth : Bool) :
    Sends S qt app w (.api post continuation)
      (.api endpoint post (if !post || auth then some w.controller.token else none) body) where
  foreground := rfl
  revoke := (Endpoint.isOrdinary_request he ..).1
  confirm := (Endpoint.isOrdinary_request he ..).2
  session a := .inr (ha a)
  token := request_token ..
  fits := ⟨fun h => (Bool.false_ne_true (hs.symm.trans h)).elim, hf⟩
  billing := hb
  policy := hk

theorem acts_request (ha : S.Holds w) {endpoint : Endpoint}
    (he : endpoint.isOrdinary = true) (hc : continuation.isOrdinary = true) {post : Bool}
    (hf : continuation.takesFailure = true ∨ post = false) (body : JsonObject) (auth : Bool) :
    Acts S qt app w (request endpoint body continuation post auth w) := by
  simp only [Continuation.isOrdinary, Bool.and_eq_true, Bool.not_eq_true', decide_eq_true_eq] at hc
  exact .sends .refl (sends_request ha he hc.1.1 hf (fun h => (Bool.false_ne_true (hc.1.2.symm.trans h)).elim)
    (fun _ h => nomatch hc.2.symm.trans h) body auth)

theorem ensureDeviceId_frame (env : Env) (w : World ρ) : (ensureDeviceId env w).frame = w.frame := by
  rw [ensureDeviceId]
  split <;> rfl

theorem Scope.Holds.ofLive (ha : S.Holds w) (h : w'.live = w.live) : S.Holds w' := fun a =>
  (congrArg (fun s : Session => decide (s.token ≠ "")) h).trans (ha a)

theorem acts_registerDevice (ha : S.Holds w) (emitSignedIn : Bool) :
    Acts S qt app w (registerDevice app env emitSignedIn w) := by
  have hframe := ensureDeviceId_frame env w
  exact .after (.quiet hframe) (acts_request (ha.ofLive (congrArg Frame.live hframe)) rfl rfl (.inl rfl) _ _)

theorem silent_maybeNotifySubscription : Silent S qt app w (maybeNotifySubscription qt app env w) := by
  rw [maybeNotifySubscription]
  split
  · exact .refl
  · split
    · exact .trans (silent_note (e := .notified _) rfl) (.quiet rfl)
    · exact .refl

theorem maybeNotifySubscription_token :
    (maybeNotifySubscription qt app env w).controller.token = w.controller.token := by
  rw [maybeNotifySubscription]
  split
  · rfl
  · split <;> rfl

theorem left_passed {a b : Bool} (h : ¬(a || b) = true) : ¬a = true := fun ha => h (by rw [ha, Bool.true_or])

theorem passed {a b : Bool} (h : ¬(a || !b) = true) : b = true := by
  cases b with
  | true => rfl
  | false => exact absurd (Bool.or_true a) h

theorem acts_refresh (w : World ρ) : Acts S qt app w (refresh w) := by
  rw [refresh]
  split
  · exact .silent .refl
  next h => exact .ofFrame (acts_request (by exact fun _ => passed h) rfl rfl (.inr rfl) _ _) rfl

theorem acts_refreshConfigs (ha : S.Holds w) :
    Acts S qt app w (refreshConfigs w) := acts_request ha rfl rfl (.inr rfl) _ _

theorem acts_deliverConfig (ha : S.Holds w) (data fileName mode profile : String) :
    Acts S qt app w (deliverConfig qt data fileName mode profile w) := by
  rw [deliverConfig]
  split
  · exact .silent (silent_note rfl)
  · split
    · exact acts_fail _ w
    · exact .sends .refl ⟨⟨rfl, .inl rfl, rfl, nofun⟩, rfl, rfl, fun a => .inr (ha a), nofun⟩

theorem acts_useConfig (ha : S.Holds w) (config : JsonObject) :
    Acts S qt app w (useConfig qt config w) := by
  rw [useConfig]
  split
  · exact acts_deliverConfig ha _ _ _ _
  · split
    · split
      · exact acts_fail _ w
      · exact acts_request ha rfl rfl (.inl rfl) _ _
    · exact acts_fail _ w

theorem acts_selectConfig (index : Int) (w : World ρ) : Acts S qt app w (selectConfig qt index w) := by
  rw [selectConfig]
  split
  · exact .silent .refl
  next h =>
    split
    · exact acts_useConfig (fun _ => passed (left_passed h)) _
    · exact .silent .refl

theorem acts_selectCurrentConfig (w : World ρ) : Acts S qt app w (selectCurrentConfig qt w) := by
  rw [selectCurrentConfig]
  split
  · exact .silent .refl
  · split
    · exact acts_selectConfig _ w
    · split
      · exact acts_selectConfig _ w
      · exact acts_fail _ w

theorem cachedRouting_eq (cacheKey : String) (w : World ρ) :
    cachedRouting cacheKey w = (w.routing.cached cacheKey,
      { w with controller := { w.controller with routingCache := (w.routing.look cacheKey).memory } }) := by
  cases hm : w.controller.routingCache cacheKey with
  | some cached => simp [cachedRouting, RoutingState.cached, RoutingState.look, World.routing, hm]
  | none =>
    by_cases hr : hasRules (w.store.routingCache cacheKey)
    · simp [cachedRouting, RoutingState.cached, RoutingState.look, World.routing, World.modify, hm, hr]
    · simp [cachedRouting, RoutingState.cached, RoutingState.look, World.routing, hm, hr]

theorem look_cached (s : RoutingState) (cacheKey other : String) : (s.look cacheKey).cached other = s.cached other := by
  cases hm : s.memory cacheKey with
  | some cached => simp only [RoutingState.look, hm]
  | none =>
    by_cases hr : hasRules (s.stored cacheKey)
    · by_cases hk : other = cacheKey
      · subst hk
        simp [RoutingState.look, RoutingState.cached, hm, hr]
      · simp [RoutingState.look, RoutingState.cached, hm, hr, hk]
    · simp [RoutingState.look, hm, hr]

theorem apply_cached (s : RoutingState) (cacheKey revision other : String) :
    (s.apply cacheKey revision).cached other = s.cached other := rfl

/-- A policy that is applied has just been accepted, or was the last one applied. -/
inductive Applies (qt : Qt) (app : App ρ) (cacheKey : String) (routing : JsonObject) (w : World ρ) :
    Bool × World ρ → Prop
  | applied {w' : World ρ} (hr : hasRules routing = true)
      (ha : w.routing.apply cacheKey (routingRevision qt routing) = w.routing ∨
        (app.applyRouting routing w.store.routing).1 = none)
      (h : w'.frame = w.frame.route (w.routing.apply cacheKey (routingRevision qt routing))) :
      Applies qt app cacheKey routing w (true, w')
  | refused {w' : World ρ} {message : String}
      (hr : hasRules routing = true → (app.applyRouting routing w.store.routing).1 ≠ none) (h : w'.frame = w.frame) :
      Applies qt app cacheKey routing w (false, fail message w')

theorem applyRouting_cases (qt : Qt) (app : App ρ) (cacheKey : String) (routing : JsonObject) (w : World ρ) :
    Applies qt app cacheKey routing w (applyRouting qt app cacheKey routing true w) := by
  cases hr : hasRules routing with
  | false =>
    rw [applyRouting, hr]
    exact .refused (fun h => absurd (hr.symm.trans h) Bool.false_ne_true) rfl
  | true =>
    cases happlied : alreadyApplied qt cacheKey routing w.controller with
    | true =>
      have hsame : w.routing.apply cacheKey (routingRevision qt routing) = w.routing := by
        simp only [alreadyApplied, Bool.and_eq_true, decide_eq_true_eq] at happlied
        rw [RoutingState.apply, happlied.1, happlied.2]
        rfl
      rw [applyRouting, hr, happlied]
      exact .applied hr (.inl hsame) (by rw [hsame]; rfl)
    | false =>
      rw [applyRouting, hr, happlied]
      cases ha : (app.applyRouting routing w.store.routing).1 with
      | some message =>
        simp only [Bool.not_true, Bool.false_eq_true, if_false, ha, if_true]
        exact .refused (fun _ h => absurd (ha.symm.trans h) (Option.some_ne_none message)) rfl
      | none =>
        simp only [Bool.not_true, Bool.false_eq_true, if_false, ha]
        exact .applied hr (.inr ha) rfl

theorem silent_apply {routing : JsonObject} (hk : S.keys cacheKey ∨ S.reroutes ∧ w.routing.cached cacheKey = routing)
    (ha : w.routing.apply cacheKey (routingRevision qt routing) = w.routing ∨
      (app.applyRouting routing w.store.routing).1 = none)
    (h : w'.frame = w.frame.route (w.routing.apply cacheKey (routingRevision qt routing))) : Silent S qt app w w' := by
  rcases ha with hsame | ha
  · exact .quiet (by rw [h, hsame]; rfl)
  · exact .single (.apply hk ha h)

theorem routingEndpoint_cases (country : String) :
    routingEndpoint app country = .routingDefault app.platform ∨ routingEndpoint app country = .routingCountry country := by
  rw [routingEndpoint]
  split
  · exact .inl rfl
  · exact .inr rfl

theorem acts_background {w₁ : World ρ} (h : Acts S qt app w w₁) (hk : w₁.routing.appliedKey = cacheKey)
    (hr : w₁.routing.appliedRevision = routingRevision qt (w₁.routing.cached cacheKey)) (country : String) :
    Acts S qt app w (refreshRoutingCacheInBackground qt app cacheKey country w₁) := by
  rw [refreshRoutingCacheInBackground]
  split
  · exact h
  · rcases routingEndpoint_cases (qt.toUpper (qt.trimmed country)) with he | he <;> rw [he]
    · exact .background h ⟨rfl, rfl, rfl, rfl, hk, hr⟩ rfl
    · exact .background h ⟨rfl, rfl, rfl, rfl, hk, hr⟩ rfl

inductive Reaches (qt : Qt) (app : App ρ) (w : World ρ) : World ρ → Prop
  | mk {w₁ w₂ : World ρ} (hlook : w₁.frame = w.frame.route (w.routing.look (currentKey qt app w)))
      (ha : w₁.routing.apply (currentKey qt app w) (routingRevision qt (w.routing.cached (currentKey qt app w))) =
          w₁.routing ∨
        (app.applyRouting (w.routing.cached (currentKey qt app w)) w₁.store.routing).1 = none)
      (h : w₂.frame = w₁.frame.route
        (w₁.routing.apply (currentKey qt app w) (routingRevision qt (w.routing.cached (currentKey qt app w))))) :
      Reaches qt app w w₂

/-- What `refreshRouting` does about the policy of the selected country. -/
inductive Routes (qt : Qt) (app : App ρ) (w : World ρ) : World ρ → Prop
  | asks {w₁ : World ρ} {endpoint : Endpoint} {continuation : Continuation}
      (h : w₁.frame = w.frame.route (w.routing.look (currentKey qt app w)))
      (hn : hasRules (w.routing.cached (currentKey qt app w)) = false) (he : endpoint.isOrdinary = true)
      (hk : continuation.cacheKey = some (currentKey qt app w)) :
      Routes qt app w (request endpoint [] continuation false false w₁)
  | refused {w₁ : World ρ} {message : String} {settings : ρ}
      (h : w₁.frame = w.frame.route (w.routing.look (currentKey qt app w)))
      (hr : hasRules (w.routing.cached (currentKey qt app w)) = true)
      (ha : (app.applyRouting (w.routing.cached (currentKey qt app w)) settings).1 ≠ none) :
      Routes qt app w (fail message w₁)
  | applied {w₁ : World ρ} (h : Reaches qt app w w₁) : Routes qt app w (refreshConfigs w₁)
  | refreshed {w₁ : World ρ} {country : String} (h : Reaches qt app w w₁) :
      Routes qt app w (refreshRoutingCacheInBackground qt app (currentKey qt app w) country (refreshConfigs w₁))

theorem refreshRouting_cases (qt : Qt) (app : App ρ) (env : Env) (w : World ρ) :
    Routes qt app w (refreshRouting qt app env w) := by
  have hkey : routingCacheKey qt app (qt.toUpper (qt.trimmed w.controller.geoRoutingCountry)) = currentKey qt app w := rfl
  simp only [refreshRouting, cachedRouting_eq, hkey]
  generalize hw₁ : ({ w with controller := _ } : World ρ) = w₁
  have hlook : w₁.frame = w.frame.route (w.routing.look (currentKey qt app w)) := by
    rw [← hw₁]
    rfl
  split
  next hr =>
    have happly := applyRouting_cases qt app (currentKey qt app w) (w.routing.cached (currentKey qt app w)) w₁
    generalize applyRouting qt app (currentKey qt app w) _ true w₁ = outcome at happly ⊢
    cases happly with
    | refused hrejected hframe => exact .refused (hframe.trans hlook) hr (hrejected hr)
    | applied _ ha hframe =>
      rw [if_neg (by simp)]
      split
      · exact .applied (.mk hlook ha hframe)
      · exact .refreshed (.mk hlook ha hframe)
  next hr =>
    rw [Bool.not_eq_true] at hr
    split
    · exact .asks hlook hr rfl rfl
    · exact .asks hlook hr rfl rfl

theorem Reaches.silent (h : Reaches qt app w w') (hr : S.reroutes) : Silent S qt app w w' := by
  obtain ⟨hlook, ha, h⟩ := h
  have hrouting := congrArg (·.core.routing) hlook
  have hcached : (w.routing.look (currentKey qt app w)).cached (currentKey qt app w) =
      w.routing.cached (currentKey qt app w) := look_cached ..
  refine .trans (.single (.look hlook)) (silent_apply (.inr ⟨hr, ?_⟩) ha h)
  exact (congrArg (RoutingState.cached · _) hrouting).trans hcached

theorem Reaches.frame (h : Reaches qt app w w') :
    w'.frame = w.frame.route ((w.routing.look (currentKey qt app w)).apply (currentKey qt app w)
      (routingRevision qt (w.routing.cached (currentKey qt app w)))) := by
  obtain ⟨hlook, -, h⟩ := h
  have hrouting : _ = w.routing.look (currentKey qt app w) := congrArg (·.core.routing) hlook
  rw [h, hlook]
  exact congrArg (fun s => w.frame.route (RoutingState.apply s _ _)) hrouting

theorem Reaches.applied (h : Reaches qt app w w') : w'.routing.appliedKey = currentKey qt app w ∧
    w'.routing.appliedRevision = routingRevision qt (w'.routing.cached (currentKey qt app w)) := by
  have hrouting : w'.routing = (w.routing.look (currentKey qt app w)).apply (currentKey qt app w)
      (routingRevision qt (w.routing.cached (currentKey qt app w))) := congrArg (·.core.routing) h.frame
  rw [hrouting, apply_cached, look_cached]
  exact ⟨rfl, rfl⟩

theorem Continuation.of_cacheKey
    (h : continuation.cacheKey = some cacheKey) : continuation.isSignIn = false ∧ continuation.isBilling = false := by
  cases continuation with
  | countryRouting | defaultRouting => exact ⟨rfl, rfl⟩
  | _ => nomatch h

theorem currentKey_of_country (h : w'.controller.geoRoutingCountry = w.controller.geoRoutingCountry) :
    currentKey qt app w' = currentKey qt app w := by
  rw [currentKey, currentCountry, h]
  rfl

theorem acts_refreshRouting (hr : S.reroutes) (ha : S.Holds w) :
    Acts S qt app w (refreshRouting qt app env w) := by
  have hsame {w' : World ρ} {routing : RoutingState} (h : w'.frame = w.frame.route routing) : S.Holds w' :=
    ha.ofLive (congrArg Frame.live h)
  have hroutes := refreshRouting_cases qt app env w
  generalize refreshRouting qt app env w = w' at hroutes
  cases hroutes with
  | @asks w₁ _ _ h hn he hk =>
    obtain ⟨hs, hb⟩ := Continuation.of_cacheKey hk
    have hrouting : w₁.routing = w.routing.look (currentKey qt app w) := congrArg (·.core.routing) h
    refine .sends (.single (.look h)) (sends_request (hsame h) he hs (.inr rfl) ?_ (fun cacheKey hc => ?_) _ _)
    · exact fun h => (Bool.false_ne_true (hb.symm.trans h)).elim
    · obtain rfl := Option.some.inj (hk.symm.trans hc)
      exact ⟨hr, (currentKey_of_country (congrArg Frame.country h)).symm, by rw [hrouting, look_cached, hn]⟩
  | refused h _ _ => exact .after (.single (.look h)) (acts_fail _ _)
  | applied h => exact .after (h.silent hr) (acts_refreshConfigs (hsame h.frame))
  | refreshed h =>
    exact acts_background (.after (h.silent hr) (acts_refreshConfigs (hsame h.frame))) h.applied.1 h.applied.2 _

/-- The policy of a country is looked for, with another country or the same; or the call stops before. -/
inductive Selects (qt : Qt) (app : App ρ) (w : World ρ) : World ρ → Prop
  | silent {w' : World ρ} (h : ∀ S, Silent S qt app w w') : Selects qt app w w'
  | routes {w₁ : World ρ} {env : Env} {country : String} (h : w₁.frame = { w.frame with country := country }) :
      Selects qt app w (refreshRouting qt app env w₁)

theorem Selects.acts (h : Selects qt app w w') (hr : S.reroutes)
    (ha : S.Holds w) : Acts S qt app w w' := by
  cases h with
  | silent h => exact .silent (h S)
  | routes h =>
    exact .after (.single (.select hr h)) (acts_refreshRouting hr (ha.ofLive (congrArg Frame.live h)))

theorem acts_refreshGeoRoutingCountries (ha : S.Holds w) :
    Acts S qt app w (refreshGeoRoutingCountries w) := acts_request ha rfl rfl (.inl rfl) _ _

end Calls

section Replies

variable {S : Scope} {qt : Qt} {app : App ρ} {env : Env} {w : World ρ}

theorem acts_registerDeviceSucceeded (emitSignedIn : Bool) (object : JsonObject) :
    Acts S qt app w (registerDeviceSucceeded emitSignedIn object w) := by
  rw [registerDeviceSucceeded]
  split
  · exact acts_fail _ w
  · split
    · exact .after (silent_note rfl) (acts_refresh _)
    · exact acts_refresh w

theorem silent_signedIn (emitSignedIn : Bool) : Silent S qt app w (if emitSignedIn then w.record .signedIn else w) := by
  split
  · exact silent_note rfl
  · exact .refl

theorem acts_registerDeviceFailed (emitSignedIn : Bool) (status : Int) (apiError : String) :
    Acts S qt app w (registerDeviceFailed qt app env emitSignedIn status apiError w) := by
  have hsign : Silent S qt app w _ := silent_signedIn emitSignedIn
  rw [registerDeviceFailed]
  split
  · exact acts_endSession w
  · split
    · exact .silent (hsign.trans (silent_fail _ _))
    · split
      · refine .after hsign (.ofFrame (.after silent_maybeNotifySubscription (acts_fail _ _)) ?_)
        rfl
      · split
        · exact acts_fail _ w
        · split <;> exact acts_fail _ w

theorem authenticated_of_validSession {token username : String} (h : validSession token username = true) :
    token ≠ "" := by
  simp only [validSession, Bool.and_eq_true, decide_eq_true_eq] at h
  exact h.1.1.1

theorem acts_authenticateSucceeded (emailAccount : Bool) (object : JsonObject)
    (ht : S.tokens (qt.toLatin1 (object.value "access_token").toString)) :
    Acts S qt app w (authenticateSucceeded qt app env emailAccount object w) := by
  rw [authenticateSucceeded]
  split
  · exact acts_fail _ w
  next h =>
    simp only [Bool.or_eq_true, Bool.not_eq_true', not_or, Bool.not_eq_false] at h
    have hauth := decide_eq_true (authenticated_of_validSession h.1)
    refine .after (.single (.signIn ?_ ?_ rfl)) (acts_registerDevice (by exact fun _ => hauth) true)
    · exact ht
    · exact h.1

theorem acts_authenticateFailed (path : Endpoint) (status : Int) (apiError : String) :
    Acts S qt app w (authenticateFailed path status apiError w) := by
  rw [authenticateFailed]
  repeat' split
  all_goals exact acts_fail _ w

theorem acts_linkTelegramFailed (status : Int) (apiError : String) :
    Acts S qt app w (linkTelegramFailed status apiError w) := by
  rw [linkTelegramFailed]
  repeat' split
  all_goals first | exact acts_fail _ w | exact acts_endSession w

theorem acts_logoutFailed (status : Int) (apiError : String) : Acts S qt app w (logoutFailed status apiError w) := by
  rw [logoutFailed]
  split
  · exact acts_endSession w
  · split
    · exact .silent (.single .clear)
    · exact acts_fail _ w

theorem acts_meSucceeded (ha : S.Holds w) (object : JsonObject) :
    Acts S qt app w (meSucceeded qt app env object w) := by
  rw [meSucceeded]
  split
  · exact acts_fail _ w
  · have hlinked : Silent S qt app w (if (object.value "telegram_linked").isBool then
        saveSession (w.modify fun c => { c with telegramLinked := (object.value "telegram_linked").toBool }) else w) := by
      split
      · exact .single (.link rfl)
      · exact .refl
    have hauth : S.Holds (if (object.value "telegram_linked").isBool then
        saveSession (w.modify fun c => { c with telegramLinked := (object.value "telegram_linked").toBool }) else w) := by
      split <;> exact ha
    refine .after hlinked (.ofFrame (.after silent_maybeNotifySubscription (acts_request ?_ rfl rfl (.inl rfl) _ _)) ?_)
    · rw [Scope.Holds, Controller.authenticated, maybeNotifySubscription_token]
      exact hauth
    · rfl

theorem applyVpnCountrySelection_frame {object : JsonObject} {w' : World ρ}
    (h : applyVpnCountrySelection qt object w = some w') : w'.frame = w.frame := by
  rw [applyVpnCountrySelection] at h
  split at h
  · obtain rfl := Option.some.inj h
    rfl
  · nomatch h

theorem acts_countrySelectionSucceeded (ha : S.Holds w) (object : JsonObject) :
    Acts S qt app w (countrySelectionSucceeded qt object w) := by
  rw [countrySelectionSucceeded]
  split
  next h =>
    have hframe := applyVpnCountrySelection_frame h
    exact .ofFrame (acts_refreshGeoRoutingCountries (ha.ofLive (congrArg Frame.live hframe))) hframe
  · exact acts_fail _ w

theorem acts_countrySelectionFailed (ha : S.Holds w) (status : Int)
    (apiError : String) : Acts S qt app w (countrySelectionFailed app env status apiError w) := by
  rw [countrySelectionFailed]
  split
  · exact acts_registerDevice ha false
  · split
    · exact .ofFrame (acts_refreshGeoRoutingCountries (by exact ha)) rfl
    · split
      · exact acts_endSession w
      · exact acts_fail _ w

theorem selects_geoRoutingCountriesSucceeded (object : JsonObject) :
    Selects qt app w (geoRoutingCountriesSucceeded qt app env object w) := by
  rw [geoRoutingCountriesSucceeded]
  split
  · exact .silent fun _ => silent_fail _ w
  · dsimp only
    split
    · exact .routes rfl
    · exact .routes rfl

theorem selects_geoRoutingCountriesFailed (status : Int) :
    Selects qt app w (geoRoutingCountriesFailed qt app env status w) := by
  rw [geoRoutingCountriesFailed]
  split
  · exact .routes rfl
  · split
    · exact .silent fun _ => silent_endSession w
    · exact .silent fun _ => silent_fail _ w

theorem storeRoutingCache_cases (qt : Qt) (env : Env) (cacheKey : String) (routing : JsonObject) (w : World ρ) :
    (hasRules routing = false ∧ storeRoutingCache qt env cacheKey routing w = w) ∨
      (storeRoutingCache qt env cacheKey routing w).frame = w.frame.route (w.routing.store cacheKey
        (routing.insert routingCacheTimestampKey (.string (qt.isoTextWithMs env.now)))) := by
  rw [storeRoutingCache]
  split
  · exact .inr rfl
  next h => exact .inl ⟨by simpa using h, rfl⟩

variable {cacheKey : String}

theorem silent_storeRoutingCache (env : Env) (hk : S.keys cacheKey) (routing : JsonObject) :
    Silent S qt app w (storeRoutingCache qt env cacheKey routing w) := by
  rcases storeRoutingCache_cases qt env cacheKey routing w with ⟨-, h⟩ | h
  · rw [h]
    exact .refl
  · exact .single (.store hk h)

theorem storeRoutingCache_live (qt : Qt) (env : Env) (cacheKey : String) (routing : JsonObject) (w : World ρ) :
    (storeRoutingCache qt env cacheKey routing w).live = w.live := by
  rcases storeRoutingCache_cases qt env cacheKey routing w with ⟨-, h⟩ | h
  · rw [h]
  · exact congrArg Frame.live h

theorem acts_applyAndContinue (hk : S.keys cacheKey) (ha : S.Holds w) (routing : JsonObject) :
    Acts S qt app w (applyAndContinue qt app env cacheKey routing w) := by
  have hauth := ha.ofLive (storeRoutingCache_live qt env cacheKey routing w)
  refine .after (silent_storeRoutingCache env hk routing) ?_
  rw [applyAndContinue]
  generalize storeRoutingCache qt env cacheKey routing w = w₁ at hauth
  have happly := applyRouting_cases qt app cacheKey routing w₁
  generalize applyRouting qt app cacheKey routing true w₁ = outcome at happly
  cases happly with
  | refused _ h => exact .after (.quiet h) (acts_fail _ _)
  | applied _ haccepted h =>
    exact .after (silent_apply (.inl hk) haccepted h) (acts_refreshConfigs (hauth.ofLive (congrArg Frame.live h)))

theorem acts_routingSucceeded (hk : S.keys cacheKey) (ha : S.Holds w) (country : String) (object : JsonObject) :
    Acts S qt app w (routingSucceeded qt app env country cacheKey object w) := by
  rw [routingSucceeded]
  split
  · exact acts_applyAndContinue hk ha _
  · exact acts_fail _ w

theorem acts_countryRoutingFailed (status : Int) (apiError : String) :
    Acts S qt app w (countryRoutingFailed status apiError w) := by
  rw [countryRoutingFailed]
  repeat' split
  all_goals first | exact acts_fail _ w | exact acts_endSession w

theorem acts_defaultRoutingFailed (ha : S.Holds w) (status : Int) :
    Acts S qt app w (defaultRoutingFailed status w) := by
  rw [defaultRoutingFailed]
  split
  · exact acts_refreshConfigs ha
  · split
    · exact acts_endSession w
    · exact acts_fail _ w

theorem acts_configsSucceeded (object : JsonObject) : Acts S qt app w (configsSucceeded qt object w) := by
  rw [configsSucceeded]
  split
  · exact acts_fail _ w
  · dsimp only
    split
    · exact .silent (.quiet rfl)
    · split
      · exact .ofFrame (acts_selectConfig _ _) rfl
      · exact .ofFrame (acts_fail _ _) rfl

theorem selects_selectVpnCountrySucceeded (object : JsonObject) :
    Selects qt app w (selectVpnCountrySucceeded qt app env object w) := by
  rw [selectVpnCountrySucceeded]
  split
  · exact .silent fun _ => silent_fail _ w
  next h =>
    have hframe := applyVpnCountrySelection_frame h
    exact .routes (by exact hframe)

theorem silent_selectVpnCountryFailed (status : Int) (apiError : String) :
    Silent S qt app w (selectVpnCountryFailed status apiError w) := by
  rw [selectVpnCountryFailed]
  repeat' split
  all_goals first | exact silent_fail _ w | exact silent_endSession w

theorem acts_configSucceeded (ha : S.Holds w) (suggestedFileName : String)
    (object : JsonObject) : Acts S qt app w (configSucceeded qt suggestedFileName object w) := by
  rw [configSucceeded]
  split
  · exact acts_fail _ w
  · exact acts_deliverConfig ha _ _ _ _

theorem acts_configFailed (status : Int) (apiError : String) : Acts S qt app w (configFailed status apiError w) := by
  rw [configFailed]
  repeat' split
  all_goals first | exact acts_fail _ w | exact acts_endSession w

theorem acts_accountDeletionSucceeded (object : JsonObject) : Acts S qt app w (accountDeletionSucceeded object w) := by
  rw [accountDeletionSucceeded]
  split
  · exact acts_fail _ w
  · exact .silent (.quiet rfl)

theorem acts_billingSucceeded (hp : S.purchases) (ha : S.Holds w)
    (object : JsonObject) : Acts S qt app w (billingSucceeded qt object w) := by
  rw [billingSucceeded]
  split
  · exact acts_fail _ w
  · exact .purchases .refl hp ha

theorem acts_billingConfirmFailed (status : Int) (apiError : String) :
    Acts S qt app w (billingConfirmFailed status apiError w) := by
  rw [billingConfirmFailed]
  repeat' split
  all_goals first | exact acts_fail _ w | exact acts_endSession w

end Replies

def Reply.Issues (qt : Qt) (token : String) (r : Reply) : Prop :=
  (r.successful = true ∧ r.error = false) ∧
    ∃ object, r.okObject = some object ∧ qt.toLatin1 (object.value "access_token").toString = token

def Scope.answer (qt : Qt) (w : World ρ) (handler : Handler) (r : Reply) : Scope where
  session := handler.isSignIn = true ∨ w.controller.authenticated = true
  reroutes := handler.reroutes = true
  purchases := handler.isBilling = true
  keys cacheKey := handler.cacheKey = some cacheKey
  tokens token := r.Issues qt token

section Answers

variable {qt : Qt} {app : App ρ} {env : Env} {w w' : World ρ}

variable {continuation : Continuation} {post : Bool}

theorem Scope.answer_session {r : Reply}
    (hs : continuation.isSignIn = false) (h : (Scope.answer qt w (.api post continuation) r).session) :
    w.controller.authenticated = true := h.resolve_left fun h => Bool.false_ne_true (hs.symm.trans h)

theorem acts_succeeded {r : Reply} {object : JsonObject} (hr : r.successful = true ∧ r.error = false)
    (ho : r.okObject = some object) :
    Acts (.answer qt w (.api post continuation) r) qt app w (succeeded qt app env object w continuation) := by
  cases continuation with
  | registerDevice => exact acts_registerDeviceSucceeded _ object
  | authenticate => exact acts_authenticateSucceeded _ object ⟨hr, object, ho, rfl⟩
  | linkTelegram => exact .after (.single (.link rfl)) (acts_refresh _)
  | logout | logoutAll => exact .silent (.single .clear)
  | accountDeletion => exact acts_accountDeletionSucceeded object
  | me => exact acts_meSucceeded (Scope.answer_session rfl) object
  | countrySelection => exact acts_countrySelectionSucceeded (Scope.answer_session rfl) object
  | geoRoutingCountries =>
    exact (selects_geoRoutingCountriesSucceeded object).acts rfl (Scope.answer_session rfl)
  | countryRouting | defaultRouting => exact acts_routingSucceeded rfl (Scope.answer_session rfl) _ object
  | configs => exact acts_configsSucceeded object
  | selectVpnCountry => exact (selects_selectVpnCountrySucceeded object).acts rfl (Scope.answer_session rfl)
  | config => exact acts_configSucceeded (Scope.answer_session rfl) _ object
  | billing => exact acts_billingSucceeded rfl (Scope.answer_session rfl) object
  | billingConfirm => exact .after (silent_note rfl) (.ofFrame (acts_refresh _) rfl)

theorem acts_failed {r : Reply} (status : Int) (apiError : String)
    (h : failed qt app env status apiError w continuation = some w') :
    Acts (.answer qt w (.api post continuation) r) qt app w w' := by
  cases continuation with
  | me | configs | billing => nomatch h
  | registerDevice => exact Option.some.inj h ▸ acts_registerDeviceFailed _ status apiError
  | authenticate => exact Option.some.inj h ▸ acts_authenticateFailed _ status apiError
  | linkTelegram => exact Option.some.inj h ▸ acts_linkTelegramFailed status apiError
  | logout => exact Option.some.inj h ▸ acts_logoutFailed status apiError
  | logoutAll | accountDeletion =>
    obtain rfl := Option.some.inj h
    split
    · exact acts_endSession w
    · exact acts_fail _ w
  | countrySelection =>
    exact Option.some.inj h ▸ acts_countrySelectionFailed (Scope.answer_session rfl) status apiError
  | geoRoutingCountries =>
    exact Option.some.inj h ▸ (selects_geoRoutingCountriesFailed status).acts rfl (Scope.answer_session rfl)
  | countryRouting => exact Option.some.inj h ▸ acts_countryRoutingFailed status apiError
  | defaultRouting => exact Option.some.inj h ▸ acts_defaultRoutingFailed (Scope.answer_session rfl) status
  | selectVpnCountry => exact Option.some.inj h ▸ .silent (silent_selectVpnCountryFailed status apiError)
  | config => exact Option.some.inj h ▸ acts_configFailed status apiError
  | billingConfirm => exact Option.some.inj h ▸ acts_billingConfirmFailed status apiError

/-- A reply of the current generation has come: it is no longer `m_reply`, and the controller is not
busy. -/
def World.answered (id : Nat) (w : World ρ) : World ρ :=
  ((w.finish id).modify fun c => { c with reply := none }).modify fun c => { c with busy := false }

theorem clearSession_busy (w : World ρ) :
    clearSession (w.modify fun c => { c with busy := false }) = clearSession w := by
  cases h : w.controller.reply with
  | none => simp [clearSession, abortReply, nextGeneration, World.modify, World.record, h]
  | some id => simp [clearSession, abortReply, nextGeneration, World.modify, World.record, World.finish, h]

theorem silent_unhandled {S : Scope} (post : Bool) (r : Reply) (w : World ρ) :
    Silent S qt app (w.modify fun c => { c with busy := false }) (unhandled post r w) := by
  have hfail (message : String) : Silent S qt app (w.modify fun c => { c with busy := false }) (fail message w) :=
    .quiet rfl
  have hend : Silent S qt app (w.modify fun c => { c with busy := false }) (endSession w) := by
    rw [endSession, ← clearSession_busy]
    exact silent_endSession _
  rw [unhandled]
  dsimp only
  repeat' split
  all_goals first | exact hfail _ | exact hend

inductive Finishes (qt : Qt) (app : App ρ) (env : Env) (post : Bool) (continuation : Continuation) (r : Reply)
    (id : Nat) (w : World ρ) : World ρ → Prop
  | succeeded {object : JsonObject} (hr : r.successful = true ∧ r.error = false) (ho : r.okObject = some object) :
      Finishes qt app env post continuation r id w (succeeded qt app env object (w.answered id) continuation)
  | failed {status : Int} {apiError : String} {w' : World ρ}
      (hf : failed qt app env status apiError (w.answered id) continuation = some w') :
      Finishes qt app env post continuation r id w w'
  | unhandled : Finishes qt app env post continuation r id w
      (unhandled post r ((w.finish id).modify fun c => { c with reply := none }))

theorem apiFinished_cases (qt : Qt) (app : App ρ) (env : Env) (post : Bool) (continuation : Continuation) (r : Reply)
    (id : Nat) (w : World ρ) :
    Finishes qt app env post continuation r id w (apiFinished qt app env post continuation r (w.finish id)) := by
  rw [apiFinished]
  split
  next hr =>
    split
    next ho =>
      split
      · exact .unhandled
      next herror => exact .succeeded ⟨hr, Bool.eq_false_iff.mpr herror⟩ ho
    · exact .unhandled
  · split
    · change Finishes qt app env post continuation r id w ((failed qt app env _ _ (w.answered id) continuation).getD _)
      cases hf : failed qt app env r.status (r.object.value "error").toString (w.answered id) continuation with
      | none => exact .unhandled
      | some w' => exact .failed hf
    · exact .unhandled

theorem acts_apiFinished (post : Bool) (continuation : Continuation) (r : Reply) (id : Nat) (w : World ρ) :
    Acts (.answer qt w (.api post continuation) r) qt app (w.answered id)
      (apiFinished qt app env post continuation r (w.finish id)) := by
  change Acts (.answer qt (w.answered id) (.api post continuation) r) qt app (w.answered id) _
  have hcases := apiFinished_cases qt app env post continuation r id w
  generalize apiFinished qt app env post continuation r (w.finish id) = w' at hcases ⊢
  cases hcases with
  | succeeded hr ho => exact acts_succeeded hr ho
  | failed hf => exact acts_failed _ _ hf
  | unhandled => exact .silent (silent_unhandled post r _)

theorem selects_apiFinished (post : Bool) (hr : continuation.reroutes = true) (r : Reply) (id : Nat) (w : World ρ) :
    Selects qt app (w.answered id) (apiFinished qt app env post continuation r (w.finish id)) := by
  have hcases := apiFinished_cases qt app env post continuation r id w
  generalize apiFinished qt app env post continuation r (w.finish id) = w' at hcases ⊢
  cases hcases with
  | unhandled => exact .silent fun _ => silent_unhandled post r _
  | succeeded =>
    cases continuation with
    | geoRoutingCountries => exact selects_geoRoutingCountriesSucceeded _
    | selectVpnCountry => exact selects_selectVpnCountrySucceeded _
    | _ => nomatch hr
  | failed hf =>
    cases continuation with
    | geoRoutingCountries => exact Option.some.inj hf ▸ selects_geoRoutingCountriesFailed _
    | selectVpnCountry => exact Option.some.inj hf ▸ .silent fun _ => silent_selectVpnCountryFailed _ _
    | _ => nomatch hr

theorem acts_downloadFinished {S : Scope} (fileName mode profile : String) (r : Reply) (id : Nat) (w : World ρ) :
    Acts S qt app (w.answered id) (downloadFinished fileName mode profile r (w.finish id)) := by
  rw [downloadFinished]
  split
  · exact .silent (.quiet rfl)
  · exact .silent (silent_note rfl)

inductive Learns (cacheKey : String) (w : World ρ) : World ρ → Prop
  | nothing : Learns cacheKey w w
  | looks {w' : World ρ} (h : w'.frame = w.frame.route (w.routing.look cacheKey)) : Learns cacheKey w w'
  | stores {w' : World ρ} {routing : JsonObject}
      (h : w'.frame = w.frame.route ((w.routing.look cacheKey).store cacheKey routing)) : Learns cacheKey w w'

theorem backgroundFinished_learns (cacheKey country : String) (r : Reply) (w : World ρ) :
    Learns cacheKey w (backgroundFinished qt app env cacheKey country r w) := by
  rw [backgroundFinished, cachedRouting_eq]
  split
  · exact .nothing
  · split
    · exact .nothing
    · split
      · exact .nothing
      next routing _ =>
        generalize hw₁ : ({ w with controller := _ } : World ρ) = w₁
        have hlook : w₁.frame = w.frame.route (w.routing.look cacheKey) := by
          rw [← hw₁]
          rfl
        rcases storeRoutingCache_cases qt env cacheKey routing w₁ with ⟨-, h⟩ | h
        · exact .looks (by rw [h, hlook])
        · have hrouting : w₁.routing = w.routing.look cacheKey := congrArg (·.core.routing) hlook
          exact .stores (by rw [h, hlook, hrouting]; rfl)

theorem Learns.frame {cacheKey : String} (h : Learns cacheKey w w') : w'.frame = w.frame.route w'.routing := by
  cases h with
  | nothing => rfl
  | looks h | stores h =>
    rw [h, show w'.routing = _ from congrArg (·.core.routing) h]
    rfl

end Answers

def UserCall.isLogout : UserCall → Bool
  | .logout | .logoutAll => true
  | _ => false

def UserCall.reroutes : UserCall → Bool
  | .selectGeoRoutingCountry _ => true
  | _ => false

def Scope.call (c : UserCall) : Scope := { Scope.plain with reroutes := c.reroutes = true }

section UserCalls

variable {S : Scope} {qt : Qt} {app : App ρ} {env : Env} {w : World ρ}

theorem acts_authenticate {path : Endpoint} (hp : path.isOrdinary = true) (credentials : JsonObject)
    (emailAccount : Bool) : Acts S qt app w (authenticate path credentials emailAccount w) :=
  .sends .refl
    { foreground := rfl
      revoke := (Endpoint.isOrdinary_request hp ..).1
      confirm := (Endpoint.isOrdinary_request hp ..).2
      session := fun _ => .inl rfl
      token := .inl rfl
      fits := ⟨fun _ => rfl, .inl rfl⟩
      billing := nofun
      policy := nofun }

theorem acts_withEmail {path : Endpoint} (hp : path.isOrdinary = true) (email password : String) :
    Acts S qt app w (withEmail qt path email password w) := by
  rw [withEmail]
  split
  · exact .silent .refl
  · split
    · exact acts_fail _ w
    · exact acts_authenticate hp _ _

theorem selects_selectGeoRoutingCountry (countryCode : String) :
    Selects qt app w (selectGeoRoutingCountry qt app env countryCode w) := by
  rw [selectGeoRoutingCountry]
  split
  · exact .silent fun _ => .refl
  · split
    · exact .silent fun _ => .refl
    · split
      · exact .silent fun _ => silent_fail _ w
      · exact .routes rfl

theorem acts_selectGeoRoutingCountry (hr : S.reroutes) (countryCode : String) :
    Acts S qt app w (selectGeoRoutingCountry qt app env countryCode w) := by
  cases ha : w.controller.authenticated with
  | true => exact (selects_selectGeoRoutingCountry countryCode).acts hr fun _ => ha
  | false =>
    rw [selectGeoRoutingCountry, ha]
    simp only [Bool.not_false, Bool.or_true, if_true]
    exact .silent .refl

theorem acts_selectVpnCountry (countryCode : String) : Acts S qt app w (selectVpnCountry qt env countryCode w) := by
  rw [selectVpnCountry]
  split
  · exact .silent .refl
  next h =>
    split
    · exact .silent .refl
    · have ha : S.Holds w := fun _ => passed h
      have hframe := ensureDeviceId_frame env w
      exact .after (.quiet hframe) (acts_request (ha.ofLive (congrArg Frame.live hframe)) rfl rfl (.inl rfl) _ _)

theorem acts_renewSubscription : Acts S qt app w (renewSubscription app w) := by
  rw [renewSubscription]
  split
  · exact .silent .refl
  next h =>
    split
    · exact .silent .refl
    · exact .silent .refl
    next hios =>
      exact .sends .refl (sends_request (fun _ => passed h) rfl rfl (.inr rfl) (fun _ => hios) (by exact nofun) _ _)
    · split
      · exact .silent (silent_note rfl)
      · exact acts_fail _ w

theorem acts_call (c : UserCall) (hc : c.isLogout = false) : Acts (.call c) qt app w (c.run qt app env w) := by
  cases c with
  | login username password =>
    change Acts _ qt app w (login qt username password w)
    rw [login]
    split
    · exact .silent .refl
    · split
      · exact acts_fail _ w
      · exact acts_authenticate rfl _ _
  | loginCode code =>
    change Acts _ qt app w (loginCode qt code w)
    rw [loginCode]
    split
    · exact .silent .refl
    · split
      · exact acts_fail _ w
      · exact acts_authenticate rfl _ _
  | loginEmail email password => exact acts_withEmail rfl email password
  | registerEmail email password => exact acts_withEmail rfl email password
  | linkTelegram code =>
    change Acts _ qt app w (linkTelegram qt code w)
    rw [linkTelegram]
    split
    · exact .silent .refl
    next h =>
      split
      · exact acts_fail _ w
      · exact acts_request (fun _ => passed (left_passed h)) rfl rfl (.inl rfl) _ _
  | clearError => exact .silent (.quiet rfl)
  | logout | logoutAll => nomatch hc
  | requestAccountDeletion =>
    change Acts _ qt app w (requestAccountDeletion w)
    rw [requestAccountDeletion]
    split
    · exact .silent .refl
    next h => exact acts_request (fun _ => passed (left_passed h)) rfl rfl (.inl rfl) _ _
  | refresh => exact acts_refresh w
  | selectConfig index => exact acts_selectConfig index w
  | selectCurrentConfig => exact acts_selectCurrentConfig w
  | selectVpnCountry countryCode => exact acts_selectVpnCountry countryCode
  | selectGeoRoutingCountry countryCode => exact acts_selectGeoRoutingCountry rfl countryCode
  | renewSubscription => exact acts_renewSubscription

theorem call_busy (hb : w.controller.busy = true) (c : UserCall) (hc : c.isLogout = false) :
    (c.run qt app env w).frame = w.frame := by
  cases c with
  | logout | logoutAll => nomatch hc
  | clearError => rfl
  | _ =>
    simp [UserCall.run, login, loginCode, loginEmail, registerEmail, withEmail, linkTelegram,
      requestAccountDeletion, refresh, selectConfig, selectCurrentConfig, selectVpnCountry,
      selectGeoRoutingCountry, renewSubscription, hb]

end UserCalls

end TunnelCore.Account
