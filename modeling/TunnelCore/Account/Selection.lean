import TunnelCore.Account.Replies

namespace TunnelCore.Account

variable {ρ : Type}

def World.selection (w : World ρ) : String × String := (w.controller.geoRoutingCountry, w.store.geoRoutingCountry)

def Retains (w w' : World ρ) : Prop :=
  w'.controller.pendingConfigId = w.controller.pendingConfigId ∨ w'.controller.pendingConfigId = 0

theorem Retains.trans {w₀ w w' : World ρ} (h₀ : Retains w₀ w) (h : Retains w w') : Retains w₀ w' := by
  rcases h with h | h
  · rw [Retains, h]
    exact h₀
  · exact .inr h

/-- The announcement of a configuration stays pending or is dropped, and the country stays selected, in memory and in
the storage: what all calls and handlers do but the few that are about one of the two. -/
structure Light (w w' : World ρ) : Prop where
  retains : Retains w w'
  selection : w'.selection = w.selection

theorem Light.trans {w₀ w w' : World ρ} (h₀ : Light w₀ w) (h : Light w w') : Light w₀ w' :=
  ⟨h₀.retains.trans h.retains, h.selection.trans h₀.selection⟩

theorem Light.same {w w' : World ρ} (hp : w'.controller.pendingConfigId = w.controller.pendingConfigId)
    (hs : w'.selection = w.selection) : Light w w' := ⟨.inl hp, hs⟩

theorem Light.dropped {w w' : World ρ} (hp : w'.controller.pendingConfigId = 0) (hs : w'.selection = w.selection) :
    Light w w' := ⟨.inr hp, hs⟩

theorem Light.after {w₀ w w' : World ρ} (h : Light w w')
    (hp : w.controller.pendingConfigId = w₀.controller.pendingConfigId) (hs : w.selection = w₀.selection) :
    Light w₀ w' := .trans (.same hp hs) h

section

variable {qt : Qt} {app : App ρ} {env : Env} (w : World ρ)

theorem light_fail (message : String) : Light w (fail message w) := .dropped rfl rfl

theorem light_clearSession : Light w (clearSession w) := by
  refine ⟨.inr rfl, ?_⟩
  rw [clearSession, abortReply]
  cases (nextGeneration w).controller.reply <;> rfl

theorem light_endSession : Light w (endSession w) := (light_clearSession w).trans (light_fail _ _)

theorem light_ensureDeviceId : Light w (ensureDeviceId env w) := by
  rw [ensureDeviceId]
  split <;> exact .same rfl rfl

theorem light_registerDevice (emitSignedIn : Bool) : Light w (registerDevice app env emitSignedIn w) :=
  (light_ensureDeviceId w).trans (.same rfl rfl)

theorem light_maybeNotifySubscription : Light w (maybeNotifySubscription qt app env w) := by
  rw [maybeNotifySubscription]
  repeat' split
  all_goals exact .same rfl rfl

theorem light_refresh : Light w (refresh w) := by
  rw [refresh]
  split <;> exact .same rfl rfl

theorem light_cachedRouting (cacheKey : String) : Light w (cachedRouting cacheKey w).2 := by
  simp only [cachedRouting]
  repeat' split
  all_goals exact .same rfl rfl

theorem light_storeRoutingCache (cacheKey : String) (routing : JsonObject) :
    Light w (storeRoutingCache qt env cacheKey routing w) := by
  rw [storeRoutingCache]
  split <;> exact .same rfl rfl

theorem light_refreshRoutingCacheInBackground (cacheKey countryCode : String) :
    Light w (refreshRoutingCacheInBackground qt app cacheKey countryCode w) := by
  rw [refreshRoutingCacheInBackground]
  split <;> exact .same rfl rfl

theorem light_deliverConfig (data fileName mode profile : String) :
    Light w (deliverConfig qt data fileName mode profile w) := by
  simp only [deliverConfig]
  repeat' split
  · exact .same rfl rfl
  · exact .dropped rfl rfl
  · exact .same rfl rfl

theorem light_useConfig (config : JsonObject) : Light w (useConfig qt config w) := by
  simp only [useConfig]
  split
  · exact light_deliverConfig w ..
  · split
    · split
      · exact .dropped rfl rfl
      · exact .same rfl rfl
    · exact .dropped rfl rfl

theorem light_selectConfig (index : Int) : Light w (selectConfig qt index w) := by
  simp only [selectConfig]
  repeat' split
  · exact .same rfl rfl
  · exact light_useConfig w _
  · exact .same rfl rfl

theorem light_selectCurrentConfig : Light w (selectCurrentConfig qt w) := by
  simp only [selectCurrentConfig]
  repeat' split
  · exact .same rfl rfl
  · exact light_selectConfig w _
  · exact light_selectConfig w 0
  · exact .dropped rfl rfl

theorem light_applyRouting (cacheKey : String) (routing : JsonObject) (reportError : Bool) :
    Light w (applyRouting qt app cacheKey routing reportError w).2 := by
  simp only [applyRouting]
  repeat' split
  all_goals first | exact .same rfl rfl | exact .dropped rfl rfl

theorem light_refreshRouting : Light w (refreshRouting qt app env w) := by
  simp only [refreshRouting]
  generalize routingCacheKey qt app _ = cacheKey
  have hcached := light_cachedRouting w cacheKey
  have happlied : Light w
      (applyRouting qt app cacheKey (cachedRouting cacheKey w).1 true (cachedRouting cacheKey w).2).2 :=
    hcached.trans (light_applyRouting _ ..)
  repeat' split
  · exact happlied
  · exact happlied.trans (.same rfl rfl)
  · exact happlied.trans ((light_refreshRoutingCacheInBackground _ cacheKey _).after rfl rfl)
  · exact hcached.trans (.same rfl rfl)
  · exact hcached.trans (.same rfl rfl)

theorem light_applyAndContinue (cacheKey : String) (routing : JsonObject) :
    Light w (applyAndContinue qt app env cacheKey routing w) := by
  have happlied : Light w (applyRouting qt app cacheKey routing true (storeRoutingCache qt env cacheKey routing w)).2 :=
    (light_storeRoutingCache w ..).trans (light_applyRouting _ ..)
  simp only [applyAndContinue]
  split
  · exact happlied.trans (.same rfl rfl)
  · exact happlied

theorem light_call {c : UserCall} (hc : ∀ countryCode, c ≠ .selectGeoRoutingCountry countryCode) :
    Light w (c.run qt app env w) := by
  cases c with
  | login username password | loginCode code | loginEmail email password | registerEmail email password =>
    simp only [UserCall.run, login, loginCode, loginEmail, registerEmail, withEmail, authenticate]
    repeat' split
    all_goals first | exact .same rfl rfl | exact .dropped rfl rfl
  | linkTelegram code | logout | logoutAll | requestAccountDeletion | renewSubscription =>
    simp only [UserCall.run, linkTelegram, logout, logoutAll, requestAccountDeletion, renewSubscription]
    repeat' split
    all_goals first | exact .same rfl rfl | exact light_fail w _ | exact light_clearSession w
  | clearError => exact .same rfl rfl
  | refresh => exact light_refresh w
  | selectConfig index => exact light_selectConfig w index
  | selectCurrentConfig => exact light_selectCurrentConfig w
  | selectVpnCountry countryCode =>
    simp only [UserCall.run, selectVpnCountry]
    split
    · exact .same rfl rfl
    · split
      · exact .same rfl rfl
      · exact (light_ensureDeviceId w).trans (.same rfl rfl)
  | selectGeoRoutingCountry countryCode => exact (hc countryCode rfl).elim

theorem light_applyVpnCountrySelection {object : JsonObject} {w' : World ρ}
    (h : applyVpnCountrySelection qt object w = some w') : Light w w' := by
  simp only [applyVpnCountrySelection] at h
  split at h
  · cases h
    exact .same rfl rfl
  · cases h

theorem light_meSucceeded (object : JsonObject) : Light w (meSucceeded qt app env object w) := by
  simp only [meSucceeded, updateSubscriptionState]
  split
  · exact .dropped rfl rfl
  · refine .trans ?_ ((light_maybeNotifySubscription _).trans (.same rfl rfl))
    by_cases hlinked : (object.value "telegram_linked").isBool = true
    · rw [if_pos hlinked]
      exact .same rfl rfl
    · rw [if_neg hlinked]
      exact .same rfl rfl

theorem light_succeeded (object : JsonObject) {continuation : Continuation} (hg : continuation ≠ .geoRoutingCountries)
    (hc : continuation ≠ .configs) (hs : continuation ≠ .selectVpnCountry) :
    Light w (succeeded qt app env object w continuation) := by
  cases continuation with
  | registerDevice emitSignedIn =>
    simp only [succeeded, registerDeviceSucceeded]
    split
    · exact .dropped rfl rfl
    · refine .trans ?_ (light_refresh _)
      cases emitSignedIn <;> exact .same rfl rfl
  | authenticate path emailAccount =>
    simp only [succeeded, authenticateSucceeded]
    split
    · exact .dropped rfl rfl
    · exact (light_registerDevice _ true).after rfl rfl
  | linkTelegram => exact (light_refresh _).after rfl rfl
  | logout | logoutAll => exact light_clearSession w
  | accountDeletion =>
    simp only [succeeded, accountDeletionSucceeded]
    split
    · exact .dropped rfl rfl
    · exact .same rfl rfl
  | me => exact light_meSucceeded w object
  | countrySelection =>
    simp only [succeeded, countrySelectionSucceeded]
    split
    next w' h => exact (light_applyVpnCountrySelection w h).trans (.same rfl rfl)
    · exact .dropped rfl rfl
  | geoRoutingCountries => exact (hg rfl).elim
  | countryRouting country cacheKey | defaultRouting cacheKey =>
    simp only [succeeded, routingSucceeded]
    split
    · exact light_applyAndContinue w ..
    · exact .dropped rfl rfl
  | configs => exact (hc rfl).elim
  | selectVpnCountry => exact (hs rfl).elim
  | config suggestedFileName =>
    simp only [succeeded, configSucceeded]
    split
    · exact .dropped rfl rfl
    · exact light_deliverConfig w ..
  | billing =>
    simp only [succeeded, billingSucceeded]
    split
    · exact .dropped rfl rfl
    · exact .same rfl rfl
  | billingConfirm transactionId => exact (light_refresh _).after rfl rfl

theorem light_failed (status : Int) (apiError : String) {continuation : Continuation} {w' : World ρ}
    (hc : ¬(continuation = .geoRoutingCountries ∧ status = 404))
    (h : failed qt app env status apiError w continuation = some w') : Light w w' := by
  cases continuation with
  | countrySelection =>
    cases h
    simp only [countrySelectionFailed]
    repeat' split
    · exact light_registerDevice w false
    · exact .same rfl rfl
    · exact light_endSession w
    · exact .dropped rfl rfl
  | geoRoutingCountries =>
    cases h
    simp only [geoRoutingCountriesFailed]
    repeat' split
    next hs => exact (hc ⟨rfl, hs⟩).elim
    · exact light_endSession w
    · exact .dropped rfl rfl
  | logoutAll | accountDeletion =>
    cases h
    split
    · exact light_endSession w
    · exact .dropped rfl rfl
  | registerDevice emitSignedIn =>
    cases h
    simp only [registerDeviceFailed]
    cases emitSignedIn
    all_goals
      repeat' split
      all_goals first
        | exact light_endSession w
        | exact .dropped rfl rfl
        | exact ((light_maybeNotifySubscription _).trans (light_fail _ _)).after rfl rfl
  | authenticate path emailAccount | linkTelegram | logout | countryRouting country cacheKey
  | defaultRouting cacheKey | selectVpnCountry | config suggestedFileName | billingConfirm transactionId =>
    cases h
    simp only [authenticateFailed, linkTelegramFailed, logoutFailed, countryRoutingFailed, defaultRoutingFailed,
      selectVpnCountryFailed, configFailed, billingConfirmFailed]
    repeat' split
    all_goals first
      | exact .same rfl rfl
      | exact .dropped rfl rfl
      | exact light_endSession w
      | exact light_clearSession w
  | me | configs | billing => cases h

theorem light_unhandled (post : Bool) (r : Reply) : Light w (unhandled post r w) := by
  simp only [unhandled]
  repeat' split
  all_goals first | exact light_fail w _ | exact light_endSession w

theorem light_backgroundFinished (cacheKey country : String) (r : Reply) :
    Light w (backgroundFinished qt app env cacheKey country r w) := by
  simp only [backgroundFinished]
  repeat' split
  · exact .same rfl rfl
  · exact .same rfl rfl
  · exact .same rfl rfl
  · exact (light_cachedRouting ..).trans (light_storeRoutingCache ..)

theorem light_downloadFinished (fileName mode profile : String) (r : Reply) :
    Light w (downloadFinished fileName mode profile r w) := by
  simp only [downloadFinished]
  split
  · exact .dropped rfl rfl
  · exact .same rfl rfl

theorem light_purchaseFinished (id : Nat) (outcome : Purchase) : Light w (purchaseFinished id outcome w) := by
  simp only [purchaseFinished]
  split
  · cases outcome with
    | cancelled | succeeded transactionId productId originalTransactionId storeEnvironment => exact .same rfl rfl
    | pending | failed errorString => exact .dropped rfl rfl
  · exact .same rfl rfl

end

end TunnelCore.Account
