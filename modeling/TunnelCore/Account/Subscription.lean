import TunnelCore.Account.Handlers
import Mathlib.Data.List.Induction

namespace TunnelCore.Account

variable {ρ : Type} (qt : Qt)

/-- `expiry.isValid() && (!latestExpiry.isValid() || expiry > latestExpiry)` -/
def isLater : Option Int → Option Int → Bool
  | none, _ => false
  | some _, none => true
  | some expiry, some latestExpiry => latestExpiry < expiry

/-- One turn of the loop of `primarySubscription`, on `primary` and `latestExpiry`. -/
def primaryStep (shown : JsonObject × Option Int) (subscriptionValue : Json) : JsonObject × Option Int :=
  let subscription := subscriptionValue.toObject
  let expiry := subscriptionExpiry qt subscription
  if shown.1.isEmpty || isLater expiry shown.2 then (subscription, expiry) else shown

def primarySubscription (subscriptions : List Json) : JsonObject := (subscriptions.foldl (primaryStep qt) ([], none)).1

def expiries (subscriptions : List Json) : List Int :=
  subscriptions.filterMap fun subscription => subscriptionExpiry qt subscription.toObject

variable {qt}

structure IsLatest (dates : List Int) (latest : Option Int) : Prop where
  mem : ∀ t, latest = some t → t ∈ dates
  bound : ∀ e ∈ dates, ∃ t, latest = some t ∧ e ≤ t

namespace IsLatest

variable {dates : List Int} {latest other : Option Int}

theorem nil : IsLatest [] none := ⟨fun _ => nofun, fun _ => nofun⟩

theorem unique (h : IsLatest dates latest) (h' : IsLatest dates other) : latest = other := by
  cases latest with
  | some t =>
    obtain ⟨t', rfl, hle⟩ := h'.bound t (h.mem t rfl)
    obtain ⟨_, ht, hge⟩ := h.bound t' (h'.mem t' rfl)
    obtain rfl := Option.some.inj ht
    rw [Int.le_antisymm hle hge]
  | none =>
    cases other with
    | none => rfl
    | some t =>
      obtain ⟨_, ht, -⟩ := h.bound t (h'.mem t rfl)
      cases ht

theorem concat (h : IsLatest dates latest) (expiry : Option Int) :
    IsLatest (dates ++ expiry.toList) (if isLater expiry latest then expiry else latest) := by
  cases expiry with
  | none => simpa [isLater] using h
  | some e =>
    rw [Option.toList_some]
    by_cases hlater : isLater (some e) latest = true
    · rw [if_pos hlater]
      refine ⟨fun t ht => by simp [Option.some.inj ht], fun x hx => ⟨e, rfl, ?_⟩⟩
      rcases List.mem_append.mp hx with hx | hx
      · obtain ⟨t, rfl, hle⟩ := h.bound x hx
        have : t < e := of_decide_eq_true hlater
        omega
      · exact Int.le_of_eq (List.mem_singleton.mp hx)
    · rw [if_neg hlater]
      refine ⟨fun t ht => List.mem_append_left _ (h.mem t ht), fun x hx => ?_⟩
      rcases List.mem_append.mp hx with hx | hx
      · exact h.bound x hx
      · cases latest with
        | none => exact absurd rfl hlater
        | some t =>
          refine ⟨t, rfl, ?_⟩
          rw [List.mem_singleton.mp hx]
          exact Int.not_lt.mp fun hlt => hlater (decide_eq_true hlt)

theorem eq_none_iff (h : IsLatest dates latest) : latest = none ↔ dates = [] := by
  constructor
  · rintro rfl
    refine List.eq_nil_iff_forall_not_mem.mpr fun e he => ?_
    obtain ⟨t, ht, -⟩ := h.bound e he
    cases ht
  · rintro rfl
    exact h.unique nil

theorem passed_iff (h : IsLatest dates latest) (now : Int) :
    (∀ t, latest = some t → t ≤ now) ↔ ∀ e ∈ dates, e ≤ now := by
  constructor
  · intro hall e he
    obtain ⟨t, ht, hle⟩ := h.bound e he
    exact Int.le_trans hle (hall t ht)
  · exact fun hall t ht => hall t (h.mem t ht)

end IsLatest

theorem expiries_concat (subscriptions : List Json) (subscription : Json) :
    expiries qt (subscriptions ++ [subscription]) =
      expiries qt subscriptions ++ (subscriptionExpiry qt subscription.toObject).toList := by
  rw [expiries, List.filterMap_append, ← expiries]
  cases h : subscriptionExpiry qt subscription.toObject <;> simp [h]

theorem accountExpiry_of_list {entitlement : JsonObject}
    (h : (entitlement.value "active").toBool = true → readDate qt (entitlement.value "expires_at").toString = none)
    (subscriptions : List Json) : IsLatest (expiries qt subscriptions) (accountExpiry qt subscriptions entitlement) := by
  have hentitled : (if (entitlement.value "active").toBool then readDate qt (entitlement.value "expires_at").toString
      else none) = none := by
    split
    · exact h ‹_›
    · rfl
  rw [accountExpiry, hentitled]
  change IsLatest _ (subscriptions.foldl _ none)
  induction subscriptions using List.reverseRecOn with
  | nil => exact .nil
  | append_singleton subscriptions subscription ih =>
    rw [List.foldl_append, expiries_concat, List.foldl_cons, List.foldl_nil]
    have hnext := ih.concat (subscriptionExpiry qt subscription.toObject)
    generalize subscriptions.foldl _ none = latest at *
    cases hexpiry : subscriptionExpiry qt subscription.toObject with
    | none =>
      rw [hexpiry] at hnext
      exact hnext
    | some expiry =>
      rw [hexpiry] at hnext
      cases latest with
      | none => exact hnext
      | some t => simpa only [isLater, decide_eq_true_eq] using hnext

theorem accountExpiry_of_entitlement {entitlement : JsonObject} {date : Int}
    (hactive : (entitlement.value "active").toBool = true)
    (hdate : readDate qt (entitlement.value "expires_at").toString = some date) (subscriptions : List Json) :
    accountExpiry qt subscriptions entitlement = some date := by
  simp [accountExpiry, hactive, hdate]

/-- The loop shows a subscription with the latest date. Until it shows one that is not empty it takes each next,
whatever its date; an empty one has none. -/
theorem foldl_primaryStep (hqt : subscriptionExpiry qt [] = none) (subscriptions : List Json) :
    IsLatest (expiries qt subscriptions) (subscriptions.foldl (primaryStep qt) ([], none)).2 ∧
      subscriptionExpiry qt (subscriptions.foldl (primaryStep qt) ([], none)).1 =
        (subscriptions.foldl (primaryStep qt) ([], none)).2 := by
  induction subscriptions using List.reverseRecOn with
  | nil => exact ⟨.nil, hqt⟩
  | append_singleton subscriptions subscription ih =>
    rw [List.foldl_append, List.foldl_cons, List.foldl_nil, expiries_concat]
    obtain ⟨hlatest, hshown⟩ := ih
    generalize subscriptions.foldl (primaryStep qt) ([], none) = shown at *
    have hnext := hlatest.concat (subscriptionExpiry qt subscription.toObject)
    rw [primaryStep]
    by_cases hlater : isLater (subscriptionExpiry qt subscription.toObject) shown.2 = true
    · rw [if_pos hlater] at hnext
      simpa [hlater] using hnext
    · rw [if_neg hlater] at hnext
      by_cases hempty : shown.1.isEmpty = true
      · have hnone : shown.2 = none := by rw [← hshown, List.isEmpty_iff.mp hempty, hqt]
        have hinvalid : subscriptionExpiry qt subscription.toObject = none := by
          rw [hnone] at hlater
          cases h : subscriptionExpiry qt subscription.toObject with
          | none => rfl
          | some e => simp [h, isLater] at hlater
        simpa [hempty, hinvalid, hnone] using hnext
      · simpa [hlater, hempty, hshown] using hnext

theorem maybeNotifySubscription_state (app : App ρ) (env : Env) (w : World ρ) :
    (maybeNotifySubscription qt app env w).controller.subscriptions = w.controller.subscriptions ∧
      (maybeNotifySubscription qt app env w).controller.subscriptionExpiresAt = w.controller.subscriptionExpiresAt ∧
      (maybeNotifySubscription qt app env w).controller.subscriptionKnown = w.controller.subscriptionKnown := by
  rw [maybeNotifySubscription]
  split
  · exact ⟨rfl, rfl, rfl⟩
  · split <;> exact ⟨rfl, rfl, rfl⟩

theorem meSucceeded_state (app : App ρ) (env : Env) {object : JsonObject}
    (harray : (object.value "subscriptions").isArray = true) (w : World ρ) :
    (meSucceeded qt app env object w).controller.subscriptions = (object.value "subscriptions").toArray ∧
      (meSucceeded qt app env object w).controller.subscriptionExpiresAt =
        accountExpiry qt (object.value "subscriptions").toArray (object.value "entitlement").toObject ∧
      (meSucceeded qt app env object w).controller.subscriptionKnown = true ∧
      (meSucceeded qt app env object w).controller.token = w.controller.token := by
  rw [meSucceeded, harray]
  simp only [updateSubscriptionState, Bool.not_true, Bool.false_eq_true, if_false]
  refine ⟨(maybeNotifySubscription_state app env _).1, (maybeNotifySubscription_state app env _).2.1,
    (maybeNotifySubscription_state app env _).2.2, maybeNotifySubscription_token.trans ?_⟩
  by_cases hlinked : (object.value "telegram_linked").isBool = true
  · rw [if_pos hlinked]
    rfl
  · rw [if_neg hlinked]
    rfl

theorem subscriptionExpired_iff {env : Env} {c : Controller} (hauth : c.authenticated = true)
    (hknown : c.subscriptionKnown = true) :
    subscriptionExpired env c = true ↔ ∀ t, c.subscriptionExpiresAt = some t → t ≤ env.now := by
  rw [subscriptionExpired, hauth, hknown]
  cases c.subscriptionExpiresAt <;> simp

/-- What the account reply `object` is to make of the subscription: an entitlement decides alone, and without one the
list does. -/
def SubscriptionOf (qt : Qt) (env : Env) (object : JsonObject) (c : Controller) : Prop :=
  let entitlement := (object.value "entitlement").toObject
  if entitlement = [] then
    IsLatest (expiries qt c.subscriptions) c.subscriptionExpiresAt ∧
      subscriptionExpiry qt (primarySubscription qt c.subscriptions) = c.subscriptionExpiresAt ∧
      (subscriptionExpired env c = true ↔ ∀ t, c.subscriptionExpiresAt = some t → t ≤ env.now)
  else if (entitlement.value "active").toBool then
    c.subscriptionExpiresAt = readDate qt (entitlement.value "expires_at").toString
  else subscriptionExpired env c = true

/-- The account has the subscription of its reply exactly if the list cannot speak where an entitlement was to decide:
for an active one, the date can be read or the list has none; for an inactive one, no date of the list is still to
come. -/
theorem subscription_state_of_reply (app : App ρ) (env env' : Env) (hqt : subscriptionExpiry qt [] = none)
    {object : JsonObject} (harray : (object.value "subscriptions").isArray = true) (w : World ρ)
    (hauth : w.controller.authenticated = true) :
    let entitlement := (object.value "entitlement").toObject
    let dates := expiries qt (object.value "subscriptions").toArray
    SubscriptionOf qt env' object (meSucceeded qt app env object w).controller ↔
      entitlement = [] ∨
      (entitlement.value "active").toBool = true ∧
        ((readDate qt (entitlement.value "expires_at").toString).isSome ∨ dates = []) ∨
      (entitlement.value "active").toBool = false ∧ ∀ e ∈ dates, e ≤ env'.now := by
  intro entitlement dates
  obtain ⟨hsubs, hexpiry, hknown, htoken⟩ := meSucceeded_state app env harray w
  generalize (meSucceeded qt app env object w).controller = c at hsubs hexpiry hknown htoken ⊢
  have hexpired : subscriptionExpired env' c = true ↔ _ :=
    subscriptionExpired_iff (by rwa [Controller.authenticated, htoken]) hknown
  have hlist : ((entitlement.value "active").toBool = true →
      readDate qt (entitlement.value "expires_at").toString = none) → IsLatest dates c.subscriptionExpiresAt := by
    rw [hexpiry]
    exact fun h => accountExpiry_of_list h _
  change (if entitlement = [] then _ else if (entitlement.value "active").toBool then _ else _) ↔ _
  split
  next hempty =>
    have hlatest := hlist fun hactive => by
      rw [hempty] at hactive
      cases hactive
    obtain ⟨hshown, hprimary⟩ := foldl_primaryStep hqt c.subscriptions
    rw [hsubs] at hshown hprimary ⊢
    exact iff_of_true ⟨hlatest, hprimary.trans (hshown.unique hlatest), hexpired⟩ (.inl hempty)
  next hne =>
  rw [or_iff_right hne]
  split
  next hactive =>
    rw [or_iff_left fun h => Bool.false_ne_true (h.1.symm.trans hactive), and_iff_right hactive]
    cases hdate : readDate qt (entitlement.value "expires_at").toString with
    | some date => exact iff_of_true (hexpiry.trans (accountExpiry_of_entitlement hactive hdate _)) (.inl rfl)
    | none =>
      rw [(hlist fun _ => hdate).eq_none_iff]
      simp
  next hinactive =>
    rw [hexpired, (hlist fun hactive => absurd hactive hinactive).passed_iff]
    simp [hinactive]

section Samples

def datedQt : Qt := { plainQt with isoDate := fun text => if text = "tomorrow" then some 86400000 else none }

def signedInWorld : World Unit := start datedQt plainApp plainEnv signedInStore

def datedSubscriptions : Json := .array [.object [], .object [("expires_at", .string "tomorrow")], .object []]

theorem subscription_state_of_list :
    subscriptionExpiry datedQt [] = none ∧ signedInWorld.controller.authenticated = true ∧
      SubscriptionOf datedQt plainEnv [("subscriptions", datedSubscriptions)]
        (meSucceeded datedQt plainApp plainEnv [("subscriptions", datedSubscriptions)] signedInWorld).controller := by
  have hqt : subscriptionExpiry datedQt [] = none := by decide +kernel
  have hauth : signedInWorld.controller.authenticated = true := by decide +kernel
  have harray : (JsonObject.value [("subscriptions", datedSubscriptions)] "subscriptions").isArray = true := rfl
  exact ⟨hqt, hauth,
    (subscription_state_of_reply plainApp plainEnv plainEnv hqt harray signedInWorld hauth).mpr (.inl rfl)⟩

/-- An account with an entitlement, and a subscription in the list that runs on. -/
def entitledAccount (entitlement : JsonObject) : JsonObject :=
  [("subscriptions", datedSubscriptions), ("entitlement", .object entitlement)]

/-- With an inactive entitlement the account is not expired, and with an active one without a date it has the date of
the list. -/
theorem entitlement_overruled_by_list :
    subscriptionExpired plainEnv (meSucceeded datedQt plainApp plainEnv
        (entitledAccount [("active", .bool false)]) signedInWorld).controller = false ∧
      (meSucceeded datedQt plainApp plainEnv
        (entitledAccount [("active", .bool true)]) signedInWorld).controller.subscriptionExpiresAt = some 86400000 := by
  decide +kernel

end Samples

end TunnelCore.Account
