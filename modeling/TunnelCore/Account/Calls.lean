import TunnelCore.Account.World

namespace TunnelCore.Account

variable {ρ : Type}

def fail (message : String) (w : World ρ) : World ρ :=
  w.modify fun c => { c with busy := false, pendingConfigId := 0, error := message }

def clearError (w : World ρ) : World ρ := w.modify fun c => { c with error := "" }

/-- `request`; the handler is given by what it captures. -/
def request (endpoint : Endpoint) (body : JsonObject) (continuation : Continuation) (post authenticatedRequest : Bool)
    (w : World ρ) : World ρ :=
  w.sendForeground (.api post continuation)
    (.api endpoint post (if !post || authenticatedRequest then some w.controller.token else none) body)

def saveSession (w : World ρ) : World ρ :=
  { w with
    store := { w.store with
      session := some ⟨w.controller.token, w.controller.username, w.controller.emailAccount,
        w.controller.telegramLinked⟩ } }

/-- The aborted reply finds another generation than the one it was sent in, and its handler returns. -/
def abortReply (w : World ρ) : World ρ :=
  match w.controller.reply with
  | some id => w.finish id
  | none => w

def nextGeneration (w : World ρ) : World ρ :=
  (w.modify fun c => { c with generation := c.generation + 1 }).record .cleared

def clearSession (w : World ρ) : World ρ :=
  let w := abortReply (nextGeneration w)
  { w with
    controller := { w.controller with
      reply := none
      token := ""
      username := ""
      subscriptions := []
      configs := []
      vpnCountries := []
      vpnCountryMode := "auto"
      selectedVpnCountry := ""
      effectiveVpnCountry := ""
      pendingConfigId := 0
      error := ""
      selectedConfigId := 0
      busy := false
      emailAccount := false
      telegramLinked := false
      accountDeletionRequested := false
      subscriptionKnown := false
      subscriptionAutoRenew := false
      subscriptionExpiresAt := none
      lastSubscriptionNotificationKey := ""
      lastAppliedRoutingCacheKey := ""
      lastAppliedRoutingRevision := "" }
    store := { w.store with session := none } }

def endSession (w : World ρ) : World ρ := fail "Your session has ended. Sign in again." (clearSession w)

def deviceQuery (c : Controller) : Option String := if c.deviceId = "" then none else some c.deviceId

section

variable (qt : Qt) (app : App ρ) (env : Env)

def ensureDeviceId (w : World ρ) : World ρ :=
  if w.controller.deviceId = "" then
    { w with controller := { w.controller with deviceId := env.uuid }, store := { w.store with deviceId := env.uuid } }
  else w

def registerDevice (emitSignedIn : Bool) (w : World ρ) : World ρ :=
  let w := ensureDeviceId env w
  request .devicesRegister
    [("device_id", .string w.controller.deviceId), ("platform", .string app.platform.name)]
    (.registerDevice emitSignedIn) true true w

def readDate (text : String) : Option Int := (qt.isoDateWithMs text).orElse fun _ => qt.isoDate text

def subscriptionExpiry (subscription : JsonObject) : Option Int :=
  readDate qt (qt.variantString (subscription.value "expires_at"))

def subscriptionExpired (c : Controller) : Bool :=
  c.authenticated && c.subscriptionKnown &&
    match c.subscriptionExpiresAt with
    | none => true
    | some expiry => expiry ≤ env.now

def subscriptionDaysRemaining (c : Controller) : Int :=
  match c.subscriptionExpiresAt with
  | none => 0
  | some expiry =>
    let seconds := (expiry - env.now).tdiv 1000
    if seconds ≤ 0 then 0 else (seconds + 86399) / 86400

def subscriptionWarningVisible (c : Controller) : Bool :=
  c.authenticated && c.subscriptionKnown && !c.subscriptionAutoRenew &&
    (subscriptionExpired env c || subscriptionDaysRemaining env c ≤ 7)

def subscriptionStatusText (c : Controller) : String :=
  if !c.subscriptionKnown then ""
  else if subscriptionExpired env c then "VPN subscription is inactive. Renew it to keep using TunnelCore VPN."
  else if subscriptionDaysRemaining env c ≤ 0 then "Your VPN subscription expires today."
  else if subscriptionDaysRemaining env c = 1 then "Your VPN subscription expires tomorrow."
  else s!"Your VPN subscription expires in {subscriptionDaysRemaining env c} days."

def reminderStage (c : Controller) : String :=
  if subscriptionExpired env c then "expired"
  else if subscriptionDaysRemaining env c ≤ 1 then "1d"
  else if subscriptionDaysRemaining env c ≤ 3 then "3d"
  else "7d"

def maybeNotifySubscription (w : World ρ) : World ρ :=
  let key := (w.controller.subscriptionExpiresAt.map qt.isoText).getD "" ++ ":" ++ reminderStage env w.controller
  if !subscriptionWarningVisible env w.controller || key = w.controller.lastSubscriptionNotificationKey then w
  else if app.platform = .android || app.notifies then
    (w.record (.notified (subscriptionStatusText env w.controller))).modify fun c =>
      { c with lastSubscriptionNotificationKey := key }
  else w

/-- The expiry of the account: the entitlement's, or else the latest of the subscriptions. -/
def accountExpiry (subscriptions : List Json) (entitlement : JsonObject) : Option Int :=
  let entitled :=
    if (entitlement.value "active").toBool then readDate qt (entitlement.value "expires_at").toString else none
  entitled.orElse fun _ =>
    subscriptions.foldl (fun latest subscription =>
      match subscriptionExpiry qt subscription.toObject, latest with
      | some expiry, some t => if t < expiry then some expiry else some t
      | some expiry, none => some expiry
      | none, _ => latest) none

def updateSubscriptionState (account : JsonObject) (w : World ρ) : World ρ :=
  let entitlement := (account.value "entitlement").toObject
  maybeNotifySubscription qt app env <| w.modify fun c =>
    { c with
      subscriptionKnown := true
      subscriptionAutoRenew := (entitlement.value "auto_renew").toBool
      subscriptionExpiresAt := accountExpiry qt c.subscriptions entitlement }

def authenticate (path : Endpoint) (credentials : JsonObject) (emailAccount : Bool) (w : World ρ) : World ρ :=
  request path credentials (.authenticate path emailAccount) true false w

def login (username password : String) (w : World ρ) : World ρ :=
  if w.controller.busy || w.controller.authenticated then w
  else if qt.trimmed username = "" || password = "" then fail "Enter the username and password from the bot." w
  else authenticate .authLogin [("username", .string (qt.trimmed username)), ("password", .string password)] false w

def isCode (code : String) : Bool := qt.size code = 6 && qt.isUInt code

def loginCode (code : String) (w : World ρ) : World ρ :=
  if w.controller.busy || w.controller.authenticated then w
  else if !isCode qt (qt.trimmed code) then fail "Enter the six-digit code from the bot." w
  else authenticate .authCodeExchange [("code", .string (qt.trimmed code))] false w

/-- `loginEmail` and `registerEmail`, which differ in the path only. -/
def withEmail (path : Endpoint) (email password : String) (w : World ρ) : World ρ :=
  let normalizedEmail := qt.toLower (qt.trimmed email)
  if w.controller.busy || w.controller.authenticated then w
  else if normalizedEmail = "" || password = "" then fail "Enter your email and password." w
  else authenticate path [("email", .string normalizedEmail), ("password", .string password)] true w

def loginEmail (email password : String) (w : World ρ) : World ρ := withEmail qt .authLogin email password w

def registerEmail (email password : String) (w : World ρ) : World ρ := withEmail qt .authRegister email password w

def linkTelegram (code : String) (w : World ρ) : World ρ :=
  if w.controller.busy || !w.controller.authenticated || !w.controller.emailAccount then w
  else if !isCode qt (qt.trimmed code) then fail "Enter the six-digit code from the bot." w
  else request .authTelegramLink [("code", .string (qt.trimmed code))] .linkTelegram true true w

/-- Unlike the other calls, `logout` and `logoutAll` do not look at `m_busy`. -/
def logout (w : World ρ) : World ρ :=
  if !w.controller.authenticated then clearSession w
  else if w.controller.deviceId = "" then fail "Could not sign out because this device is not registered." w
  else request .devicesRevoke [("device_id", .string w.controller.deviceId)] .logout true true w

def logoutAll (w : World ρ) : World ρ :=
  if !w.controller.authenticated then clearSession w else request .devicesRevokeAll [] .logoutAll true true w

def requestAccountDeletion (w : World ρ) : World ρ :=
  if w.controller.busy || !w.controller.authenticated || w.controller.accountDeletionRequested then w
  else request .accountDeleteRequest [] .accountDeletion true true w

def refresh (w : World ρ) : World ρ :=
  if w.controller.busy || !w.controller.authenticated then w
  else request .me [] .me false false (w.modify fun c => { c with configs := [], subscriptions := [] })

def refreshConfigs (w : World ρ) : World ρ := request (.configs (deviceQuery w.controller)) [] .configs false false w

def refreshGeoRoutingCountries (w : World ρ) : World ρ :=
  request .routingCountries [] .geoRoutingCountries false false w

def vpnCountryDisplayName (countryCode : String) : String :=
  let code := qt.toUpper (qt.trimmed countryCode)
  if code = "" then ""
  else
    match qt.territory code with
    | some name => if name = "" then code else name
    | none => code

/-- `applyVpnCountrySelection`, `none` where it returns false. -/
def applyVpnCountrySelection (object : JsonObject) (w : World ρ) : Option (World ρ) :=
  let selection := (object.value "selection").toObject
  let mode := qt.toLower (qt.trimmed (selection.value "mode").toString)
  if (object.value "selection").isObject && (selection.value "countries").isArray && (mode = "auto" || mode = "country")
  then
    some <| w.modify fun c =>
      { c with
        vpnCountries := (selection.value "countries").toArray
        vpnCountryMode := mode
        selectedVpnCountry := qt.toUpper (qt.trimmed (selection.value "country").toString)
        effectiveVpnCountry := qt.toUpper (qt.trimmed (selection.value "effective_country").toString)
        selectedConfigId := (qt.variantLongLong (selection.value "config_id")).getD 0 }
  else none

def normalizeObfuscationPolicy (object : JsonObject) : String × String :=
  let mode :=
    if qt.toLower (qt.trimmed (object.value "mode").toString) = "client_dynamic" then "client_dynamic" else "static"
  let profile := qt.toLower (qt.trimmed (object.value "profile").toString)
  (mode, if mode = "client_dynamic" && profile = "" then "auto" else profile)

def deliverConfig (data fileName obfuscationMode obfuscationProfile : String) (w : World ρ) : World ρ :=
  let url := qt.url data
  if url.scheme ≠ "https" then w.record (.configReady data fileName obfuscationMode obfuscationProfile)
  else if url.host = "" || url.userInfo ≠ "" then fail "The server returned an invalid configuration URL." w
  else w.sendForeground (.download fileName obfuscationMode obfuscationProfile) (.download data)

def useConfig (config : JsonObject) (w : World ρ) : World ρ :=
  let data := qt.trimmed (qt.variantString (config.value "config"))
  let listedFileName := qt.trimmed (qt.variantString (config.value "filename"))
  let suggestedFileName :=
    if listedFileName ≠ "" then listedFileName else qt.trimmed (qt.variantString (config.value "name"))
  let policy := normalizeObfuscationPolicy qt (config.value "obfuscation").toObject
  if data ≠ "" then deliverConfig qt data suggestedFileName policy.1 policy.2 w
  else
    match qt.variantLongLong (config.value "id") with
    | some configId =>
      if configId ≤ 0 then fail "The server returned invalid configuration data." w
      else request (.config configId (deviceQuery w.controller)) [] (.config suggestedFileName) false false w
    | none => fail "The server returned invalid configuration data." w

def selectConfig (index : Int) (w : World ρ) : World ρ :=
  if w.controller.busy || !w.controller.authenticated || index < 0 then w
  else
    match w.controller.configs[index.toNat]? with
    | some config => useConfig qt config.toObject w
    | none => w

def selectCurrentConfig (w : World ρ) : World ρ :=
  let c := w.controller
  let selected (config : Json) : Bool :=
    0 < c.selectedConfigId && (qt.variantLongLong (config.toObject.value "id")).getD 0 = c.selectedConfigId
  if c.busy || !c.authenticated then w
  else
    match c.configs.findIdx? selected with
    | some i => selectConfig qt i w
    | none =>
      if c.selectedConfigId ≤ 0 && c.configs.length = 1 then selectConfig qt 0 w
      else fail "No configuration is available for the selected VPN location. Refresh and try again." w

def routingCacheTimestampKey : String := "_tunnelcore_cached_at"

def routingCacheRefreshIntervalSecs : Int := 6 * 60 * 60

def hasRules (routing : JsonObject) : Bool := (routing.value "rules").isArray

def routingCacheKey (countryCode : String) : String :=
  let country := qt.toUpper (qt.trimmed countryCode)
  if country = "" then s!"default:{app.platform.name}" else s!"country:{country}:{app.platform.name}"

def currentCountry (w : World ρ) : String := qt.toUpper (qt.trimmed w.controller.geoRoutingCountry)

def currentKey (w : World ρ) : String := routingCacheKey qt app (currentCountry qt w)

/-- The cached policy, empty when there is none; one read from the storage is kept in memory. -/
def cachedRouting (cacheKey : String) (w : World ρ) : JsonObject × World ρ :=
  match w.controller.routingCache cacheKey with
  | some cached => (cached, w)
  | none =>
    let stored := w.store.routingCache cacheKey
    if hasRules stored then
      (stored, w.modify fun c => { c with routingCache := Function.update c.routingCache cacheKey (some stored) })
    else ([], w)

def storeRoutingCache (cacheKey : String) (routing : JsonObject) (w : World ρ) : World ρ :=
  if hasRules routing then
    let stored := routing.insert routingCacheTimestampKey (.string (qt.isoTextWithMs env.now))
    { w with
      controller := { w.controller with
        routingCache := Function.update w.controller.routingCache cacheKey (some stored) }
      store := { w.store with routingCache := Function.update w.store.routingCache cacheKey stored } }
  else w

def routingCacheIsFresh (routing : JsonObject) : Bool :=
  match readDate qt (routing.value routingCacheTimestampKey).toString with
  | none => false
  | some cachedAt =>
    let age := (env.now - cachedAt).tdiv 1000
    0 ≤ age && age < routingCacheRefreshIntervalSecs

def routingRevision (routing : JsonObject) : String :=
  let version := qt.trimmed (routing.value "version").toString
  if version ≠ "" then version else qt.digest (routing.remove routingCacheTimestampKey)

def directRule (subnet : String) : Json :=
  .object [("type", .string "ip"), ("value", .string subnet), ("route", .string "direct"), ("priority", .number 0)]

def normalizeRoutingResponse (countryCode : String) (object : JsonObject) : Except String JsonObject :=
  let country := qt.toUpper (qt.trimmed countryCode)
  if country = "" then
    if hasRules object then .ok object else .error "The server returned an invalid VPN routing rule list."
  else if (object.value "mode").toString ≠ "country_direct" || (object.value "default_route").toString ≠ "vpn" ||
      (object.value "country_route").toString ≠ "direct" || !(object.value "ipv4").isArray then
    .error "The server returned invalid country routing data."
  else
    let subnets := ((object.value "ipv4").toArray.map fun v => qt.trimmed v.toString).filter (· ≠ "")
    .ok [("ok", .bool true), ("version", object.value "version"), ("platform", .string app.platform.name),
      ("country", .string country), ("rules", .array (subnets.map directRule))]

def alreadyApplied (cacheKey : String) (routing : JsonObject) (c : Controller) : Bool :=
  cacheKey = c.lastAppliedRoutingCacheKey && routingRevision qt routing = c.lastAppliedRoutingRevision

def applyRouting (cacheKey : String) (routing : JsonObject) (reportError : Bool) (w : World ρ) : Bool × World ρ :=
  if !hasRules routing then
    (false, if reportError then fail "The server returned an invalid VPN routing rule list." w else w)
  else if alreadyApplied qt cacheKey routing w.controller then (true, w)
  else
    let (rejected, settings) := app.applyRouting routing w.store.routing
    let w := { w with store := { w.store with routing := settings } }
    match rejected with
    | some message =>
      (false, if reportError then
        fail (if message = "" then "Could not apply the VPN routing rules." else message) w else w)
    | none =>
      (true, w.modify fun c =>
        { c with lastAppliedRoutingCacheKey := cacheKey, lastAppliedRoutingRevision := routingRevision qt routing })

def routingEndpoint (country : String) : Endpoint :=
  if country = "" then .routingDefault app.platform else .routingCountry country

def refreshRoutingCacheInBackground (cacheKey countryCode : String) (w : World ρ) : World ρ :=
  let country := qt.toUpper (qt.trimmed countryCode)
  if !w.controller.authenticated || w.controller.routingRefreshInFlight.contains cacheKey then w
  else
    (w.send (.background cacheKey country)
      (.api (routingEndpoint app country) false (some w.controller.token) [])).modify fun c =>
      { c with routingRefreshInFlight := c.routingRefreshInFlight ++ [cacheKey] }

def refreshRouting (w : World ρ) : World ρ :=
  let country := qt.toUpper (qt.trimmed w.controller.geoRoutingCountry)
  let cacheKey := routingCacheKey qt app country
  let (cached, w) := cachedRouting cacheKey w
  if hasRules cached then
    let (applied, w) := applyRouting qt app cacheKey cached true w
    if !applied then w
    else
      let w := refreshConfigs w
      if routingCacheIsFresh qt env cached then w else refreshRoutingCacheInBackground qt app cacheKey country w
  else if country ≠ "" then
    request (.routingCountry country) [] (.countryRouting country cacheKey) false false w
  else request (.routingDefault app.platform) [] (.defaultRouting cacheKey) false false w

def selectGeoRoutingCountry (countryCode : String) (w : World ρ) : World ρ :=
  let normalized := qt.toUpper (qt.trimmed countryCode)
  if w.controller.busy || !w.controller.authenticated then w
  else if normalized = w.controller.geoRoutingCountry then w
  else if normalized ≠ "" && !(w.controller.geoRoutingCountries.any (·.1 = normalized)) then
    fail "The selected split-tunneling country is unavailable." w
  else
    refreshRouting qt app env
      { w with
        controller := { w.controller with geoRoutingCountry := normalized }
        store := { w.store with geoRoutingCountry := normalized } }

def selectVpnCountry (countryCode : String) (w : World ρ) : World ρ :=
  let normalized := qt.toUpper (qt.trimmed countryCode)
  let autoMode := normalized = "" || normalized = "AUTO"
  if w.controller.busy || !w.controller.authenticated then w
  else if (autoMode && w.controller.vpnCountryMode = "auto") ||
      (!autoMode && w.controller.vpnCountryMode = "country" && w.controller.selectedVpnCountry = normalized) then w
  else
    let w := ensureDeviceId env w
    request (.countrySelection none)
      (("device_id", .string w.controller.deviceId) ::
        if autoMode then [("mode", .string "auto")] else [("mode", .string "country"), ("country", .string normalized)])
      .selectVpnCountry true true w

def botUrl (c : Controller) : String :=
  if c.emailAccount && !c.telegramLinked then "https://t.me/tunnelcoree_bot"
  else "https://t.me/tunnelcoree_bot?start=renew_vpn"

def renewSubscription (w : World ρ) : World ρ :=
  if w.controller.busy || !w.controller.authenticated then w
  else
    match app.platform with
    | .android | .windows => w
    | .ios => request .billing [] .billing false false w
    | _ =>
      if app.openUrl (botUrl w.controller) then w.record (.opened (botUrl w.controller))
      else fail "Could not open the TunnelCore bot." w

end

end TunnelCore.Account
