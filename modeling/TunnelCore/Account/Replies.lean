import TunnelCore.Account.Calls

namespace TunnelCore.Account

/-- A finished reply: its status (0 without one), whether it failed, its body as JSON when it can
be parsed, and as text. -/
structure Reply where
  status : Int
  error : Bool
  document : Option Json
  text : String

namespace Reply

def successful (r : Reply) : Bool := 200 ≤ r.status && r.status < 300

/-- `QJsonDocument::fromJson(..).object()`, empty for anything but an object. -/
def object (r : Reply) : JsonObject :=
  match r.document with
  | some (.object fields) => fields
  | _ => []

def okObject (r : Reply) : Option JsonObject :=
  match r.document with
  | some (.object fields) => if (JsonObject.value fields "ok").toBool then some fields else none
  | _ => none

end Reply

variable {ρ : Type} (qt : Qt) (app : App ρ) (env : Env)

def registerDeviceSucceeded (emitSignedIn : Bool) (object : JsonObject) (w : World ρ) : World ρ :=
  if ((object.value "device").toObject.value "device_id").toString ≠ w.controller.deviceId then
    fail "The server returned invalid device registration data." w
  else refresh (if emitSignedIn then w.record .signedIn else w)

def registerDeviceFailed (emitSignedIn : Bool) (status : Int) (apiError : String) (w : World ρ) : World ρ :=
  let signIn (w : World ρ) : World ρ := if emitSignedIn then w.record .signedIn else w
  if status = 401 then endSession w
  else if status = 409 && apiError = "device_limit_reached" then
    fail "The device limit for this subscription has been reached. Remove another device and try again." (signIn w)
  else if status = 409 && apiError = "vpn_subscription_required" then
    fail "An active VPN subscription is required to register this device." <|
      maybeNotifySubscription qt app env <| (signIn w).modify fun c =>
        { c with subscriptionKnown := true, subscriptionAutoRenew := false, subscriptionExpiresAt := none }
  else if status = 503 && apiError = "vpn_node_unavailable" then
    fail "No VPN server is currently available for this device. Try again later." w
  else if status = 502 && apiError = "device_provisioning_failed" then
    fail "Could not prepare a VPN configuration for this device. Try again later." w
  else fail "Could not register this device. Try again." w

def validSession (token username : String) : Bool :=
  token ≠ "" && !token.toList.contains '\r' && !token.toList.contains '\n' && username ≠ ""

def accountName (emailAccount : Bool) (user : JsonObject) : String :=
  let email := (user.value "email").toString
  if emailAccount && email ≠ "" then email else (user.value "username").toString

def authenticateSucceeded (emailAccount : Bool) (object : JsonObject) (w : World ρ) : World ρ :=
  let token := qt.toLatin1 (object.value "access_token").toString
  let username := accountName emailAccount (object.value "user").toObject
  if !validSession token username || qt.toLower (object.value "token_type").toString ≠ "bearer" then
    fail "The server returned an invalid authentication response." w
  else
    registerDevice app env true <| saveSession <| w.modify fun c =>
      { c with
        token := token
        username := username
        emailAccount := emailAccount
        telegramLinked := (object.value "telegram_linked").toBool }

def authenticateFailed (path : Endpoint) (status : Int) (apiError : String) (w : World ρ) : World ρ :=
  if path = .authRegister then
    if status = 409 && apiError = "email_already_registered" then
      fail "An account with this email already exists. Sign in instead." w
    else if status = 400 && apiError = "password_invalid" then
      fail "The password does not meet the security requirements." w
    else if status = 400 && apiError = "email_and_password_required" then fail "Enter a valid email and password." w
    else fail "Could not create the account. Try again." w
  else if status = 400 && apiError = "email_and_password_required" then fail "Enter a valid email and password." w
  else if status = 400 && apiError = "username_and_password_required" then
    fail "The server rejected the login details. Check the sign-in method and API version." w
  else if status = 401 then fail "The login details or password are incorrect." w
  else fail "Could not connect to TunnelCore. Check your connection and try again." w

def linkTelegramFailed (status : Int) (apiError : String) (w : World ρ) : World ρ :=
  if status = 401 && apiError = "invalid_or_expired_code" then
    fail "The Telegram code is invalid or has expired. Request a new code in the bot." w
  else if status = 401 && apiError = "unauthorized" then endSession w
  else if status = 403 && apiError = "email_account_required" then
    fail "Telegram can only be linked to an email account." w
  else if status = 409 && apiError = "telegram_link_not_found" then
    fail "No Telegram account was found for this code." w
  else if status = 409 && apiError = "telegram_account_already_linked" then
    fail "This Telegram account is already linked to another email account." w
  else fail "Could not link the Telegram account. Try again." w

def logoutFailed (status : Int) (apiError : String) (w : World ρ) : World ρ :=
  if status = 401 then endSession w
  else if status = 404 && apiError = "device_not_found" then clearSession w
  else fail "Could not sign out and release this device. Check your connection and try again." w

def meSucceeded (object : JsonObject) (w : World ρ) : World ρ :=
  if !(object.value "subscriptions").isArray then fail "The server returned an invalid subscription list." w
  else
    let telegramLinked := object.value "telegram_linked"
    let deletionRequested := object.value "deletion_requested"
    let w :=
      if telegramLinked.isBool then saveSession (w.modify fun c => { c with telegramLinked := telegramLinked.toBool })
      else w
    let w := w.modify fun c =>
      { c with
        accountDeletionRequested :=
          if deletionRequested.isBool then deletionRequested.toBool else c.accountDeletionRequested
        subscriptions := (object.value "subscriptions").toArray }
    let w := updateSubscriptionState qt app env object w
    request (.countrySelection (deviceQuery w.controller)) [] .countrySelection false false w

def countrySelectionSucceeded (object : JsonObject) (w : World ρ) : World ρ :=
  match applyVpnCountrySelection qt object w with
  | some w => refreshGeoRoutingCountries w
  | none => fail "The server returned an invalid VPN country list." w

def countrySelectionFailed (status : Int) (apiError : String) (w : World ρ) : World ρ :=
  if status = 404 && apiError = "device_not_found" then registerDevice app env false w
  else if status = 404 then
    refreshGeoRoutingCountries <| w.modify fun c =>
      { c with
        vpnCountries := []
        vpnCountryMode := "auto"
        selectedVpnCountry := ""
        effectiveVpnCountry := ""
        selectedConfigId := 0 }
  else if status = 401 then endSession w
  else fail "Could not load the VPN country list." w

def geoRoutingCountriesSucceeded (object : JsonObject) (w : World ρ) : World ρ :=
  if !(object.value "countries").isArray then
    fail "The server returned an invalid split-tunneling country list." w
  else
    let codes := ((object.value "countries").toArray.map fun v => qt.toUpper (qt.trimmed v.toString)).filter
      fun code => qt.size code = 2
    let w := w.modify fun c =>
      { c with geoRoutingCountries := codes.map fun code => (code, vpnCountryDisplayName qt code) }
    let unavailable := w.controller.geoRoutingCountry ≠ "" &&
      !(w.controller.geoRoutingCountries.any (·.1 = w.controller.geoRoutingCountry))
    refreshRouting qt app env <|
      if unavailable then
        { w with
          controller := { w.controller with geoRoutingCountry := "" }
          store := { w.store with geoRoutingCountry := "" } }
      else w

/-- A server without country lists: the selection is dropped in memory only. -/
def geoRoutingCountriesFailed (status : Int) (w : World ρ) : World ρ :=
  if status = 404 then
    refreshRouting qt app env (w.modify fun c => { c with geoRoutingCountries := [], geoRoutingCountry := "" })
  else if status = 401 then endSession w
  else fail "Could not load the split-tunneling country list." w

def applyAndContinue (cacheKey : String) (routing : JsonObject) (w : World ρ) : World ρ :=
  let (applied, w) := applyRouting qt app cacheKey routing true (storeRoutingCache qt env cacheKey routing w)
  if applied then refreshConfigs w else w

def routingSucceeded (country cacheKey : String) (object : JsonObject) (w : World ρ) : World ρ :=
  match normalizeRoutingResponse qt app country object with
  | .ok routing => applyAndContinue qt app env cacheKey routing w
  | .error message => fail message w

def countryRoutingFailed (status : Int) (apiError : String) (w : World ρ) : World ρ :=
  if status = 401 then endSession w
  else if status = 404 || apiError = "country_disabled" then
    fail "This split-tunneling country is no longer available." w
  else if status = 503 || apiError = "geoip_unavailable" then
    fail "Country routing data is temporarily unavailable." w
  else fail "Could not load country routing data." w

def defaultRoutingFailed (status : Int) (w : World ρ) : World ρ :=
  if status = 404 then refreshConfigs w
  else if status = 401 then endSession w
  else fail "Could not load the VPN routing rules." w

def configsSucceeded (object : JsonObject) (w : World ρ) : World ρ :=
  if !(object.value "configs").isArray then fail "The server returned an invalid configuration list." w
  else
    let w := w.modify fun c => { c with configs := (object.value "configs").toArray }
    let configId := w.controller.pendingConfigId
    if configId ≤ 0 then w
    else
      let w := w.modify fun c => { c with pendingConfigId := 0 }
      match w.controller.configs.findIdx? fun config =>
          qt.variantLongLong (config.toObject.value "id") = some configId with
      | some index => selectConfig qt index w
      | none => fail "The server returned invalid configuration data." w

def selectVpnCountrySucceeded (object : JsonObject) (w : World ρ) : World ρ :=
  match applyVpnCountrySelection qt object w with
  | none => fail "The server returned invalid VPN country data." w
  | some w =>
    let announced := (qt.variantLongLong ((object.value "selection").toObject.value "config_id")).getD 0
    refreshRouting qt app env <| w.modify fun c =>
      { c with pendingConfigId := if 0 < announced then announced else 0, configs := [] }

def selectVpnCountryFailed (status : Int) (apiError : String) (w : World ρ) : World ρ :=
  if status = 401 then endSession w
  else if status = 409 || apiError = "country_unavailable" then
    fail "This VPN country is temporarily unavailable. Choose another country or Automatic." w
  else if status = 502 || apiError = "peer_migration_failed" then
    fail "Could not move your VPN connection to the selected country. Try again later." w
  else if status = 400 || apiError = "invalid_country_code" then fail "The selected VPN country is invalid." w
  else fail "Could not change the VPN country. Try again." w

def configSucceeded (suggestedFileName : String) (object : JsonObject) (w : World ρ) : World ρ :=
  let downloaded := qt.trimmed (object.value "config").toString
  let listed := qt.trimmed (object.value "filename").toString
  let name := qt.trimmed (object.value "name").toString
  let fileName := if listed ≠ "" then listed else if name ≠ "" then name else suggestedFileName
  let policy := normalizeObfuscationPolicy qt (object.value "obfuscation").toObject
  if downloaded = "" then fail "The server returned an empty VPN configuration." w
  else deliverConfig qt downloaded fileName policy.1 policy.2 w

def configFailed (status : Int) (apiError : String) (w : World ρ) : World ρ :=
  if status = 401 then endSession w
  else if status = 404 || apiError = "config_not_found" then
    fail "This configuration has already been retrieved or is no longer available. Refresh the list." w
  else if status = 502 || apiError = "config_unavailable" then
    fail "Could not retrieve the configuration from the VPN server. Try again later." w
  else fail "Could not download the VPN configuration." w

def accountDeletionSucceeded (object : JsonObject) (w : World ρ) : World ρ :=
  if (object.value "status").toString ≠ "pending" then
    fail "Could not confirm the account deletion request. Contact support." w
  else w.modify fun c => { c with accountDeletionRequested := true }

def appStoreProduct (object : JsonObject) : String :=
  let methods := ((object.value "billing").toObject.value "methods").toArray.map Json.toObject
  match methods.find? fun m => (m.value "type").toString = "app_store" with
  | some m => qt.trimmed (m.value "product_id").toString
  | none => ""

def billingSucceeded (object : JsonObject) (w : World ρ) : World ρ :=
  let productId := appStoreProduct qt object
  if productId = "" then fail "App Store renewal is not configured for this subscription." w
  else w.startPurchase productId

def billingConfirmSucceeded (transactionId : String) (w : World ρ) : World ρ :=
  refresh ((w.record (.transactionFinished transactionId)).modify fun c =>
    { c with lastSubscriptionNotificationKey := "" })

def billingConfirmFailed (status : Int) (apiError : String) (w : World ρ) : World ρ :=
  if status = 401 then endSession w
  else if status = 503 then fail "App Store renewal is temporarily unavailable." w
  else if apiError ≠ "" then fail "The App Store purchase could not be verified by TunnelCore." w
  else fail "Could not confirm the App Store purchase. Try again." w

def succeeded (object : JsonObject) (w : World ρ) : Continuation → World ρ
  | .registerDevice emitSignedIn => registerDeviceSucceeded emitSignedIn object w
  | .authenticate _ emailAccount => authenticateSucceeded qt app env emailAccount object w
  | .linkTelegram => refresh (saveSession (w.modify fun c => { c with telegramLinked := true }))
  | .logout | .logoutAll => clearSession w
  | .accountDeletion => accountDeletionSucceeded object w
  | .me => meSucceeded qt app env object w
  | .countrySelection => countrySelectionSucceeded qt object w
  | .geoRoutingCountries => geoRoutingCountriesSucceeded qt app env object w
  | .countryRouting country cacheKey => routingSucceeded qt app env country cacheKey object w
  | .defaultRouting cacheKey => routingSucceeded qt app env "" cacheKey object w
  | .configs => configsSucceeded qt object w
  | .selectVpnCountry => selectVpnCountrySucceeded qt app env object w
  | .config suggestedFileName => configSucceeded qt suggestedFileName object w
  | .billing => billingSucceeded qt object w
  | .billingConfirm transactionId => billingConfirmSucceeded transactionId w

def failed (status : Int) (apiError : String) (w : World ρ) : Continuation → Option (World ρ)
  | .registerDevice emitSignedIn => some (registerDeviceFailed qt app env emitSignedIn status apiError w)
  | .authenticate path _ => some (authenticateFailed path status apiError w)
  | .linkTelegram => some (linkTelegramFailed status apiError w)
  | .logout => some (logoutFailed status apiError w)
  | .logoutAll =>
    some (if status = 401 then endSession w
      else fail "Could not sign out on all devices. Check your connection and try again." w)
  | .accountDeletion =>
    some (if status = 401 then endSession w
      else fail "Could not submit the account deletion request. Try again or use the website." w)
  | .countrySelection => some (countrySelectionFailed app env status apiError w)
  | .geoRoutingCountries => some (geoRoutingCountriesFailed qt app env status w)
  | .countryRouting _ _ => some (countryRoutingFailed status apiError w)
  | .defaultRouting _ => some (defaultRoutingFailed status w)
  | .selectVpnCountry => some (selectVpnCountryFailed status apiError w)
  | .config _ => some (configFailed status apiError w)
  | .billingConfirm _ => some (billingConfirmFailed status apiError w)
  | .me | .configs | .billing => none

/-- What is left of the handler of `request` when no failure handler takes the reply. -/
def unhandled (post : Bool) (r : Reply) (w : World ρ) : World ρ :=
  if r.status = 401 then
    if post then fail "The login details or password are incorrect." w else endSession w
  else if post && r.status = 400 then
    let error := (r.object.value "error").toString
    if error = "email_and_password_required" then fail "Enter a valid email and password." w
    else if error = "username_and_password_required" then
      fail "The server rejected the login details. Check the sign-in method and API version." w
    else fail "The server rejected the login details." w
  else if r.error || !r.successful then
    fail "Could not connect to TunnelCore. Check your connection and try again." w
  else fail "The server returned an invalid response." w

def apiFinished (post : Bool) (continuation : Continuation) (r : Reply) (w : World ρ) : World ρ :=
  let w := w.modify fun c => { c with reply := none }
  let idle := w.modify fun c => { c with busy := false }
  if r.successful then
    match r.okObject with
    | some object => if r.error then unhandled post r w else succeeded qt app env object idle continuation
    | none => unhandled post r w
  else if 0 < r.status then
    (failed qt app env r.status (r.object.value "error").toString idle continuation).getD (unhandled post r w)
  else unhandled post r w

def backgroundFinished (cacheKey country : String) (r : Reply) (w : World ρ) : World ρ :=
  if r.error || !r.successful then w
  else
    match r.okObject with
    | none => w
    | some object =>
      match normalizeRoutingResponse qt app country object with
      | .error _ => w
      | .ok routing => storeRoutingCache qt env cacheKey routing (cachedRouting cacheKey w).2

def downloadFinished (fileName obfuscationMode obfuscationProfile : String) (r : Reply) (w : World ρ) : World ρ :=
  let w := w.modify fun c => { c with reply := none }
  if r.error || r.status ≠ 200 then
    fail "Could not download the configuration. Get a new configuration from the bot and refresh the list." w
  else
    (w.modify fun c => { c with busy := false }).record
      (.configReady r.text fileName obfuscationMode obfuscationProfile)

/-- A reply is delivered. Every handler compares generations; the one of a background refresh first
takes its key out of the set of those in flight. -/
def deliver (id : Nat) (r : Reply) (w : World ρ) : World ρ :=
  match w.pending.find? (·.id = id) with
  | none => w
  | some p =>
    let w := w.finish id
    match p.handler with
    | .api post continuation =>
      if p.generation = w.controller.generation then apiFinished qt app env post continuation r w else w
    | .background cacheKey country =>
      let w := w.modify fun c =>
        { c with routingRefreshInFlight := c.routingRefreshInFlight.filter (· ≠ cacheKey) }
      if p.generation = w.controller.generation then backgroundFinished qt app env cacheKey country r w else w
    | .download fileName obfuscationMode obfuscationProfile =>
      if p.generation = w.controller.generation then
        downloadFinished fileName obfuscationMode obfuscationProfile r w
      else w

inductive Purchase
  | succeeded (transactionId productId originalTransactionId storeEnvironment : String)
  | cancelled
  | pending
  | failed (errorString : String)

def purchaseFinished (id : Nat) (outcome : Purchase) (w : World ρ) : World ρ :=
  if w.purchases.contains id then
    let w := { w.modify fun c => { c with busy := false } with purchases := w.purchases.filter (· ≠ id) }
    match outcome with
    | .cancelled => w
    | .pending => fail "The App Store purchase is pending approval." w
    | .failed errorString =>
      fail (if errorString = "" then "Could not complete the App Store purchase."
        else s!"Could not complete the App Store purchase: {errorString}") w
    | .succeeded transactionId productId originalTransactionId storeEnvironment =>
      request .billingAppleConfirm
        [("transaction_id", .string transactionId), ("product_id", .string productId),
          ("original_transaction_id", .string originalTransactionId), ("environment", .string storeEnvironment)]
        (.billingConfirm transactionId) true true w
  else w

/-- The constructor: the stored session is used if it is valid, and removed otherwise. -/
def start (store : Store ρ) : World ρ :=
  let c : Controller :=
    { geoRoutingCountry := qt.toUpper (qt.trimmed store.geoRoutingCountry)
      deviceId := (qt.uuid (qt.trimmed store.deviceId)).getD "" }
  match store.session with
  | some session =>
    if validSession session.token session.username then
      registerDevice app env false
        { controller := { c with
            token := session.token
            username := session.username
            emailAccount := session.emailAccount
            telegramLinked := session.telegramLinked }
          store := store }
    else { controller := c, store := { store with session := none } }
  | none => { controller := c, store := { store with session := none } }

inductive UserCall
  | login (username password : String)
  | loginCode (code : String)
  | loginEmail (email password : String)
  | registerEmail (email password : String)
  | linkTelegram (code : String)
  | clearError
  | logout
  | logoutAll
  | requestAccountDeletion
  | refresh
  | selectConfig (index : Int)
  | selectCurrentConfig
  | selectVpnCountry (countryCode : String)
  | selectGeoRoutingCountry (countryCode : String)
  | renewSubscription

def UserCall.run (w : World ρ) : UserCall → World ρ
  | .login username password => Account.login qt username password w
  | .loginCode code => Account.loginCode qt code w
  | .loginEmail email password => Account.loginEmail qt email password w
  | .registerEmail email password => Account.registerEmail qt email password w
  | .linkTelegram code => Account.linkTelegram qt code w
  | .clearError => Account.clearError w
  | .logout => Account.logout w
  | .logoutAll => Account.logoutAll w
  | .requestAccountDeletion => Account.requestAccountDeletion w
  | .refresh => Account.refresh w
  | .selectConfig index => Account.selectConfig qt index w
  | .selectCurrentConfig => Account.selectCurrentConfig qt w
  | .selectVpnCountry countryCode => Account.selectVpnCountry qt env countryCode w
  | .selectGeoRoutingCountry countryCode => Account.selectGeoRoutingCountry qt app env countryCode w
  | .renewSubscription => Account.renewSubscription app w

inductive Input
  | call (c : UserCall)
  | reply (id : Nat) (r : Reply)
  | purchase (id : Nat) (outcome : Purchase)

structure Step where
  env : Env
  input : Input

def Step.run (w : World ρ) (s : Step) : World ρ :=
  match s.input with
  | .call c => c.run qt app s.env w
  | .reply id r => deliver qt app s.env id r w
  | .purchase id outcome => purchaseFinished id outcome w

def run (steps : List Step) (w : World ρ) : World ρ := steps.foldl (Step.run qt app) w

section Samples

def plainQt : Qt where
  size := String.length
  trimmed := id
  toUpper := id
  toLower := id
  toLatin1 := id
  isUInt _ := true
  uuid := some
  url _ := ⟨"https", "", ""⟩
  isoDateWithMs _ := none
  isoDate _ := none
  isoText _ := ""
  isoTextWithMs _ := ""
  territory _ := none
  variantString := Json.toString
  variantLongLong _ := none
  digest _ := ""

def plainEnv : Env := ⟨0, "new-device"⟩

def plainApp : App Unit := ⟨.linux, fun _ settings => (none, settings), fun _ => true, true⟩

def signedInStore : Store Unit := ⟨some ⟨"token", "user", false, false⟩, "", fun _ => [], "device", ()⟩

def okReply (fields : JsonObject) : Reply := ⟨200, false, some (.object (("ok", .bool true) :: fields)), ""⟩

def plainStep (input : Input) : Step := ⟨plainEnv, input⟩

def untilRouting : List Step :=
  [plainStep (.reply 0 (okReply [("device", .object [("device_id", .string "device")])])),
    plainStep (.reply 1 (okReply [("subscriptions", .array [])])),
    plainStep (.reply 2 ⟨404, true, none, ""⟩),
    plainStep (.reply 3 ⟨404, true, none, ""⟩)]

end Samples

end TunnelCore.Account
