import TunnelCore.Gateway.Post
import TunnelCore.Connection.SplitTunnelConfig
import TunnelCore.Library.Replace
import TunnelCore.Library.Runs

namespace TunnelCore.Gateway.ServiceUpdate

open Text

/-- What Qt makes of texts: a text that is no JSON object reads as the empty one. -/
structure Codec where
  fromJson : String → JsonObject
  toJson : JsonObject → String
  fromBase64 : String → String
  qUncompress : String → String

/-- A key pair of `genClientKeys`, each key 32 bytes in base64. -/
structure ClientKeys where
  clientPubKey : String
  clientPrivKey : String
  nonempty : clientPubKey ≠ ""

/-- What a call can generate; there is no key pair when `RAND_priv_bytes` fails. -/
structure Fresh where
  clientKeys : Option ClientKeys
  uuid : String
  nonempty : uuid ≠ ""

structure ProtocolData where
  wireGuardClientPubKey : String := ""
  wireGuardClientPrivKey : String := ""
  xrayUuid : String := ""

def generateProtocolData (protocol : String) (fresh : Fresh) : ProtocolData :=
  if protocol = "awg" then
    match fresh.clientKeys with
    | some keys => { wireGuardClientPubKey := keys.clientPubKey, wireGuardClientPrivKey := keys.clientPrivKey }
    | none => {}
  else if protocol = "vless" then { xrayUuid := fresh.uuid }
  else {}

def publicKeyForProtocol (protocol : String) (protocolData : ProtocolData) : String :=
  if protocol = "awg" then protocolData.wireGuardClientPubKey
  else if protocol = "vless" then protocolData.xrayUuid
  else ""

inductive UpdateError
  | internalError
  | apiConfigEmptyError
  | gateway (errorCode : ErrorCode)
deriving DecidableEq

def replaceText (before after text : String) : String :=
  .ofList (replaceAll id before.toList after.toList text.toList)

def copyProtocolKeys (source target : JsonObject) : JsonObject :=
  Connection.awgProtocolKeys.foldl (fun target key =>
    if (source.value key).isString ∧ (source.value key).toString ≠ "" then target.insert key (source.value key)
    else target) target

def extractServerConfigJsonFromResponse (qt : Codec) (apiResponseBody protocol : String) (protocolData : ProtocolData) :
    Except UpdateError JsonObject :=
  let data := replaceText "vpn://" "" ((qt.fromJson apiResponseBody).value "config").toString
  let ba := qt.fromBase64 data
  if ba = "" then .error .apiConfigEmptyError
  else
    let configStr := if qt.qUncompress ba ≠ "" then qt.qUncompress ba else ba
    if protocol = "awg" then
      let newServerConfig := qt.fromJson
        (replaceText "$WIREGUARD_CLIENT_PRIVATE_KEY" protocolData.wireGuardClientPrivKey configStr)
      match (newServerConfig.value "containers").toArray with
      | [] => .error .apiConfigEmptyError
      | first :: containers =>
        let container := first.toObject
        let serverProtocolConfig := (container.value "awg").toObject
        let clientProtocolConfig := qt.fromJson (serverProtocolConfig.value "last_config").toString
        let container := container.insert "awg" (.object (copyProtocolKeys clientProtocolConfig serverProtocolConfig))
        .ok (qt.fromJson (qt.toJson (newServerConfig.insert "containers" (.array (.object container :: containers)))))
    else .ok (qt.fromJson configStr)

/-- `AmneziaGateway` of the enumeration of configuration sources. -/
def amneziaGateway : Int := 2

def updateApiConfigInJson (qt : Codec) (serverConfigJson : JsonObject)
    (serviceType serviceProtocol userCountryCode apiResponseBody : String) : JsonObject :=
  let apiConfig := (serverConfigJson.value "api_config").toObject
  let apiConfig := apiConfig.insert "service_type" (.string serviceType)
  let apiConfig := apiConfig.insert "service_protocol" (.string serviceProtocol)
  let apiConfig := apiConfig.insert "user_country_code" (.string userCountryCode)
  let responseObj := qt.fromJson apiResponseBody
  let apiConfig :=
    if (serverConfigJson.value "config_version").toInt = amneziaGateway ∧ responseObj.contains "service_info" then
      apiConfig.insert "service_info" (.object (responseObj.value "service_info").toObject)
    else apiConfig
  serverConfigJson.insert "api_config" (.object apiConfig)

structure ApiConfig where
  serviceType : String
  serviceProtocol : String
  userCountryCode : String
  vpnKey : String
  availableCountries : List Json
  isTestPurchase : Bool
  isInAppPurchase : Bool
  subscriptionExpiredByServer : Bool

def ApiConfig.fromJson (json : JsonObject) : ApiConfig where
  serviceType := (json.value "service_type").toString
  serviceProtocol := (json.value "service_protocol").toString
  userCountryCode := (json.value "user_country_code").toString
  vpnKey := (json.value "vpn_key").toString
  availableCountries := (json.value "available_countries").toArray
  isTestPurchase := (json.value "is_test_purchase").toBool
  isInAppPurchase := (json.value "is_in_app_purchase").toBool
  subscriptionExpiredByServer := (json.value "subscription_expired_by_server").toBool

structure ApiV2ServerConfig where
  name : String
  nameOverriddenByUser : Bool
  containers : List Json
  crc : Int
  apiConfig : ApiConfig
  authData : JsonObject

def ApiV2ServerConfig.fromJson (json : JsonObject) : ApiV2ServerConfig where
  name := (json.value "name").toString
  nameOverriddenByUser := (json.value "nameOverriddenByUser").toBool
  containers := (json.value "containers").toArray
  crc := (json.value "crc").toInt
  apiConfig := .fromJson (json.value "api_config").toObject
  authData := (json.value "auth_data").toObject

/-- The configuration that the repository is given, unless there is an error. -/
def applyUpdatedServiceConfig (qt : Codec) (serviceProtocol : String) (protocolData : ProtocolData)
    (responseBody : String) (apiV2 : ApiV2ServerConfig) : Except UpdateError ApiV2ServerConfig :=
  match extractServerConfigJsonFromResponse qt responseBody serviceProtocol protocolData with
  | .error e => .error e
  | .ok serverConfigJson =>
    let serverConfigJson := updateApiConfigInJson qt serverConfigJson apiV2.apiConfig.serviceType serviceProtocol
      apiV2.apiConfig.userCountryCode responseBody
    if (serverConfigJson.value "config_version").toInt ≠ amneziaGateway then .error .internalError
    else
      let new := ApiV2ServerConfig.fromJson serverConfigJson
      .ok { new with
        apiConfig := { new.apiConfig with
          vpnKey := apiV2.apiConfig.vpnKey
          subscriptionExpiredByServer := false }
        authData := apiV2.authData
        crc := apiV2.crc
        name := if apiV2.nameOverriddenByUser then apiV2.name else new.name
        nameOverriddenByUser := apiV2.nameOverriddenByUser || new.nameOverriddenByUser }

/-- The fields of a `v1/config` request. -/
structure Request where
  userCountryCode : String
  serverCountryCode : String
  serviceType : String
  serviceProtocol : String
  publicKey : String
  authData : JsonObject
  captcha : Option (String × String)
  isConnectEvent : Bool
  isTestPurchase : Bool

structure Reply where
  errorCode : ErrorCode
  responseBody : String

/-- A finished call: what it sent, what it returned and the configuration that is stored afterwards. -/
structure Outcome where
  request : Request
  error : Option UpdateError
  apiV2 : ApiV2ServerConfig
  usedProtocolData : Option ProtocolData

def requestFor (apiV2 : ApiV2ServerConfig) (newCountryCode serviceProtocol : String) (protocolData : ProtocolData)
    (captcha : Option (String × String)) (isConnectEvent : Bool) : Request where
  userCountryCode := apiV2.apiConfig.userCountryCode
  serverCountryCode := newCountryCode
  serviceType := apiV2.apiConfig.serviceType
  serviceProtocol := serviceProtocol
  publicKey := publicKeyForProtocol serviceProtocol protocolData
  authData := apiV2.authData
  captcha := captcha
  isConnectEvent := isConnectEvent
  isTestPurchase := apiV2.apiConfig.isTestPurchase

/-- What both calls do with the reply to their request. -/
def settled (qt : Codec) (serviceProtocol : String) (protocolData : ProtocolData) (reply : Reply)
    (apiV2 : ApiV2ServerConfig) : Option UpdateError × ApiV2ServerConfig :=
  if reply.errorCode ≠ .noError then
    (some (.gateway reply.errorCode),
      if reply.errorCode = .apiSubscriptionExpiredError ∧ ¬apiV2.apiConfig.isInAppPurchase then
        { apiV2 with apiConfig := { apiV2.apiConfig with subscriptionExpiredByServer := true } }
      else apiV2)
  else
    match applyUpdatedServiceConfig qt serviceProtocol protocolData reply.responseBody apiV2 with
    | .error e => (some e, apiV2)
    | .ok new => (none, new)

/-- The protocol of the first country with the code, if that one does not offer the stored protocol. -/
def chosenProtocol (newCountryCode : String) (apiV2 : ApiV2ServerConfig) : String :=
  if newCountryCode = "" then apiV2.apiConfig.serviceProtocol
  else
    match apiV2.apiConfig.availableCountries.find? fun country =>
      (country.toObject.value "server_country_code").toString = newCountryCode with
    | none => apiV2.apiConfig.serviceProtocol
    | some country =>
      match (country.toObject.value "available_protocols").toArray with
      | [] => apiV2.apiConfig.serviceProtocol
      | first :: others =>
        if (first :: others).any fun v => v.isString && v.toString = apiV2.apiConfig.serviceProtocol then
          apiV2.apiConfig.serviceProtocol
        else first.toString

def fillCaptchaInfoFromResponse (qt : Codec) (responseBody : String) : Bool :=
  (qt.fromJson responseBody).contains "captcha_id" && (qt.fromJson responseBody).contains "captcha_image"

def updateServiceFromGateway (qt : Codec) (newCountryCode : String) (isConnectEvent : Bool) (fresh : Fresh)
    (reply : Reply) (apiV2 : ApiV2ServerConfig) : Outcome :=
  let serviceProtocol := chosenProtocol newCountryCode apiV2
  let protocolData := generateProtocolData serviceProtocol fresh
  let (error, stored) := settled qt serviceProtocol protocolData reply apiV2
  { request := requestFor apiV2 newCountryCode serviceProtocol protocolData none isConnectEvent
    error := error
    apiV2 := stored
    usedProtocolData :=
      if reply.errorCode = .apiCaptchaRequiredError ∧ fillCaptchaInfoFromResponse qt reply.responseBody then
        some protocolData
      else none }

/-- Digits, also those of full width, or the text as it is if there are none. -/
def normalizeCaptchaSolution (captchaSolution : String) : String :=
  let digit (ch : Char) : Option Char :=
    if ch.isDigit then some ch
    else if 0xFF10 ≤ ch.toNat ∧ ch.toNat ≤ 0xFF19 then some (.ofNat (ch.toNat - 0xFF10 + '0'.toNat))
    else none
  match captchaSolution.toList.filterMap digit with
  | [] => trimmed captchaSolution
  | digits => .ofList digits

def resolveUpdateServiceCaptcha (qt : Codec) (newCountryCode : String) (isConnectEvent : Bool)
    (protocolData : ProtocolData) (captchaId captchaSolution : String) (reply : Reply) (apiV2 : ApiV2ServerConfig) :
    Outcome :=
  let serviceProtocol := apiV2.apiConfig.serviceProtocol
  let (error, stored) := settled qt serviceProtocol protocolData reply apiV2
  { request := requestFor apiV2 newCountryCode serviceProtocol protocolData
      (some (captchaId, normalizeCaptchaSolution captchaSolution)) isConnectEvent
    error := error
    apiV2 := stored
    usedProtocolData := none }

/-- An update that ended with a captcha: the protocol it chose and what it generated. -/
structure Interrupted where
  serviceProtocol : String
  fresh : Fresh

def Interrupted.protocolData (i : Interrupted) : ProtocolData := generateProtocolData i.serviceProtocol i.fresh

structure State where
  apiV2 : ApiV2ServerConfig
  interrupted : Option Interrupted

inductive Step
  | update (newCountryCode : String) (isConnectEvent : Bool) (fresh : Fresh) (reply : Reply)
  | resume (newCountryCode : String) (isConnectEvent : Bool) (captchaId captchaSolution : String) (reply : Reply)

def Step.run (qt : Codec) (s : State) : Step → State
  | .update newCountryCode isConnectEvent fresh reply =>
    let outcome := updateServiceFromGateway qt newCountryCode isConnectEvent fresh reply s.apiV2
    { apiV2 := outcome.apiV2
      interrupted := if outcome.usedProtocolData.isSome then some ⟨chosenProtocol newCountryCode s.apiV2, fresh⟩
        else s.interrupted }
  | .resume newCountryCode isConnectEvent captchaId captchaSolution reply =>
    match s.interrupted with
    | none => s
    | some i =>
      { s with apiV2 := (resolveUpdateServiceCaptcha qt newCountryCode isConnectEvent i.protocolData captchaId
          captchaSolution reply s.apiV2).apiV2 }

def Keyed (protocol : String) : Prop := protocol = "awg" ∨ protocol = "vless"

/-- The request carries a public key of its protocol, and what is stored on success is the reply completed with the
private part of that key. -/
structure Agreed (qt : Codec) (fresh : Fresh) (reply : Reply) (o : Outcome) : Prop where
  nonempty : o.request.publicKey ≠ ""
  generated : o.request.publicKey =
    publicKeyForProtocol o.request.serviceProtocol (generateProtocolData o.request.serviceProtocol fresh)
  completed : o.error = none → ∃ json, extractServerConfigJsonFromResponse qt reply.responseBody
      o.request.serviceProtocol (generateProtocolData o.request.serviceProtocol fresh) = .ok json ∧
    o.apiV2.containers = (json.value "containers").toArray

def Step.Agreed (qt : Codec) (s : State) : Step → Prop
  | .update newCountryCode isConnectEvent fresh reply =>
    let o := updateServiceFromGateway qt newCountryCode isConnectEvent fresh reply s.apiV2
    Keyed o.request.serviceProtocol → ServiceUpdate.Agreed qt fresh reply o
  | .resume newCountryCode isConnectEvent captchaId captchaSolution reply => ∀ i, s.interrupted = some i →
    let o := resolveUpdateServiceCaptcha qt newCountryCode isConnectEvent i.protocolData captchaId captchaSolution reply
      s.apiV2
    Keyed o.request.serviceProtocol → ServiceUpdate.Agreed qt i.fresh reply o

/-- The keys at hand belong to the protocol: they were generated for it, and that did not fail. -/
def Suits (i : Interrupted) (protocol : String) : Prop :=
  i.serviceProtocol = protocol ∧ (protocol = "awg" → i.fresh.clientKeys ≠ none)

def Step.Fits (s : State) : Step → Prop
  | .update newCountryCode _ fresh _ => chosenProtocol newCountryCode s.apiV2 = "awg" → fresh.clientKeys ≠ none
  | .resume .. => ∀ i, s.interrupted = some i → Keyed s.apiV2.apiConfig.serviceProtocol →
    Suits i s.apiV2.apiConfig.serviceProtocol

variable {qt : Codec} {protocol : String}

theorem publicKey_ne_iff (h : Keyed protocol) (i : Interrupted) :
    publicKeyForProtocol protocol i.protocolData ≠ "" ↔ Suits i protocol := by
  obtain ⟨made, fresh⟩ := i
  rw [Suits, Interrupted.protocolData, publicKeyForProtocol, generateProtocolData]
  rcases h with rfl | rfl
  · by_cases hmade : made = "awg"
    · cases hkeys : fresh.clientKeys with
      | none => simp [hmade]
      | some keys => simp [hmade, keys.nonempty]
    · by_cases hvless : made = "vless" <;> simp [hmade, hvless]
  · by_cases hmade : made = "awg"
    · cases hkeys : fresh.clientKeys <;> simp [hmade]
    · by_cases hvless : made = "vless" <;> simp [hmade, hvless, fresh.nonempty]

theorem settled_completed {protocolData : ProtocolData} {reply : Reply} {apiV2 : ApiV2ServerConfig}
    (h : (settled qt protocol protocolData reply apiV2).1 = none) :
    ∃ json, extractServerConfigJsonFromResponse qt reply.responseBody protocol protocolData = .ok json ∧
      (settled qt protocol protocolData reply apiV2).2.containers = (json.value "containers").toArray := by
  rw [settled] at h ⊢
  split at h
  · cases h
  · rw [if_neg ‹_›]
    cases hnew : applyUpdatedServiceConfig qt protocol protocolData reply.responseBody apiV2 with
    | error e => simp [hnew] at h
    | ok new =>
      rw [applyUpdatedServiceConfig] at hnew
      cases hjson : extractServerConfigJsonFromResponse qt reply.responseBody protocol protocolData with
      | error e => simp [hjson] at hnew
      | ok json =>
        simp only [hjson] at hnew
        split at hnew
        · cases hnew
        · refine ⟨json, rfl, ?_⟩
          rw [← Except.ok.inj hnew]
          change ((updateApiConfigInJson ..).value "containers").toArray = _
          rw [updateApiConfigInJson, JsonObject.value_insert_of_ne _ _ (by decide)]

/-- A call with the keys of `i` keeps the agreement exactly when they suit its protocol. -/
theorem agreed_iff {reply : Reply} {o : Outcome} {i : Interrupted} {apiV2 : ApiV2ServerConfig}
    (hk : Keyed o.request.serviceProtocol)
    (hkey : o.request.publicKey = publicKeyForProtocol o.request.serviceProtocol i.protocolData)
    (hs : (o.error, o.apiV2) = settled qt o.request.serviceProtocol i.protocolData reply apiV2) :
    Agreed qt i.fresh reply o ↔ Suits i o.request.serviceProtocol := by
  rw [← publicKey_ne_iff hk, ← hkey]
  constructor
  · exact Agreed.nonempty
  · intro hne
    have hsuits := (publicKey_ne_iff hk i).mp (hkey ▸ hne)
    have hdata : i.protocolData = generateProtocolData o.request.serviceProtocol i.fresh := by
      rw [Interrupted.protocolData, hsuits.1]
    refine ⟨hne, hdata ▸ hkey, fun herror => ?_⟩
    have hcompleted := settled_completed ((congrArg Prod.fst hs).symm.trans herror)
    rw [← hs, hdata] at hcompleted
    exact hcompleted

theorem step_agreed_iff (s : State) (step : Step) : step.Agreed qt s ↔ step.Fits s := by
  cases step with
  | update newCountryCode isConnectEvent fresh reply =>
    have hcall (hk : Keyed (chosenProtocol newCountryCode s.apiV2)) :=
      agreed_iff (o := updateServiceFromGateway qt newCountryCode isConnectEvent fresh reply s.apiV2)
        (i := ⟨chosenProtocol newCountryCode s.apiV2, fresh⟩) hk rfl rfl
    constructor
    · intro h hawg
      exact ((hcall (.inl hawg)).mp (h (.inl hawg))).2 hawg
    · exact fun h hk => (hcall hk).mpr ⟨rfl, h⟩
  | resume => exact forall₂_congr fun i _ => forall_congr' fun hk => agreed_iff hk rfl rfl

/-- Along every sequence of updates and resumptions the keys agree exactly as long as key generation does not fail and
each resumption finds the protocol stored for which the interrupted update generated its keys. -/
theorem keys_agree_iff (qt : Codec) (s : State) (steps : List Step) :
    Along (Step.run qt) (Step.Agreed qt) s steps ↔ Along (Step.run qt) Step.Fits s steps := by
  constructor
  · exact fun h => h.of_invariant (I := fun _ => True) (fun s step _ hs => ⟨trivial, (step_agreed_iff s step).mp hs⟩)
      trivial
  · exact fun h => h.of_invariant (I := fun _ => True) (fun s step _ hs => ⟨trivial, (step_agreed_iff s step).mpr hs⟩)
      trivial

def captchaText : String := "\x7b\"captcha_id\":\"1\",\"captcha_image\":\"\"\x7d"

/-- It reads the one text that the gateway answers with. -/
def captchaCodec : Codec where
  fromJson text := if text = captchaText then [("captcha_id", .string "1"), ("captcha_image", .string "")] else []
  toJson _ := ""
  fromBase64 := id
  qUncompress := id

def awgServer : ApiV2ServerConfig where
  name := "server"
  nameOverriddenByUser := false
  containers := []
  crc := 0
  apiConfig :=
    { serviceType := "amnezia-premium", serviceProtocol := "awg", userCountryCode := "nl", vpnKey := "",
      availableCountries := [.object [("server_country_code", .string "de"),
        ("available_protocols", .array [.string "vless"])]],
      isTestPurchase := false, isInAppPurchase := false, subscriptionExpiredByServer := false }
  authData := []

def someKeys : Fresh := ⟨some ⟨"public", "private", by decide⟩, "uuid", by decide⟩

def captchaReply : Reply := ⟨.apiCaptchaRequiredError, captchaText⟩

def resumed : Outcome :=
  resolveUpdateServiceCaptcha captchaCodec "de" false (Interrupted.protocolData ⟨"vless", someKeys⟩) "1" "7"
    captchaReply awgServer

/-- The update falls back to `vless` for the country; its resumption asks for `awg` again, without a key. -/
theorem resumption_without_key :
    Step.run captchaCodec ⟨awgServer, none⟩ (.update "de" false someKeys captchaReply) =
        ⟨awgServer, some ⟨"vless", someKeys⟩⟩ ∧
      resumed.request.serviceProtocol = "awg" ∧ resumed.request.publicKey = "" ∧
      ¬Step.Agreed captchaCodec ⟨awgServer, some ⟨"vless", someKeys⟩⟩ (.resume "de" false "1" "7" captchaReply) :=
  ⟨rfl, rfl, rfl, fun h => (h _ rfl (.inl rfl)).nonempty rfl⟩

end TunnelCore.Gateway.ServiceUpdate
