import TunnelCore.Library.Json

namespace TunnelCore.Account

inductive Platform
  | android
  | ios
  | windows
  | macos
  | linux
  | other
deriving DecidableEq

def Platform.name : Platform → String
  | .android => "android"
  | .ios => "ios"
  | .windows => "windows"
  | .macos => "macos"
  | .linux => "linux"
  | .other => "other"

structure Url where
  scheme : String
  host : String
  userInfo : String

/-- Functions of the Qt library. Dates are milliseconds, and `none` when they cannot be read. -/
structure Qt where
  size : String → Nat
  trimmed : String → String
  toUpper : String → String
  toLower : String → String
  toLatin1 : String → String
  isUInt : String → Bool
  uuid : String → Option String
  url : String → Url
  isoDateWithMs : String → Option Int
  isoDate : String → Option Int
  isoText : Int → String
  isoTextWithMs : Int → String
  territory : String → Option String
  variantString : Json → String
  variantLongLong : Json → Option Int
  digest : JsonObject → String

/-- The build and the callbacks the controller is made with. `applyRouting` returns the message of
a rejected policy; `openUrl` and `notifies` are what the desktop answers. -/
structure App (ρ : Type) where
  platform : Platform
  applyRouting : JsonObject → ρ → Option String × ρ
  openUrl : String → Bool
  notifies : Bool

structure Env where
  now : Int
  uuid : String

/-- The API paths below `apiBase`; those that carry the device identifier have it as an argument. -/
inductive Endpoint
  | authLogin
  | authCodeExchange
  | authRegister
  | authTelegramLink
  | devicesRegister
  | devicesRevoke
  | devicesRevokeAll
  | accountDeleteRequest
  | me
  | countrySelection (deviceId : Option String)
  | configs (deviceId : Option String)
  | config (id : Int) (deviceId : Option String)
  | routingCountries
  | routingCountry (country : String)
  | routingDefault (platform : Platform)
  | billing
  | billingAppleConfirm
deriving DecidableEq

/-- A request as it leaves: a download goes to its own address and carries no token. -/
inductive Request
  | api (endpoint : Endpoint) (post : Bool) (token : Option String) (body : JsonObject)
  | download (url : String)

inductive Continuation
  | registerDevice (emitSignedIn : Bool)
  | authenticate (path : Endpoint) (emailAccount : Bool)
  | linkTelegram
  | logout
  | logoutAll
  | accountDeletion
  | me
  | countrySelection
  | geoRoutingCountries
  | countryRouting (country cacheKey : String)
  | defaultRouting (cacheKey : String)
  | configs
  | selectVpnCountry
  | config (suggestedFileName : String)
  | billing
  | billingConfirm (transactionId : String)
deriving DecidableEq

inductive Handler
  | api (post : Bool) (continuation : Continuation)
  | background (cacheKey country : String)
  | download (fileName obfuscationMode obfuscationProfile : String)
deriving DecidableEq

/-- A reply that has not finished; `generation` is captured when the request is sent. -/
structure Pending where
  id : Nat
  generation : BitVec 32
  handler : Handler

inductive Event
  | sent (id : Nat) (request : Request)
  | delivered (id : Nat)
  | cleared
  | signedIn
  | configReady (data fileName obfuscationMode obfuscationProfile : String)
  | purchaseStarted (productId : String)
  | transactionFinished (transactionId : String)
  | opened (url : String)
  | notified (message : String)

structure Controller where
  reply : Option Nat := none
  token : String := ""
  username : String := ""
  error : String := ""
  subscriptions : List Json := []
  configs : List Json := []
  vpnCountries : List Json := []
  vpnCountryMode : String := "auto"
  selectedVpnCountry : String := ""
  effectiveVpnCountry : String := ""
  pendingConfigId : Int := 0
  selectedConfigId : Int := 0
  geoRoutingCountries : List (String × String) := []
  geoRoutingCountry : String := ""
  routingCache : String → Option JsonObject := fun _ => none
  routingRefreshInFlight : List String := []
  lastAppliedRoutingCacheKey : String := ""
  lastAppliedRoutingRevision : String := ""
  deviceId : String := ""
  busy : Bool := false
  emailAccount : Bool := false
  telegramLinked : Bool := false
  accountDeletionRequested : Bool := false
  subscriptionKnown : Bool := false
  subscriptionAutoRenew : Bool := false
  subscriptionExpiresAt : Option Int := none
  lastSubscriptionNotificationKey : String := ""
  generation : BitVec 32 := 0

def Controller.authenticated (c : Controller) : Bool := c.token ≠ ""

structure Session where
  token : String
  username : String
  emailAccount : Bool
  telegramLinked : Bool

/-- What the callbacks of `TunnelCoreSessionStorage` keep, and the routing settings. -/
structure Store (ρ : Type) where
  session : Option Session
  geoRoutingCountry : String
  routingCache : String → JsonObject
  deviceId : String
  routing : ρ

/-- The controller, its storage, the unfinished replies and App Store purchases, and all it has
done. -/
structure World (ρ : Type) where
  controller : Controller
  store : Store ρ
  pending : List Pending := []
  purchases : List Nat := []
  nextId : Nat := 0
  log : List Event := []

namespace World

variable {ρ : Type}

def modify (f : Controller → Controller) (w : World ρ) : World ρ := { w with controller := f w.controller }

def record (e : Event) (w : World ρ) : World ρ := { w with log := w.log ++ [e] }

def send (handler : Handler) (request : Request) (w : World ρ) : World ρ :=
  { w with
    pending := w.pending ++ [⟨w.nextId, w.controller.generation, handler⟩]
    nextId := w.nextId + 1
    log := w.log ++ [.sent w.nextId request] }

/-- A request that keeps the controller busy, and whose reply is `m_reply`. -/
def sendForeground (handler : Handler) (request : Request) (w : World ρ) : World ρ :=
  (w.modify fun c => { c with busy := true, error := "", reply := some w.nextId }).send handler request

def startPurchase (productId : String) (w : World ρ) : World ρ :=
  { w with
    controller := { w.controller with busy := true, error := "" }
    purchases := w.purchases ++ [w.nextId]
    nextId := w.nextId + 1
    log := w.log ++ [.purchaseStarted productId] }

def finish (id : Nat) (w : World ρ) : World ρ :=
  { w with pending := w.pending.filter (·.id ≠ id), log := w.log ++ [.delivered id] }

end World

end TunnelCore.Account
