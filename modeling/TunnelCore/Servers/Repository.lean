import Mathlib.Data.List.Infix
import TunnelCore.Library.Json
import TunnelCore.Library.Text

namespace TunnelCore.Servers

open Text

inductive ConfigType
  | amneziaFreeV2
  | amneziaFreeV3
  | amneziaPremiumV1
  | amneziaPremiumV2
  | selfHosted
  | externalPremium
  | selfHostedAdmin
  | selfHostedUser
  | native
  | invalid
deriving DecidableEq

/-- The two endpoints of the build, and the source of new ids: `QUuid::createUuid().toString(WithoutBraces)`. -/
structure Env where
  freeV2Endpoint : String
  premiumV1Endpoint : String
  uuid : Nat → String
  uuid_ne_empty : ∀ n, uuid n ≠ ""
  uuid_trimmed : ∀ n, trimmed (uuid n) = uuid n

def hasThirdPartyConfig (json : JsonObject) : Bool :=
  (json.value "containers").toArray.any fun val => val.toObject.any fun entry =>
    entry.1 ≠ "container" && entry.2.toObject.contains "isThirdPartyConfig" &&
      (entry.2.toObject.value "isThirdPartyConfig").toBool

def hasCredentials (json : JsonObject) : Bool :=
  (json.value "userName").toString ≠ "" ∧ (json.value "password").toString ≠ "" ∧ 0 < (json.value "port").toInt

def gatewayType (json : JsonObject) : Option ConfigType :=
  match ((json.value "api_config").toObject.value "service_type").toString with
  | "amnezia-premium" => some .amneziaPremiumV2
  | "amnezia-free" => some .amneziaFreeV3
  | "external-premium" => some .externalPremium
  | _ => none

def telegramType (env : Env) (json : JsonObject) : Option ConfigType :=
  let apiEndpoint := (json.value "api_endpoint").toString.toList
  if env.premiumV1Endpoint.toList <:+: apiEndpoint then some .amneziaPremiumV1
  else if env.freeV2Endpoint.toList <:+: apiEndpoint then some .amneziaFreeV2
  else gatewayType json

def apiType (env : Env) (json : JsonObject) : Option ConfigType :=
  match (json.value "config_version").toInt with
  | 1 => telegramType env json
  | 2 => gatewayType json
  | _ => none

def configTypeFromJson (env : Env) (json : JsonObject) : ConfigType :=
  (apiType env json).getD <|
    if hasThirdPartyConfig json then .native
    else if hasCredentials json then .selfHostedAdmin
    else .selfHostedUser

def storageServerId : String := "storageServerId"

def readStorageServerId (json : JsonObject) : String := trimmed (json.value storageServerId).toString

def withoutStorageServerId (json : JsonObject) : JsonObject := json.remove storageServerId

def embedStorageServerId (serverId : String) (payloadSansId : JsonObject) : JsonObject :=
  payloadSansId.insert storageServerId (.string serverId)

/-- The three values under `Servers/`; the list as the array its text stands for. -/
structure Settings where
  serversList : List Json
  defaultServerId : String
  defaultServerIndex : Int

inductive Signal
  | serverAdded (serverId : String)
  | serverEdited (serverId : String)
  | serverRemoved (serverId : String) (removedIndex : Nat)
  | defaultServerChanged (serverId : String)

structure Repository where
  settings : Settings
  serverJsonById : String → Option JsonObject := fun _ => none
  orderedServerIds : List String := []
  defaultServerId : String := ""
  /-- How many ids have been drawn. -/
  drawn : Nat := 0
  signals : List Signal := []

section Operations

variable (env : Env)

def normalizedOrGeneratedServerId (candidateId : String) (r : Repository) : String × Repository :=
  if trimmed candidateId ≠ "" ∧ (r.serverJsonById (trimmed candidateId)).isNone then (trimmed candidateId, r)
  else (env.uuid r.drawn, { r with drawn := r.drawn + 1 })

def insertServer (serverId : String) (strippedJson : JsonObject) (r : Repository) : Repository :=
  { r with
    serverJsonById :=
      Function.update r.serverJsonById serverId (some (embedStorageServerId serverId strippedJson))
    orderedServerIds := r.orderedServerIds ++ [serverId] }

def updateDefaultServerFromStorage (r : Repository) : Repository :=
  let storedDefaultId := r.settings.defaultServerId
  let storedDefaultIndex := r.settings.defaultServerIndex
  if storedDefaultId ≠ "" ∧ (r.serverJsonById storedDefaultId).isSome then
    { r with defaultServerId := storedDefaultId }
  else if 0 ≤ storedDefaultIndex ∧ storedDefaultIndex < r.orderedServerIds.length then
    { r with defaultServerId := r.orderedServerIds.getD storedDefaultIndex.toNat "" }
  else { r with defaultServerId := r.orderedServerIds.headD "" }

def persistDefaultServerFields (r : Repository) : Repository :=
  let defaultServerId :=
    if r.orderedServerIds = [] then ""
    else if r.defaultServerId ∉ r.orderedServerIds then r.orderedServerIds.headD ""
    else r.defaultServerId
  { r with defaultServerId, settings := { r.settings with defaultServerId } }

def clearServerStateMaps (r : Repository) : Repository :=
  { r with serverJsonById := fun _ => none, orderedServerIds := [] }

def loadEntry (r : Repository) (val : Json) : Repository :=
  let json := val.toObject
  let next := normalizedOrGeneratedServerId env (readStorageServerId json) r
  let strippedJson := withoutStorageServerId json
  if (next.2.serverJsonById next.1).isSome ∨ configTypeFromJson env strippedJson = .invalid then next.2
  else insertServer next.1 strippedJson next.2

def loadFromStorage (r : Repository) : Repository :=
  updateDefaultServerFromStorage (r.settings.serversList.foldl (loadEntry env) (clearServerStateMaps r))

def create (settings : Settings) (drawn : Nat) : Repository :=
  persistDefaultServerFields (loadFromStorage env { settings, drawn })

def serversArray (r : Repository) : List Json := (r.orderedServerIds.filterMap r.serverJsonById).map Json.object

def syncToStorage (r : Repository) : Repository :=
  persistDefaultServerFields { r with settings := { r.settings with serversList := serversArray r } }

def invalidateCache (r : Repository) : Repository := loadFromStorage env r

def clearServers (r : Repository) : Repository :=
  syncToStorage { clearServerStateMaps r with defaultServerId := "" }

def defaultServerIndex (r : Repository) : Nat :=
  if r.defaultServerId ∈ r.orderedServerIds then r.orderedServerIds.idxOf r.defaultServerId else 0

def emit (signal : Signal) (r : Repository) : Repository := { r with signals := r.signals ++ [signal] }

def addServer (serverId : String) (serverJson : JsonObject) (kind : ConfigType) (r : Repository) :
    String × Repository :=
  let (id, r) := normalizedOrGeneratedServerId env serverId r
  let strippedJson := withoutStorageServerId serverJson
  if (r.serverJsonById id).isSome ∨ kind = .invalid ∨ configTypeFromJson env strippedJson ≠ kind then (id, r)
  else
    let r := insertServer id strippedJson r
    let r := if r.defaultServerId = "" then { r with defaultServerId := id } else r
    (id, emit (.serverAdded id) (syncToStorage r))

def editServer (serverId : String) (serverJson : JsonObject) (kind : ConfigType) (r : Repository) : Repository :=
  if serverId ∉ r.orderedServerIds ∨ kind = .invalid then r
  else match r.serverJsonById serverId with
  | none => r
  | some oldJson =>
    let oldKind := configTypeFromJson env (withoutStorageServerId oldJson)
    let r := { r with serverJsonById := Function.update r.serverJsonById serverId none }
    let set (json : JsonObject) : Repository :=
      { r with serverJsonById := Function.update r.serverJsonById serverId (some (embedStorageServerId serverId json)) }
    if configTypeFromJson env (withoutStorageServerId serverJson) ≠ kind then
      if oldKind ≠ .invalid ∧ configTypeFromJson env (withoutStorageServerId oldJson) = oldKind then
        set (withoutStorageServerId oldJson)
      else r
    else emit (.serverEdited serverId) (syncToStorage (set (withoutStorageServerId serverJson)))

def defaultAfterRemoval (serverId : String) (removedIndex : Nat) (r : Repository) : String :=
  if r.orderedServerIds = [] then ""
  else if r.defaultServerId = serverId then
    r.orderedServerIds.getD (min removedIndex (r.orderedServerIds.length - 1)) ""
  else if r.defaultServerId ∉ r.orderedServerIds then r.orderedServerIds.headD ""
  else r.defaultServerId

def removeServer (serverId : String) (r : Repository) : Repository :=
  if serverId ∉ r.orderedServerIds ∨ (r.serverJsonById serverId).isNone then r
  else
    let removedIndex := r.orderedServerIds.idxOf serverId
    let next := { r with
      serverJsonById := Function.update r.serverJsonById serverId none
      orderedServerIds := r.orderedServerIds.eraseIdx removedIndex }
    let next := { next with defaultServerId := defaultAfterRemoval serverId removedIndex next }
    let next :=
      if r.defaultServerId ≠ next.defaultServerId ∨ defaultServerIndex r ≠ defaultServerIndex next then
        emit (.defaultServerChanged next.defaultServerId) next
      else next
    emit (.serverRemoved serverId removedIndex) (syncToStorage next)

def setDefaultServer (serverId : String) (r : Repository) : Repository :=
  if r.orderedServerIds = [] ∨ (r.serverJsonById serverId).isNone ∨ serverId ∉ r.orderedServerIds ∨
      r.defaultServerId = serverId then r
  else
    let r := persistDefaultServerFields { r with defaultServerId := serverId }
    emit (.defaultServerChanged r.defaultServerId) r

end Operations

inductive Operation
  | addServer (serverId : String) (serverJson : JsonObject) (kind : ConfigType)
  | editServer (serverId : String) (serverJson : JsonObject) (kind : ConfigType)
  | removeServer (serverId : String)
  | setDefaultServer (serverId : String)
  | clearServers
  | invalidateCache

def step (env : Env) (r : Repository) : Operation → Repository
  | .addServer serverId serverJson kind => (Servers.addServer env serverId serverJson kind r).2
  | .editServer serverId serverJson kind => Servers.editServer env serverId serverJson kind r
  | .removeServer serverId => Servers.removeServer serverId r
  | .setDefaultServer serverId => Servers.setDefaultServer serverId r
  | .clearServers => Servers.clearServers r
  | .invalidateCache => Servers.invalidateCache env r

def run (env : Env) (settings : Settings) (operations : List Operation) : Repository :=
  operations.foldl (step env) (create env settings 0)

end TunnelCore.Servers
