import TunnelCore.Daemon.Config
import TunnelCore.Library.Json
import TunnelCore.Library.Text
import Mathlib.Data.List.Sort

namespace TunnelCore.Daemon

open Text

/-- `toString()` of a value, null for one that is no string. -/
def stringValue : Json → Option String
  | .string s => some s
  | _ => none

def numberValue : Json → Option Int
  | .number value => some (Json.number value).toInteger
  | _ => none

/-- `GETVALUE`: a field that must be there and be of the wanted type. -/
def getValue {α : Type} (read : Json → Option α) (obj : JsonObject) (name : String) : Option α :=
  (obj.lookup name).bind read

def parseStringList (obj : JsonObject) (name : String) : Option (List String) :=
  match obj.lookup name with
  | some (.array items) => items.mapM stringValue
  | some _ => none
  | none => some []

def parseMTU (windows : Bool) (obj : JsonObject) : Int :=
  let deviceMTU := (textToInt (obj.value "deviceMTU").toString).getD 0
  if deviceMTU = 0 then 1420 else if windows ∧ deviceMTU < 1280 then 1280 else deviceMTU

def parseDnsServer (obj : JsonObject) (name : String) : Option String :=
  if obj.contains name then getValue stringValue obj name else some ""

def HopType.key : HopType → String
  | .singleHop => "SingleHop"
  | .multiHopEntry => "MultiHopEntry"
  | .multiHopExit => "MultiHopExit"

/-- `QMetaEnum::keyToValue`, which also takes a key with its scope. -/
def HopType.ofKey (text : String) : Option HopType :=
  HopType.all.find? fun hop => text = hop.key ∨ text = "::" ++ hop.key ∨ text = "InterfaceConfig::" ++ hop.key

def parseHopType (obj : JsonObject) : Option HopType :=
  if obj.contains "hopType" then (getValue stringValue obj "hopType").bind HopType.ofKey else some .singleHop

/-- An element of `allowedIPAddressRanges`. Its `isIpv6` must be there and is not used. -/
def parseRange (qt : Qt) (item : Json) : Option IPAddress :=
  match item with
  | .object ipObj =>
    match JsonObject.value ipObj "address", JsonObject.value ipObj "range", JsonObject.value ipObj "isIpv6" with
    | .string address, .number range, .bool _ => some ⟨qt.hostAddress address, (Json.number range).toInt⟩
    | _, _, _ => none
  | _ => none

def sortRanges (ranges : List IPAddress) : List IPAddress :=
  ranges.insertionSort fun a b => b.prefixLength ≤ a.prefixLength

def parseRanges (qt : Qt) (obj : JsonObject) : Option (List IPAddress) :=
  match obj.lookup "allowedIPAddressRanges" with
  | some (.array items) => (items.mapM (parseRange qt)).map sortRanges
  | _ => none

def specialJunkKeys : List String := ["I1", "I2", "I3", "I4", "I5"]

def parseSpecialJunk (obj : JsonObject) : List (String × String) :=
  specialJunkKeys.filterMap fun key => (obj.lookup key).map fun value => (key, value.toString)

def parseConfig (qt : Qt) (windows : Bool) (obj : JsonObject) : Option InterfaceConfig := do
  let privateKey ← getValue stringValue obj "privateKey"
  let serverPublicKey ← getValue stringValue obj "serverPublicKey"
  let serverPort ← getValue numberValue obj "serverPort"
  let deviceIpv4Address := stringValue (obj.value "deviceIpv4Address")
  let deviceIpv6Address := stringValue (obj.value "deviceIpv6Address")
  guard (deviceIpv4Address ≠ none ∨ deviceIpv6Address ≠ none)
  let serverIpv4AddrIn := stringValue (obj.value "serverIpv4AddrIn")
  let serverIpv6AddrIn := stringValue (obj.value "serverIpv6AddrIn")
  guard (serverIpv4AddrIn ≠ none ∨ serverIpv6AddrIn ≠ none)
  let primaryDnsServer ← parseDnsServer obj "primaryDnsServer"
  let secondaryDnsServer ← parseDnsServer obj "secondaryDnsServer"
  let hopType ← parseHopType obj
  let allowedIPAddressRanges ← parseRanges qt obj
  let excludedAddresses ← parseStringList obj "excludedAddresses"
  let vpnDisabledApps ← parseStringList obj "vpnDisabledApps"
  let allowedDnsServers ← parseStringList obj "allowedDnsServers"
  let text := fun key => (obj.value key).toString
  return {
    hopType, privateKey, deviceIpv4Address, deviceIpv6Address, serverPublicKey, serverIpv4AddrIn, serverIpv6AddrIn,
    primaryDnsServer, secondaryDnsServer, serverPort, allowedIPAddressRanges, excludedAddresses, vpnDisabledApps,
    allowedDnsServers
    serverIpv4Gateway := text "serverIpv4Gateway"
    serverIpv6Gateway := text "serverIpv6Gateway"
    serverPskKey := stringValue (obj.value "serverPskKey")
    deviceMTU := parseMTU windows obj
    persistentKeepalive := text "persistentKeepalive"
    killSwitchEnabled := variantToBool (text "killSwitchOption")
    junkPacketCount := text "Jc"
    junkPacketMinSize := text "Jmin"
    junkPacketMaxSize := text "Jmax"
    initPacketJunkSize := text "S1"
    responsePacketJunkSize := text "S2"
    cookieReplyPacketJunkSize := text "S3"
    transportPacketJunkSize := text "S4"
    initPacketMagicHeader := text "H1"
    responsePacketMagicHeader := text "H2"
    underloadPacketMagicHeader := text "H3"
    transportPacketMagicHeader := text "H4"
    specialJunk := parseSpecialJunk obj
    headerProtectionKey := text "HeaderProtectionKey"
    contentPaddingAddition := text "ContentPaddingAddition"
    rekeyAfterTime := text "RekeyAfterTime"
    rekeyTimeout := text "RekeyTimeout"
    rejectAfterTime := text "RejectAfterTime"
    keepaliveTimeout := text "KeepaliveTimeout"
    maxHandshakeAttempts := text "MaxHandshakeAttempts"
    randomTrailers := text "RandomTrailers"
    disableCookies := text "DisableCookies" }

/-- What an accepted configuration tells of the object it was read from. -/
structure Accepted (qt : Qt) (obj : JsonObject) (config : InterfaceConfig) : Prop where
  hasDevice : config.deviceIpv4Address ≠ none ∨ config.deviceIpv6Address ≠ none
  ranges : parseRanges qt obj = some config.allowedIPAddressRanges
  specialJunk : config.specialJunk = parseSpecialJunk obj

theorem accepted_of_parseConfig {qt : Qt} {windows : Bool} {obj : JsonObject} {config : InterfaceConfig}
    (h : parseConfig qt windows obj = some config) : Accepted qt obj config := by
  simp only [parseConfig, Option.bind_eq_bind, Option.bind_eq_some_iff] at h
  obtain ⟨_, -, _, -, _, -, _, hdevice, _, -, _, -, _, -, _, -, ranges, hranges, _, -, _, -, _, -, hconfig⟩ := h
  cases hconfig
  refine ⟨?_, hranges, rfl⟩
  by_contra hnone
  rw [guard, if_neg hnone] at hdevice
  cases hdevice

end TunnelCore.Daemon
