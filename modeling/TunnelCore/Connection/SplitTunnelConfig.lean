import TunnelCore.KillSwitch.Windows

namespace TunnelCore.Connection

open Daemon KillSwitch KillSwitch.Windows Text

/-- The repository casts the stored number to the enumeration, so that any `int` can stand here. -/
abbrev RouteMode := Int32

namespace RouteMode

def vpnAllSites : RouteMode := 0

def vpnOnlyForwardSites : RouteMode := 1

def vpnAllExceptSites : RouteMode := 2

end RouteMode

structure InstalledAppInfo where
  packageName : String
  appPath : String

/-- What a connection reads of `SecureAppSettingsRepository`: the stored modes, and the maps of sites and lists of
applications under their keys. -/
structure Settings where
  sitesSplitTunnelingEnabled : Bool
  routeMode : RouteMode
  appsRouteMode : RouteMode
  storedSites : String → List (String × List String)
  storedApps : String → List InstalledAppInfo

namespace Settings

def routeModeString (mode : RouteMode) : String :=
  if mode = .vpnAllSites then "AllSites"
  else if mode = .vpnOnlyForwardSites then "ForwardSites"
  else if mode = .vpnAllExceptSites then "ExceptSites"
  else ""

def appsRouteModeString (mode : RouteMode) : String :=
  if mode = 0 then "AllApps" else if mode = 1 then "ForwardApps" else if mode = 2 then "ExceptApps" else ""

def vpnSites (s : Settings) (mode : RouteMode) : List (String × List String) :=
  s.storedSites ("Conf/" ++ routeModeString mode)

def vpnApps (s : Settings) (mode : RouteMode) : List InstalledAppInfo :=
  s.storedApps ("Conf/" ++ appsRouteModeString mode)

def isAppsSplitTunnelingEnabled (_ : Settings) : Bool := false

def siteIpList (value : List String) : List String := (value.filter (· ≠ "")).eraseDups

def insertSite (site : String) (ips : List String) : List (String × List String) → List (String × List String)
  | [] => [(site, ips)]
  | (key, value) :: sites =>
    if key = site then (site, ips) :: sites
    else if site < key then (site, ips) :: (key, value) :: sites
    else (key, value) :: insertSite site ips sites

def addVpnSite (s : Settings) (mode : RouteMode) (site : String) (ips : List String) : Settings :=
  let sites := s.vpnSites mode
  let known := siteIpList ((sites.lookup site).getD [])
  let mergedIps := appendRanges known ips
  if (sites.lookup site).isSome ∧ mergedIps = known then s
  else
    let stored := Function.update s.storedSites ("Conf/" ++ routeModeString mode) (insertSite site mergedIps sites)
    { s with storedSites := stored }

end Settings

section Format

variable (qt : Qt)

def checkIPv4Format (ip : String) : Bool :=
  ip ≠ "" && ip.toList.count '.' = 3 &&
    match qt.hostAddress ip with
    | .ipv4 _ => true
    | _ => false

def checkIpSubnetFormat (ip : String) : Bool :=
  match ip.toList.splitOn '/' with
  | [_] => checkIPv4Format qt ip
  | [address, length] =>
    match textToInt (.ofList length) with
    | some subnet => 0 ≤ subnet && subnet ≤ 32 && checkIPv4Format qt (.ofList address)
    | none => false
  | _ => false

/-- The addresses of the sites: a site that is an address stands for itself, a host name for those that are stored
with it. -/
def siteAddresses (sites : List (String × List String)) : List String :=
  (sites.flatMap fun site =>
    if checkIpSubnetFormat qt site.1 then [site.1]
    else (Settings.siteIpList site.2).filter (checkIpSubnetFormat qt)).eraseDups

end Format

def protocolName (config : JsonObject) : String := (config.value "protocol").toString

def keyProtoConfigData (name : String) : String := name ++ "_config_data"

def isWireGuard (name : String) : Bool := name = "awg" || name = "wireguard"

/-- The text after the first `=` in the first line of the native config that sets the field. -/
def nativeValue (field : String) (configData : JsonObject) : Option String :=
  ((configData.value "config").toString.toList.splitOn '\n').findSome? fun line =>
    match line.splitOn '=' with
    | name :: part :: parts =>
      if trimmed (.ofList name) = field then some (trimmed (.ofList (['='].intercalate (part :: parts)))) else none
    | _ => none

/-- The configuration together with the protocol's part of it, as two variables of the function. -/
abbrev Draft := JsonObject × JsonObject

def Draft.set (name field : String) (v : Json) (d : Draft) : Draft :=
  (d.1.insert (keyProtoConfigData name) (.object (d.2.insert field v)), d.2.insert field v)

def readAllowedIps (name : String) (d : Draft) : Draft :=
  if (d.2.value "allowed_ips").isString then
    d.set name "allowed_ips" (.array (((d.2.value "allowed_ips").toString.splitOn ", ").map .string))
  else if d.2.contains "allowed_ips" then d
  else
    match nativeValue "AllowedIPs" d.2 with
    | some ips =>
      d.set name "allowed_ips"
        (.array (((ips.toList.splitOn ',').filter (· ≠ [])).map fun ip => .string (trimmed (.ofList ip))))
    | none => d

def readPersistentKeepAlive (name : String) (d : Draft) : Draft :=
  if d.2.contains "persistent_keep_alive" then d
  else
    match nativeValue "PersistentKeepalive" d.2 with
    | some seconds => d.set name "persistent_keep_alive" (.string seconds)
    | none => d

def readNative (config : JsonObject) : Draft :=
  let name := protocolName config
  readPersistentKeepAlive name (readAllowedIps name (config, (config.value (keyProtoConfigData name)).toObject))

def isText (s : String) : Json → Bool
  | .string t => t = s
  | _ => false

/-- The test of `appendSplitTunnelingConfig` for a profile that tunnels everything. -/
def containsDefault (allowedIps : List Json) : Bool :=
  allowedIps.any (isText "0.0.0.0/0") && allowedIps.any (isText "::/0")

def isDefault : List Json → Bool
  | [v4, v6] => isText "0.0.0.0/0" v4 && isText "::/0" v6
  | _ => false

section Append

variable (qt : Qt) (settings : Settings)

def siteRouting (allowSiteBasedSplitTunneling : Bool) (config : JsonObject) : RouteMode × List String :=
  if settings.sitesSplitTunnelingEnabled then
    if allowSiteBasedSplitTunneling then
      let sites := siteAddresses qt (settings.vpnSites settings.routeMode)
      if sites = [] then (.vpnAllSites, [])
      else if settings.routeMode = .vpnOnlyForwardSites then
        (settings.routeMode, sites ++ [(config.value "dns1").toString, (config.value "dns2").toString])
      else (settings.routeMode, sites)
    else (settings.routeMode, [])
  else (.vpnAllSites, [])

def appRouting : RouteMode × List String :=
  if settings.isAppsSplitTunnelingEnabled then
    let apps := (settings.vpnApps settings.appsRouteMode).map fun app =>
      if app.appPath = "" then app.packageName else app.appPath
    if apps = [] then (0, []) else (settings.appsRouteMode, apps)
  else (0, [])

def modeNumber (mode : RouteMode) : Json := .number mode.toInt

def insertRouting (allowSiteBasedSplitTunneling : Bool) (config : JsonObject) : JsonObject :=
  let sites := siteRouting qt settings allowSiteBasedSplitTunneling config
  let apps := appRouting settings
  (((config.insert "splitTunnelType" (modeNumber sites.1)).insert "splitTunnelSites"
    (.array (sites.2.map .string))).insert "appSplitTunnelType" (modeNumber apps.1)).insert "splitTunnelApps"
    (.array (apps.2.map .string))

def appendSplitTunnelingConfig (config : JsonObject) : JsonObject :=
  if isWireGuard (protocolName config) then
    let d := readNative config
    insertRouting qt settings (containsDefault (d.2.value "allowed_ips").toArray) d.1
  else insertRouting qt settings true config

end Append

/-- `WireguardProtocol::startMzImpl` up to the call of `activate`. -/
def startMzImpl (getIPAddress : String → String) (rawConfig : JsonObject) : JsonObject :=
  let key := keyProtoConfigData (protocolName rawConfig)
  let vpnConfigData := (rawConfig.value key).toObject
  let resolved := vpnConfigData.insert "hostName" (.string (getIPAddress (vpnConfigData.value "hostName").toString))
  let rawConfig := rawConfig.insert key (.object resolved)
  rawConfig.insert "hostName" (.string (getIPAddress (rawConfig.value "hostName").toString))

def rangeObject (address : String) (range : Int) (isIpv6 : Bool) : Json :=
  .object [("address", .string address), ("range", .number range), ("isIpv6", .bool isIpv6)]

def ipRange (text : String) : Json :=
  match text.toList.splitOn '/' with
  | address :: length :: _ => rangeObject (.ofList address) (atoi length) false
  | _ => rangeObject text 32 false

def allowedRanges (plainAllowedIP : List Json) (splitTunnelType : Int) (splitTunnelSites : List Json) : List Json :=
  if ¬ isDefault plainAllowedIP ∧ plainAllowedIP ≠ [] then plainAllowedIP.map fun v => ipRange v.toString
  else if splitTunnelType = 0 ∨ splitTunnelType = 2 then [rangeObject "0.0.0.0" 0 false, rangeObject "::" 0 true]
  else if splitTunnelType = 1 then splitTunnelSites.map fun v => ipRange v.toString
  else []

def awgProtocolKeys : List String :=
  ["Jc", "Jmin", "Jmax", "S1", "S2", "S3", "S4", "H1", "H2", "H3", "H4", "I1", "I2", "I3", "I4", "I5",
    "HeaderProtectionKey", "ContentPaddingAddition", "RekeyAfterTime", "RekeyTimeout", "RejectAfterTime",
    "KeepaliveTimeout", "MaxHandshakeAttempts", "RandomTrailers", "DisableCookies"]

/-- The message that `LocalSocketController::activate` writes to the daemon. -/
def activate (rawConfig : JsonObject) : JsonObject :=
  let splitTunnelType := (rawConfig.value "splitTunnelType").toInt
  let splitTunnelSites := (rawConfig.value "splitTunnelSites").toArray
  let wgConfig := (rawConfig.value (keyProtoConfigData (protocolName rawConfig))).toObject
  let hostName := wgConfig.value "hostName"
  let json : JsonObject := [("type", .string "activate")]
  let json := json.copy "privateKey" wgConfig "client_priv_key"
  let json := json.copy "deviceIpv4Address" wgConfig "client_ip"
  let json := json.insert "deviceIpv6Address" (.string "fd58:baa6:dead::1")
  let json := json.copy "serverPublicKey" wgConfig "server_pub_key"
  let json := json.copy "serverPskKey" wgConfig "psk_key"
  let json := json.copy "serverIpv4AddrIn" wgConfig "hostName"
  let json := json.copy "deviceMTU" wgConfig "mtu"
  let json := json.insert "serverPort" (.number (wgConfig.value "port").toInt)
  let json := json.copy "serverIpv4Gateway" wgConfig "hostName"
  let json :=
    if wgConfig.contains "persistent_keep_alive" then
      json.insert "persistentKeepalive" (.string (wgConfig.value "persistent_keep_alive").toString)
    else json
  let json := json.copy "primaryDnsServer" rawConfig "dns1"
  -- the second server is left out when the first one is the one of the VPN itself
  let json :=
    if amneziaDnsIp.toList <:+: (rawConfig.value "dns1").toString.toList then json
    else json.copy "secondaryDnsServer" rawConfig "dns2"
  let json := json.insert "allowedIPAddressRanges"
    (.array (allowedRanges (wgConfig.value "allowed_ips").toArray splitTunnelType splitTunnelSites))
  let json := json.insert "excludedAddresses" (.array (hostName ::
    if splitTunnelType = 2 then splitTunnelSites.map fun v => .string v.toString else []))
  let json := json.insert "vpnDisabledApps" (.array (rawConfig.value "splitTunnelApps").toArray)
  let json := json.insert "allowedDnsServers" (.array (rawConfig.value "allowedDnsServers").toArray)
  let json := json.copy "killSwitchOption" rawConfig "killSwitchOption"
  awgProtocolKeys.foldl (fun json key =>
    if (wgConfig.value key).isString ∧ (wgConfig.value key).toString ≠ "" then json.insert key (wgConfig.value key)
    else json) json

/-- What `activate` sees of the configuration that the native block leaves: the protocol's part is the one that was
read, the rest is untouched. -/
structure Draft.Of (config : JsonObject) (name : String) (d : Draft) : Prop where
  data : (d.1.value (keyProtoConfigData name)).toObject = d.2
  others : ∀ key ≠ keyProtoConfigData name, d.1.value key = config.value key

variable {config : JsonObject} {name : String}

theorem Draft.Of.set {d : Draft} (h : d.Of config name) (field : String)
    (v : Json) : (d.set name field v).Of config name where
  data := by rw [Draft.set, JsonObject.value_insert, Json.toObject]
  others := by
    intro key hkey
    rw [Draft.set, JsonObject.value_insert_of_ne _ _ hkey, h.others key hkey]

theorem Draft.Of.readAllowedIps {d : Draft} (h : d.Of config name) :
    (readAllowedIps name d).Of config name := by
  rw [Connection.readAllowedIps]
  split
  · exact h.set _ _
  · split
    · exact h
    · split
      · exact h.set _ _
      · exact h

theorem Draft.Of.readPersistentKeepAlive {d : Draft} (h : d.Of config name) :
    (readPersistentKeepAlive name d).Of config name := by
  rw [Connection.readPersistentKeepAlive]
  split
  · exact h
  · split
    · exact h.set _ _
    · exact h

theorem readNative_of (config : JsonObject) : (readNative config).Of config (protocolName config) := by
  have h : Draft.Of config (protocolName config)
      (config, (config.value (keyProtoConfigData (protocolName config))).toObject) :=
    ⟨rfl, fun _ _ => rfl⟩
  exact h.readAllowedIps.readPersistentKeepAlive

theorem toInt_modeNumber (mode : RouteMode) : (modeNumber mode).toInt = mode.toInt := by
  rw [modeNumber, Json.toInt, Rat.den_intCast, Rat.num_intCast, if_pos ⟨rfl, mode.le_toInt, mode.toInt_lt⟩]

section Inserted

variable (qt : Qt) (settings : Settings) (allow : Bool) (config : JsonObject)

theorem insertRouting_type :
    ((insertRouting qt settings allow config).value "splitTunnelType").toInt =
      (siteRouting qt settings allow config).1.toInt := by
  rw [insertRouting, JsonObject.value_insert_of_ne _ _ (by decide), JsonObject.value_insert_of_ne _ _ (by decide),
    JsonObject.value_insert_of_ne _ _ (by decide), JsonObject.value_insert, toInt_modeNumber]

theorem insertRouting_sites :
    ((insertRouting qt settings allow config).value "splitTunnelSites").toArray =
      (siteRouting qt settings allow config).2.map .string := by
  rw [insertRouting, JsonObject.value_insert_of_ne _ _ (by decide), JsonObject.value_insert_of_ne _ _ (by decide),
    JsonObject.value_insert, Json.toArray]

theorem insertRouting_other {key : String}
    (h : key ∉ ["splitTunnelType", "splitTunnelSites", "appSplitTunnelType", "splitTunnelApps"]) :
    (insertRouting qt settings allow config).value key = config.value key := by
  simp only [List.mem_cons, List.not_mem_nil, or_false, not_or] at h
  obtain ⟨h₁, h₂, h₃, h₄⟩ := h
  rw [insertRouting, JsonObject.value_insert_of_ne _ _ h₄, JsonObject.value_insert_of_ne _ _ h₃,
    JsonObject.value_insert_of_ne _ _ h₂, JsonObject.value_insert_of_ne _ _ h₁]

theorem siteRouting_congr {config₁ config₂ : JsonObject} (h₁ : config₁.value "dns1" = config₂.value "dns1")
    (h₂ : config₁.value "dns2" = config₂.value "dns2") :
    siteRouting qt settings allow config₁ = siteRouting qt settings allow config₂ := by
  rw [siteRouting, siteRouting, h₁, h₂]

end Inserted

section Message

variable (qt : Qt) (settings : Settings) (getIPAddress : String → String) (config : JsonObject)

theorem value_foldl_insertIf (keys : List String) (p : String → Prop) [DecidablePred p] (v : String → Json)
    (json : JsonObject) {other : String} (h : other ∉ keys) :
    (keys.foldl (fun json key => if p key then json.insert key (v key) else json) json).value other =
      json.value other := by
  induction keys generalizing json with
  | nil => rfl
  | cons key keys ih =>
    rw [List.mem_cons, not_or] at h
    rw [List.foldl_cons, ih _ h.2]
    split
    · exact JsonObject.value_insert_of_ne _ _ h.1
    · rfl

def messageRanges (message : JsonObject) : List Json := (message.value "allowedIPAddressRanges").toArray

theorem messageRanges_activate (rawConfig : JsonObject) :
    messageRanges (activate rawConfig) =
      allowedRanges
        ((rawConfig.value (keyProtoConfigData (protocolName rawConfig))).toObject.value "allowed_ips").toArray
        (rawConfig.value "splitTunnelType").toInt (rawConfig.value "splitTunnelSites").toArray := by
  rw [messageRanges, activate, value_foldl_insertIf _ _ _ _ (by decide),
    JsonObject.value_copy_of_ne _ _ _ (by decide), JsonObject.value_insert_of_ne _ _ (by decide),
    JsonObject.value_insert_of_ne _ _ (by decide), JsonObject.value_insert_of_ne _ _ (by decide),
    JsonObject.value_insert, Json.toArray]

theorem ne_keyProtoConfigData {name : String} (hp : isWireGuard name) {key : String}
    (hkey : key ∉ ["awg_config_data", "wireguard_config_data"]) : key ≠ keyProtoConfigData name := by
  simp only [List.mem_cons, List.not_mem_nil, or_false, not_or] at hkey
  rw [isWireGuard, Bool.or_eq_true, decide_eq_true_eq, decide_eq_true_eq] at hp
  obtain rfl | rfl := hp
  · exact hkey.1
  · exact hkey.2

theorem messageRanges_start (hp : isWireGuard (protocolName config)) :
    messageRanges (activate (startMzImpl getIPAddress config)) =
      allowedRanges ((config.value (keyProtoConfigData (protocolName config))).toObject.value "allowed_ips").toArray
        (config.value "splitTunnelType").toInt (config.value "splitTunnelSites").toArray := by
  have hother : ∀ key, key ∉ ["awg_config_data", "wireguard_config_data"] → key ≠ "hostName" →
      (startMzImpl getIPAddress config).value key = config.value key := by
    intro key hkey hhost
    rw [startMzImpl, JsonObject.value_insert_of_ne _ _ hhost,
      JsonObject.value_insert_of_ne _ _ (ne_keyProtoConfigData hp hkey)]
  have hname : protocolName (startMzImpl getIPAddress config) = protocolName config := by
    rw [protocolName, hother "protocol" (by decide) (by decide), protocolName]
  have hdata : ((startMzImpl getIPAddress config).value (keyProtoConfigData (protocolName config))).toObject.value
      "allowed_ips" = (config.value (keyProtoConfigData (protocolName config))).toObject.value "allowed_ips" := by
    rw [startMzImpl, JsonObject.value_insert_of_ne _ _ (Ne.symm (ne_keyProtoConfigData hp (by decide))),
      JsonObject.value_insert, Json.toObject, JsonObject.value_insert_of_ne _ _ (by decide)]
  rw [messageRanges_activate, hname, hdata, hother "splitTunnelType" (by decide) (by decide),
    hother "splitTunnelSites" (by decide) (by decide)]

def profileAllowedIps : List Json := ((readNative config).2.value "allowed_ips").toArray

theorem messageRanges_session (hp : isWireGuard (protocolName config)) :
    messageRanges (activate (startMzImpl getIPAddress (appendSplitTunnelingConfig qt settings config))) =
      let routing := siteRouting qt settings (containsDefault (profileAllowedIps config)) config
      allowedRanges (profileAllowedIps config) routing.1.toInt (routing.2.map .string) := by
  have hof := readNative_of config
  have hkeys : ∀ key, key ∉ ["awg_config_data", "wireguard_config_data"] →
      (readNative config).1.value key = config.value key :=
    fun key hkey => hof.others key (ne_keyProtoConfigData hp hkey)
  have happend : appendSplitTunnelingConfig qt settings config =
      insertRouting qt settings (containsDefault (profileAllowedIps config)) (readNative config).1 := by
    rw [appendSplitTunnelingConfig, if_pos hp, profileAllowedIps]
  have hname : protocolName (appendSplitTunnelingConfig qt settings config) = protocolName config := by
    rw [happend, protocolName, insertRouting_other _ _ _ _ (by decide), hkeys "protocol" (by decide), protocolName]
  have hdata : ((appendSplitTunnelingConfig qt settings config).value
      (keyProtoConfigData (protocolName config))).toObject = (readNative config).2 := by
    rw [happend, insertRouting_other, hof.data]
    intro hmem
    simp only [List.mem_cons, List.not_mem_nil, or_false] at hmem
    obtain h | h | h | h := hmem
    all_goals exact ne_keyProtoConfigData hp (by decide) h.symm
  rw [messageRanges_start _ _ (by rw [hname]; exact hp), hname, hdata, happend, insertRouting_type,
    insertRouting_sites, siteRouting_congr _ _ _ (hkeys "dns1" (by decide)) (hkeys "dns2" (by decide)),
    profileAllowedIps]

variable {ips : List Json}

theorem containsDefault_of_isDefault (h : isDefault ips) : containsDefault ips := by
  rcases ips with _ | ⟨v4, _ | ⟨v6, _ | ⟨_, _⟩⟩⟩
  · exact absurd h Bool.false_ne_true
  · exact absurd h Bool.false_ne_true
  · rw [isDefault, Bool.and_eq_true] at h
    simp [containsDefault, h.1, h.2]
  · exact absurd h Bool.false_ne_true

theorem ne_nil_of_containsDefault (h : containsDefault ips) : ips ≠ [] := by
  rintro rfl
  exact absurd h Bool.false_ne_true

theorem mode_toInt_eq {mode : RouteMode} {n : Int} (other : RouteMode) (h : other.toInt = n) :
    mode.toInt = n ↔ mode = other := by
  rw [← h, Int32.toInt_inj]

theorem allowedRanges_own (hd : ¬ isDefault ips) (hne : ips ≠ []) (mode : Int) (sites : List Json) :
    allowedRanges ips mode sites = ips.map fun v => ipRange v.toString :=
  if_pos ⟨hd, hne⟩

theorem allowedRanges_forward (h : ips = [] ∨ isDefault ips) (sites : List Json) :
    allowedRanges ips RouteMode.vpnOnlyForwardSites.toInt sites = sites.map fun v => ipRange v.toString := by
  have hplain : ¬ (¬ isDefault ips ∧ ips ≠ []) := by
    rintro ⟨hd, hne⟩
    exact h.elim hne hd
  rw [allowedRanges, if_neg hplain, if_neg (by decide), if_pos (by decide)]

theorem allowedRanges_eq_nil_iff (ips : List Json) (mode : RouteMode) (sites : List Json) :
    allowedRanges ips mode.toInt sites = [] ↔
      (ips = [] ∨ isDefault ips) ∧ mode ≠ .vpnAllSites ∧ mode ≠ .vpnAllExceptSites ∧
        (mode = .vpnOnlyForwardSites → sites = []) := by
  by_cases hplain : ips = [] ∨ isDefault ips
  · have hbranch : ¬ (¬ isDefault ips ∧ ips ≠ []) := by
      rintro ⟨hd, hne⟩
      exact hplain.elim hne hd
    have h₀ : mode.toInt = 0 ↔ mode = .vpnAllSites := mode_toInt_eq _ rfl
    have h₁ : mode.toInt = 1 ↔ mode = .vpnOnlyForwardSites := mode_toInt_eq _ rfl
    have h₂ : mode.toInt = 2 ↔ mode = .vpnAllExceptSites := mode_toInt_eq _ rfl
    rw [allowedRanges, if_neg hbranch]
    simp only [h₀, h₁, h₂]
    by_cases hall : mode = .vpnAllSites ∨ mode = .vpnAllExceptSites
    · rw [if_pos hall]
      refine ⟨fun h => absurd h (List.cons_ne_nil _ _), ?_⟩
      rintro ⟨-, h₀, h₂, -⟩
      exact absurd hall (not_or.mpr ⟨h₀, h₂⟩)
    · rw [if_neg hall]
      rw [not_or] at hall
      by_cases hone : mode = .vpnOnlyForwardSites
      · rw [if_pos hone, List.map_eq_nil_iff]
        exact ⟨fun h => ⟨hplain, hall.1, hall.2, fun _ => h⟩, fun h => h.2.2.2 hone⟩
      · rw [if_neg hone]
        exact ⟨fun _ => ⟨hplain, hall.1, hall.2, fun h => absurd h hone⟩, fun _ => rfl⟩
  · rw [not_or] at hplain
    rw [allowedRanges_own hplain.2 hplain.1, List.map_eq_nil_iff]
    exact ⟨fun h => absurd h hplain.1, fun h => absurd h.1 (not_or.mpr hplain)⟩

def listedSites : List String := siteAddresses qt (settings.vpnSites settings.routeMode)

/-- The name servers that go with the sites of a mode that tunnels nothing else. -/
def addedDns : List String :=
  if listedSites qt settings = [] then [] else [(config.value "dns1").toString, (config.value "dns2").toString]

theorem siteRouting_forward (he : settings.sitesSplitTunnelingEnabled)
    (hm : settings.routeMode = .vpnOnlyForwardSites) :
    siteRouting qt settings true config =
      (if listedSites qt settings = [] then .vpnAllSites else .vpnOnlyForwardSites,
        listedSites qt settings ++ addedDns qt settings config) := by
  rw [siteRouting, if_pos he, if_pos rfl, addedDns, ← listedSites]
  by_cases hs : listedSites qt settings = []
  · simp only [hs, if_true, List.nil_append]
  · simp only [hs, hm, if_true, if_false]

theorem siteRouting_refused (he : settings.sitesSplitTunnelingEnabled) :
    siteRouting qt settings false config = (settings.routeMode, []) := by
  rw [siteRouting, if_pos he, if_neg Bool.false_ne_true]

theorem siteRouting_disabled (he : ¬ settings.sitesSplitTunnelingEnabled) (allow : Bool) :
    siteRouting qt settings allow config = (.vpnAllSites, []) := by
  rw [siteRouting, if_neg he]

theorem noRange_iff (ips : List Json) :
    let routing := siteRouting qt settings (containsDefault ips) config
    (ips = [] ∨ isDefault ips) ∧ routing.1 ≠ .vpnAllSites ∧ routing.1 ≠ .vpnAllExceptSites ∧
        (routing.1 = .vpnOnlyForwardSites → routing.2.map Json.string = []) ↔
      settings.sitesSplitTunnelingEnabled ∧
        settings.routeMode ≠ .vpnAllSites ∧ settings.routeMode ≠ .vpnAllExceptSites ∧
        (ips = [] ∨
          isDefault ips ∧ listedSites qt settings ≠ [] ∧ settings.routeMode ≠ .vpnOnlyForwardSites) := by
  by_cases he : settings.sitesSplitTunnelingEnabled
  · by_cases hnil : ips = []
    · subst hnil
      rw [show containsDefault [] = false from rfl, siteRouting_refused qt settings config he]
      simp [he]
    · by_cases hd : isDefault ips
      · rw [containsDefault_of_isDefault hd, siteRouting, if_pos he, if_pos rfl, ← listedSites]
        by_cases hs : listedSites qt settings = []
        · simp [hs, hnil]
        · by_cases hm : settings.routeMode = .vpnOnlyForwardSites
          · simp [hs, hm, hnil]
          · simp [hs, hm, hnil, hd, he]
      · simp [hnil, hd]
  · rw [siteRouting_disabled qt settings config he]
    simp [he]

/-- The two tests for a profile that tunnels everything agree only on the default list itself: with any other list
the profile's own addresses win over the sites. The daemon is given no range at all when the profile has no allowed
addresses and the mode is not one that tunnels everything. -/
theorem split_tunnel_ranges_iff (hp : isWireGuard (protocolName config)) :
    let ranges := messageRanges (activate (startMzImpl getIPAddress (appendSplitTunnelingConfig qt settings config)))
    let ips := profileAllowedIps config
    let wanted := (listedSites qt settings ++ addedDns qt settings config).map ipRange
    (containsDefault ips → settings.sitesSplitTunnelingEnabled → settings.routeMode = .vpnOnlyForwardSites →
      (ranges = wanted ↔
        isDefault ips ∧ listedSites qt settings ≠ [] ∨ (ips.map fun v => ipRange v.toString) = wanted)) ∧
    (ranges = [] ↔
      settings.sitesSplitTunnelingEnabled ∧
        settings.routeMode ≠ .vpnAllSites ∧ settings.routeMode ≠ .vpnAllExceptSites ∧
        (ips = [] ∨
          isDefault ips ∧ listedSites qt settings ≠ [] ∧ settings.routeMode ≠ .vpnOnlyForwardSites)) := by
  intro ranges ips wanted
  have hranges : ranges = _ := messageRanges_session qt settings getIPAddress config hp
  rw [hranges]
  constructor
  · intro hc he hm
    change allowedRanges ips _ _ = wanted ↔ _
    rw [show containsDefault (profileAllowedIps config) = true from hc, siteRouting_forward qt settings config he hm]
    by_cases hd : isDefault ips
    · by_cases hs : listedSites qt settings = []
      · have hnil : wanted = [] := by
          simp only [wanted, addedDns, hs, if_true, List.append_nil, List.map_nil]
        rw [if_pos hs, hnil, allowedRanges_eq_nil_iff]
        refine iff_of_false (fun h => h.2.1 rfl) ?_
        rintro (⟨-, h⟩ | h)
        · exact h hs
        · exact ne_nil_of_containsDefault hc (List.map_eq_nil_iff.mp h)
      · rw [if_neg hs, allowedRanges_forward (.inr hd), List.map_map]
        exact iff_of_true rfl (.inl ⟨hd, hs⟩)
    · rw [allowedRanges_own hd (ne_nil_of_containsDefault hc)]
      exact ⟨.inr, fun h => h.resolve_left fun hn => hd hn.1⟩
  · exact (allowedRanges_eq_nil_iff _ _ _).trans (noRange_iff qt settings config ips)

end Message

def sampleSettings : Settings where
  sitesSplitTunnelingEnabled := true
  routeMode := .vpnOnlyForwardSites
  appsRouteMode := 0
  storedSites key := if key = "Conf/ForwardSites" then [("192.0.2.1", [])] else []
  storedApps _ := []

def sampleProfile (allowedIps : List String) : JsonObject :=
  [("protocol", .string "awg"), ("dns1", .string "10.8.0.1"), ("dns2", .string "10.8.0.2"),
    ("awg_config_data", .object [("allowed_ips", .array (allowedIps.map .string))])]

theorem split_tunnel_ranges_sample :
    messageRanges (activate (startMzImpl id (appendSplitTunnelingConfig sampleQt sampleSettings
      (sampleProfile ["0.0.0.0/0", "::/0"])))) = ["192.0.2.1", "10.8.0.1", "10.8.0.2"].map ipRange := by
  have h := split_tunnel_ranges_iff sampleQt sampleSettings id (sampleProfile ["0.0.0.0/0", "::/0"]) (by decide +kernel)
  have hsites : listedSites sampleQt sampleSettings = ["192.0.2.1"] := by decide +kernel
  have hdns : addedDns sampleQt sampleSettings (sampleProfile ["0.0.0.0/0", "::/0"]) = ["10.8.0.1", "10.8.0.2"] := by
    decide +kernel
  rw [hsites, hdns] at h
  exact (h.1 (by decide +kernel) rfl rfl).mpr (.inl ⟨by decide +kernel, List.cons_ne_nil _ _⟩)

/-- With the two networks in the other order the sites are ignored, and without allowed addresses the message has no
range. -/
theorem split_tunnel_ranges_reordered :
    let ranges := fun config => messageRanges (activate (startMzImpl id
      (appendSplitTunnelingConfig sampleQt sampleSettings config)))
    let reordered := sampleProfile ["::/0", "0.0.0.0/0"]
    containsDefault (profileAllowedIps reordered) ∧
      ranges reordered ≠
        (listedSites sampleQt sampleSettings ++ addedDns sampleQt sampleSettings reordered).map ipRange ∧
      ranges (sampleProfile []) = [] := by
  intro ranges reordered
  refine ⟨by decide +kernel, ?_, ?_⟩
  · intro h
    have hlength := congrArg List.length h
    revert hlength
    decide +kernel
  · apply List.eq_nil_of_length_eq_zero
    decide +kernel

end TunnelCore.Connection
