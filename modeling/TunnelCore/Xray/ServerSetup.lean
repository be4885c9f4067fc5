import TunnelCore.Xray.StreamSettings

namespace TunnelCore.Xray

def uuidPath : String := "/opt/amnezia/xray/xray_uuid.key"
def publicKeyPath : String := "/opt/amnezia/xray/xray_public.key"
def privateKeyPath : String := "/opt/amnezia/xray/xray_private.key"
def shortidPath : String := "/opt/amnezia/xray/xray_short_id.key"

inductive ErrorCode
  | internalError
  | xrayRealityKeysReadFailed
  | xrayServerConfigInvalid
  | xrayServerNoVlessClients
  | session (code : Nat)
deriving DecidableEq

/-- What the server file holds: a JSON value, or nothing that can be parsed as one. -/
abbrev ServerFile := Option Json

/-- A session with the server. A key file is read up to three times, and each time may give another text or fail;
the other fields are the errors of reading the server file, of writing it and of restarting the container. -/
structure Remote where
  hostName : String
  keyFile : String → Nat → Except ErrorCode String
  readError : Option ErrorCode
  uploadError : Option ErrorCode
  restartError : Option ErrorCode

structure XrayClientConfig where
  nativeConfig : JsonObject
  localPort : String
  id : String

structure XrayProtocolConfig where
  serverConfig : XrayServerConfig
  clientConfig : Option XrayClientConfig := none

def withoutLineBreaks (text : String) : String := .ofList (text.toList.filter fun c => c ≠ '\n' && c ≠ '\r')

/-- One of the three attempts at a key file: an error and an empty text both call for another. -/
def readAttempt (remote : Remote) (path : String) (attempt : Nat) : Option String :=
  match remote.keyFile path attempt with
  | .ok text => if withoutLineBreaks text = "" then none else some (withoutLineBreaks text)
  | .error _ => none

def readContainerKeyFile (remote : Remote) (path : String) : Except ErrorCode String :=
  match (List.range 3).findSome? (readAttempt remote path) with
  | some out => .ok out
  | none => .error .xrayRealityKeysReadFailed

def readRealityKeyFiles (remote : Remote) : Except ErrorCode (String × String) := do
  let publicKey ← readContainerKeyFile remote publicKeyPath
  let shortId ← readContainerKeyFile remote shortidPath
  return (publicKey, shortId)

variable {remote : Remote}

theorem readContainerKeyFile_ne_empty {path out : String}
    (h : readContainerKeyFile remote path = .ok out) : out ≠ "" := by
  rw [readContainerKeyFile] at h
  split at h
  next text htext =>
    obtain rfl := Except.ok.inj h
    obtain ⟨attempt, -, hread⟩ := List.exists_of_findSome?_eq_some htext
    rw [readAttempt] at hread
    split at hread
    · split at hread
      · cases hread
      next hne => exact Option.some.inj hread ▸ hne
    · cases hread
  · cases h

variable (qt : Casing)

def portNumber (srv : XrayServerConfig) : Int := toInt (orDefault srv.port defaultPort)

/-- The user both sides name, with a flow only where the transport and the security allow one. -/
def userEntry (srv : XrayServerConfig) (entry : JsonObject) : JsonObject :=
  insertText entry "flow" (effectiveClientFlow srv)

def logSettings : Json := .object [("loglevel", .string "error")]

/-- The keys that were read before are not read again unless one of them is empty. -/
def realityKeys (remote : Remote) (srv : XrayServerConfig) (publicKey shortId : String) :
    Except ErrorCode (String × String) :=
  if effectiveSecurity srv = "reality" ∧ (publicKey = "" ∨ shortId = "") then readRealityKeyFiles remote
  else .ok (publicKey, shortId)

def clientStream (srv : XrayServerConfig) (publicKey shortId : String) : JsonObject :=
  let streamObj := buildStreamSettings qt srv
  if effectiveSecurity srv = "reality" then
    let rs := (streamObj.value "realitySettings").toObject
    let rs := rs.insert "publicKey" (.string publicKey)
    let rs := rs.insert "shortId" (.string shortId)
    let rs := rs.insert "spiderX" (.string "")
    streamObj.insert "realitySettings" (.object rs)
  else streamObj

def clientJson (hostName : String) (srv : XrayServerConfig) (clientId publicKey shortId : String) : JsonObject :=
  let userObj := userEntry srv [("id", .string clientId), ("encryption", .string "none")]
  let vnextEntry : JsonObject :=
    [("address", .string hostName), ("port", .number (portNumber srv)), ("users", .array [.object userObj])]
  let outbound : JsonObject :=
    [("protocol", .string "vless"), ("settings", .object [("vnext", .array [.object vnextEntry])]),
      ("streamSettings", .object (clientStream qt srv publicKey shortId))]
  let inboundObj : JsonObject :=
    [("listen", .string defaultLocalListenAddr), ("port", .string defaultLocalProxyPort),
      ("protocol", .string "socks"), ("settings", .object [("udp", .bool true)])]
  [("log", logSettings), ("inbounds", .array [.object inboundObj]), ("outbounds", .array [.object outbound])]

def buildClientProtocolConfig (remote : Remote) (srv : XrayServerConfig)
    (clientId prefetchedPublicKey prefetchedShortId : String) : Except ErrorCode XrayProtocolConfig := do
  let (publicKey, shortId) ← realityKeys remote srv prefetchedPublicKey prefetchedShortId
  let clientConfig : XrayClientConfig :=
    { nativeConfig := clientJson qt remote.hostName srv clientId publicKey shortId
      localPort := defaultLocalProxyPort
      id := clientId }
  return { serverConfig := srv, clientConfig := some clientConfig }

structure SetupKeys where
  clientId : String
  privateKey : String := ""
  publicKey : String := ""
  shortId : String := ""

def readSetupKeys (remote : Remote) (srv : XrayServerConfig) : Except ErrorCode SetupKeys := do
  let clientId ← readContainerKeyFile remote uuidPath
  if effectiveSecurity srv = "reality" then
    let privateKey ← readContainerKeyFile remote privateKeyPath
    let publicKey ← readContainerKeyFile remote publicKeyPath
    let shortId ← readContainerKeyFile remote shortidPath
    return ⟨clientId, privateKey, publicKey, shortId⟩
  else return { clientId }

/-- The server's side of reality replaces the section that the shared builder wrote. -/
def serverStream (srv : XrayServerConfig) (keys : SetupKeys) : JsonObject :=
  let streamSettings := buildStreamSettings qt srv
  if effectiveSecurity srv = "reality" then
    let siteEff := orDefault srv.site defaultSite
    let sniEff := orDefault srv.sni siteEff
    let fpEff := orDefault srv.fingerprint defaultFingerprint
    let rs : JsonObject :=
      [("dest", .string (siteEff ++ ":443")), ("fingerprint", .string fpEff), ("privateKey", .string keys.privateKey),
        ("serverNames", .array [.string sniEff]), ("shortIds", .array [.string keys.shortId])]
    streamSettings.insert "realitySettings" (.object rs)
  else streamSettings

def setupServerConfig (srv : XrayServerConfig) (keys : SetupKeys) : JsonObject :=
  let clientEntry := userEntry srv [("id", .string keys.clientId)]
  let settings : JsonObject := [("clients", .array [.object clientEntry]), ("decryption", .string "none")]
  let inbound : JsonObject :=
    [("port", .number (portNumber srv)), ("protocol", .string "vless"), ("settings", .object settings),
      ("streamSettings", .object (serverStream qt srv keys))]
  [("log", logSettings), ("inbounds", .array [.object inbound]),
    ("outbounds", .array [.object [("protocol", .string "freedom")]])]

/-- The container's protocol configuration after the call, and the server file. -/
def writeServerConfigForSetup (remote : Remote) (protocolConfig : Option XrayProtocolConfig) (file : ServerFile) :
    Except ErrorCode XrayProtocolConfig × ServerFile :=
  match protocolConfig with
  | none => (.error .internalError, file)
  | some xrayCfg =>
    let srv := xrayCfg.serverConfig
    if srv.isThirdPartyConfig then (.ok xrayCfg, file)
    else
      match readSetupKeys remote srv with
      | .error error => (.error error, file)
      | .ok keys =>
        match remote.uploadError with
        | some error => (.error error, file)
        | none =>
          (buildClientProtocolConfig qt remote srv keys.clientId keys.publicKey keys.shortId,
            some (.object (setupServerConfig qt srv keys)))

def firstOf (o : JsonObject) (key : String) : JsonObject := ((o.value key).toArray.headD .null).toObject

def partOf (o : JsonObject) (key : String) : JsonObject := (o.value key).toObject

def serverInbound (server : JsonObject) : JsonObject := firstOf server "inbounds"

def serverUser (server : JsonObject) : JsonObject := firstOf (partOf (serverInbound server) "settings") "clients"

def clientOutbound (client : JsonObject) : JsonObject := firstOf client "outbounds"

def clientVnext (client : JsonObject) : JsonObject := firstOf (partOf (clientOutbound client) "settings") "vnext"

def clientUser (client : JsonObject) : JsonObject := firstOf (clientVnext client) "users"

def streamOf (o : JsonObject) : JsonObject := partOf o "streamSettings"

def Shared (o o' : JsonObject) (key : String) : Prop := ∃ v, o.lookup key = some v ∧ o'.lookup key = some v

/-- The client names a server it can reach with the keys that the server accepts. -/
structure RealityAgrees (server client : JsonObject) : Prop where
  serverName : (partOf (streamOf (clientOutbound client)) "realitySettings").value "serverName" ∈
    ((partOf (streamOf (serverInbound server)) "realitySettings").value "serverNames").toArray
  shortId : (partOf (streamOf (clientOutbound client)) "realitySettings").value "shortId" ∈
    ((partOf (streamOf (serverInbound server)) "realitySettings").value "shortIds").toArray

structure Agrees (srv : XrayServerConfig) (server client : JsonObject) : Prop where
  port : Shared (serverInbound server) (clientVnext client) "port"
  id : Shared (serverUser server) (clientUser client) "id"
  flow : (serverUser server).lookup "flow" = (clientUser client).lookup "flow"
  network : Shared (streamOf (serverInbound server)) (streamOf (clientOutbound client)) "network"
  security : Shared (streamOf (serverInbound server)) (streamOf (clientOutbound client)) "security"
  xhttpSettings : (streamOf (serverInbound server)).lookup "xhttpSettings" =
    (streamOf (clientOutbound client)).lookup "xhttpSettings"
  kcpSettings : (streamOf (serverInbound server)).lookup "kcpSettings" =
    (streamOf (clientOutbound client)).lookup "kcpSettings"
  reality : effectiveSecurity srv = "reality" → RealityAgrees server client

variable {qt} {srv : XrayServerConfig} {keys : SetupKeys} {hostName clientId publicKey shortId : String}

theorem serverInbound_setup :
    serverInbound (setupServerConfig qt srv keys) =
      [("port", .number (portNumber srv)), ("protocol", .string "vless"),
        ("settings", .object [("clients", .array [.object (userEntry srv [("id", .string keys.clientId)])]),
          ("decryption", .string "none")]),
        ("streamSettings", .object (serverStream qt srv keys))] := by
  simp [serverInbound, firstOf, setupServerConfig, JsonObject.value, List.lookup_cons, Json.toArray, Json.toObject]

theorem serverUser_setup :
    serverUser (setupServerConfig qt srv keys) = userEntry srv [("id", .string keys.clientId)] := by
  rw [serverUser, serverInbound_setup]
  simp [partOf, firstOf, JsonObject.value, List.lookup_cons, Json.toArray, Json.toObject]

theorem streamOf_setup : streamOf (serverInbound (setupServerConfig qt srv keys)) = serverStream qt srv keys := by
  rw [serverInbound_setup]
  simp [streamOf, partOf, JsonObject.value, List.lookup_cons, Json.toObject]

theorem clientOutbound_clientJson :
    clientOutbound (clientJson qt hostName srv clientId publicKey shortId) =
      [("protocol", .string "vless"),
        ("settings", .object [("vnext", .array [.object [("address", .string hostName),
          ("port", .number (portNumber srv)), ("users", .array [.object
            (userEntry srv [("id", .string clientId), ("encryption", .string "none")])])]])]),
        ("streamSettings", .object (clientStream qt srv publicKey shortId))] := by
  simp [clientOutbound, firstOf, clientJson, JsonObject.value, List.lookup_cons, Json.toArray, Json.toObject]

theorem clientVnext_clientJson :
    clientVnext (clientJson qt hostName srv clientId publicKey shortId) =
      [("address", .string hostName), ("port", .number (portNumber srv)), ("users", .array [.object
        (userEntry srv [("id", .string clientId), ("encryption", .string "none")])])] := by
  rw [clientVnext, clientOutbound_clientJson]
  simp [partOf, firstOf, JsonObject.value, List.lookup_cons, Json.toArray, Json.toObject]

theorem clientUser_clientJson :
    clientUser (clientJson qt hostName srv clientId publicKey shortId) =
      userEntry srv [("id", .string clientId), ("encryption", .string "none")] := by
  rw [clientUser, clientVnext_clientJson]
  simp [firstOf, JsonObject.value, List.lookup_cons, Json.toArray, Json.toObject]

theorem streamOf_clientJson :
    streamOf (clientOutbound (clientJson qt hostName srv clientId publicKey shortId)) =
      clientStream qt srv publicKey shortId := by
  rw [clientOutbound_clientJson]
  simp [streamOf, partOf, JsonObject.value, List.lookup_cons, Json.toObject]

theorem lookup_id_userEntry (entry : JsonObject) : (userEntry srv entry).lookup "id" = entry.lookup "id" :=
  lookup_insertIf_of_ne _ _ _ (by decide)

theorem lookup_flow_userEntry {entry : JsonObject} (h : entry.lookup "flow" = none) :
    (userEntry srv entry).lookup "flow" =
      if effectiveClientFlow srv = "" then none else some (.string (effectiveClientFlow srv)) := by
  rw [userEntry, insertText, insertIf]
  by_cases hflow : effectiveClientFlow srv = ""
  · rw [if_neg (by simp [hflow]), if_pos hflow, h]
  · rw [if_pos (by simp [hflow]), if_neg hflow, JsonObject.lookup_insert]

theorem lookup_serverStream_of_ne {key : String} (h : key ≠ "realitySettings") :
    (serverStream qt srv keys).lookup key = (buildStreamSettings qt srv).lookup key := by
  rw [serverStream]
  split
  · exact JsonObject.lookup_insert_of_ne _ _ h
  · rfl

theorem lookup_clientStream_of_ne {key : String} (h : key ≠ "realitySettings") :
    (clientStream qt srv publicKey shortId).lookup key = (buildStreamSettings qt srv).lookup key := by
  rw [clientStream]
  split
  · exact JsonObject.lookup_insert_of_ne _ _ h
  · rfl

theorem serverStream_reality (h : effectiveSecurity srv = "reality") :
    partOf (serverStream qt srv keys) "realitySettings" =
      [("dest", .string (orDefault srv.site defaultSite ++ ":443")),
        ("fingerprint", .string (orDefault srv.fingerprint defaultFingerprint)),
        ("privateKey", .string keys.privateKey),
        ("serverNames", .array [.string (orDefault srv.sni (orDefault srv.site defaultSite))]),
        ("shortIds", .array [.string keys.shortId])] := by
  rw [partOf, serverStream, if_pos h, JsonObject.value_insert]
  rfl

theorem clientStream_serverName (h : effectiveSecurity srv = "reality") :
    (partOf (clientStream qt srv publicKey shortId) "realitySettings").value "serverName" =
      .string (orDefault srv.sni defaultSni) := by
  rw [partOf, clientStream, if_pos h, JsonObject.value_insert, value_realitySettings qt h]
  simp only [Json.toObject]
  rw [JsonObject.value_insert_of_ne _ _ (by decide), JsonObject.value_insert_of_ne _ _ (by decide),
    JsonObject.value_insert_of_ne _ _ (by decide), realitySettings, JsonObject.value_insert]

theorem clientStream_shortId (h : effectiveSecurity srv = "reality") :
    (partOf (clientStream qt srv publicKey shortId) "realitySettings").value "shortId" = .string shortId := by
  rw [partOf, clientStream, if_pos h, JsonObject.value_insert]
  simp only [Json.toObject]
  rw [JsonObject.value_insert_of_ne _ _ (by decide), JsonObject.value_insert]

/-- The two sides choose different defaults for an empty name: the server its site, the client a fixed one. -/
theorem serverName_eq_iff :
    orDefault srv.sni defaultSni = orDefault srv.sni (orDefault srv.site defaultSite) ↔
      srv.sni ≠ "" ∨ orDefault srv.site defaultSite = defaultSni := by
  by_cases hsni : srv.sni = ""
  · simp [hsni, orDefault_empty, eq_comm]
  · simp [hsni, orDefault_of_ne]

theorem realityAgrees_iff (h : effectiveSecurity srv = "reality") :
    RealityAgrees (setupServerConfig qt srv keys)
        (clientJson qt hostName srv clientId publicKey keys.shortId) ↔
      srv.sni ≠ "" ∨ orDefault srv.site defaultSite = defaultSni := by
  have hnames : ((partOf (serverStream qt srv keys) "realitySettings").value "serverNames").toArray =
      [.string (orDefault srv.sni (orDefault srv.site defaultSite))] := by
    rw [serverStream_reality h]
    simp [JsonObject.value, List.lookup_cons, Json.toArray]
  have hids : ((partOf (serverStream qt srv keys) "realitySettings").value "shortIds").toArray =
      [.string keys.shortId] := by
    rw [serverStream_reality h]
    simp [JsonObject.value, List.lookup_cons, Json.toArray]
  rw [← serverName_eq_iff]
  constructor
  · intro hagrees
    have hname := hagrees.serverName
    rw [streamOf_clientJson, streamOf_setup, hnames, clientStream_serverName h, List.mem_singleton] at hname
    exact Json.string.inj hname
  · intro hname
    refine ⟨?_, ?_⟩
    · rw [streamOf_clientJson, streamOf_setup, hnames, clientStream_serverName h, hname]
      exact List.mem_singleton_self _
    · rw [streamOf_clientJson, streamOf_setup, hids, clientStream_shortId h]
      exact List.mem_singleton_self _

theorem agrees_iff :
    Agrees srv (setupServerConfig qt srv keys)
        (clientJson qt hostName srv keys.clientId publicKey keys.shortId) ↔
      (effectiveSecurity srv = "reality" → srv.sni ≠ "" ∨ orDefault srv.site defaultSite = defaultSni) := by
  have hstream {key : String} (hkey : key ≠ "realitySettings") :
      (streamOf (serverInbound (setupServerConfig qt srv keys))).lookup key =
        (streamOf (clientOutbound (clientJson qt hostName srv keys.clientId publicKey keys.shortId))).lookup key := by
    rw [streamOf_setup, streamOf_clientJson, lookup_serverStream_of_ne hkey, lookup_clientStream_of_ne hkey]
  have hshared {key : String} {v : Json} (hkey : key ≠ "realitySettings")
      (hv : (buildStreamSettings qt srv).lookup key = some v) :
      Shared (streamOf (serverInbound (setupServerConfig qt srv keys)))
        (streamOf (clientOutbound (clientJson qt hostName srv keys.clientId publicKey keys.shortId))) key := by
    refine ⟨v, ?_, ?_⟩
    · rw [streamOf_setup, lookup_serverStream_of_ne hkey, hv]
    · rw [streamOf_clientJson, lookup_clientStream_of_ne hkey, hv]
  constructor
  · exact fun hagrees hreality => (realityAgrees_iff hreality).mp (hagrees.reality hreality)
  · intro hname
    refine
      { port := ⟨.number (portNumber srv), ?_, ?_⟩
        id := ⟨.string keys.clientId, ?_, ?_⟩
        flow := ?_
        network := hshared (by decide) (lookup_network qt srv)
        security := hshared (by decide) (lookup_security qt srv)
        xhttpSettings := hstream (by decide)
        kcpSettings := hstream (by decide)
        reality := fun hreality => (realityAgrees_iff hreality).mpr (hname hreality) }
    · rw [serverInbound_setup]
      simp
    · rw [clientVnext_clientJson]
      simp [List.lookup_cons]
    · rw [serverUser_setup, lookup_id_userEntry]
      rfl
    · rw [clientUser_clientJson, lookup_id_userEntry]
      rfl
    · rw [serverUser_setup, clientUser_clientJson, lookup_flow_userEntry (by simp [List.lookup_cons]),
        lookup_flow_userEntry (by simp [List.lookup_cons])]

theorem readSetupKeys_reality (h : readSetupKeys remote srv = .ok keys)
    (hreality : effectiveSecurity srv = "reality") : keys.publicKey ≠ "" ∧ keys.shortId ≠ "" := by
  simp only [readSetupKeys, bind, Except.bind, hreality, if_true, pure, Except.pure] at h
  split at h
  · cases h
  split at h
  · cases h
  split at h
  · cases h
  rename_i publicKey hpublic
  split at h
  · cases h
  rename_i shortId hshort
  obtain rfl := Except.ok.inj h
  exact ⟨readContainerKeyFile_ne_empty hpublic, readContainerKeyFile_ne_empty hshort⟩

theorem realityKeys_setup (h : readSetupKeys remote srv = .ok keys) :
    realityKeys remote srv keys.publicKey keys.shortId = .ok (keys.publicKey, keys.shortId) := by
  refine if_neg ?_
  rintro ⟨hreality, hempty⟩
  obtain ⟨hpublic, hshort⟩ := readSetupKeys_reality h hreality
  exact hempty.elim hpublic hshort

/-- Once the key files have been read and the server file written, the container has a client configuration, and the
two sides agree, except under reality when the server name is left empty and the site is not the client's default. -/
theorem writeServerConfigForSetup_agrees_iff (qt : Casing) {remote : Remote} {xrayCfg : XrayProtocolConfig}
    {keys : SetupKeys} (hown : xrayCfg.serverConfig.isThirdPartyConfig = false)
    (hkeys : readSetupKeys remote xrayCfg.serverConfig = .ok keys) (hupload : remote.uploadError = none)
    (file : ServerFile) :
    ∃ server client,
      writeServerConfigForSetup qt remote (some xrayCfg) file =
        (.ok { serverConfig := xrayCfg.serverConfig, clientConfig := some client }, some (.object server)) ∧
      (Agrees xrayCfg.serverConfig server client.nativeConfig ↔
        (effectiveSecurity xrayCfg.serverConfig = "reality" →
          xrayCfg.serverConfig.sni ≠ "" ∨ orDefault xrayCfg.serverConfig.site defaultSite = defaultSni)) := by
  refine ⟨setupServerConfig qt xrayCfg.serverConfig keys,
    { nativeConfig := clientJson qt remote.hostName xrayCfg.serverConfig keys.clientId keys.publicKey keys.shortId
      localPort := defaultLocalProxyPort
      id := keys.clientId }, ?_, agrees_iff⟩
  simp only [writeServerConfigForSetup, hown, hkeys, hupload, buildClientProtocolConfig, realityKeys_setup hkeys]
  rfl

def oneLineRemote : Remote := ⟨"203.0.113.7", fun _ _ => .ok "key\n", none, none, none⟩

def realityServer (sni : String) : XrayProtocolConfig :=
  { serverConfig := { security := "reality", site := "example.com", sni } }

def asciiCasing : Casing := ⟨String.toLower, String.toUpper⟩

theorem readSetupKeys_oneLineRemote (sni : String) :
    readSetupKeys oneLineRemote (realityServer sni).serverConfig = .ok ⟨"key", "key", "key", "key"⟩ := by
  rfl

theorem writeServerConfigForSetup_agrees_named :
    ∃ server client,
      writeServerConfigForSetup asciiCasing oneLineRemote (some (realityServer "example.com")) none =
        (.ok { serverConfig := (realityServer "example.com").serverConfig, clientConfig := some client },
          some (.object server)) ∧
      (Agrees (realityServer "example.com").serverConfig server client.nativeConfig ↔
        (effectiveSecurity (realityServer "example.com").serverConfig = "reality" →
          (realityServer "example.com").serverConfig.sni ≠ "" ∨
            orDefault (realityServer "example.com").serverConfig.site defaultSite = defaultSni)) :=
  writeServerConfigForSetup_agrees_iff asciiCasing rfl (readSetupKeys_oneLineRemote "example.com") rfl none

/-- With a site and no server name, the server answers to the site and the client asks for another name. -/
theorem writeServerConfigForSetup_disagrees_unnamed :
    ∃ server client,
      writeServerConfigForSetup asciiCasing oneLineRemote (some (realityServer "")) none =
        (.ok { serverConfig := (realityServer "").serverConfig, clientConfig := some client },
          some (.object server)) ∧
      effectiveSecurity (realityServer "").serverConfig = "reality" ∧
      (partOf (streamOf (clientOutbound client.nativeConfig)) "realitySettings").value "serverName" ∉
        ((partOf (streamOf (serverInbound server)) "realitySettings").value "serverNames").toArray := by
  refine ⟨setupServerConfig asciiCasing (realityServer "").serverConfig ⟨"key", "key", "key", "key"⟩,
    ⟨clientJson asciiCasing "203.0.113.7" (realityServer "").serverConfig "key" "key" "key", "10808", "key"⟩,
    rfl, rfl, ?_⟩
  rw [streamOf_clientJson, streamOf_setup, clientStream_serverName rfl, serverStream_reality rfl]
  simp [JsonObject.value, List.lookup_cons, Json.toArray, realityServer, orDefault, defaultSni]

end TunnelCore.Xray
