import TunnelCore.Library.Replace

namespace TunnelCore.Xray

open Text

def defaultSite : String := "www.googletagmanager.com"
def defaultPort : String := "443"
def defaultLocalProxyPort : String := "10808"
def defaultLocalListenAddr : String := "127.0.0.1"
def defaultFingerprint : String := "chrome"
def defaultSni : String := "www.googletagmanager.com"
def defaultAlpn : String := "h2"
def defaultXhttpMode : String := "Auto"
def defaultXhttpUplinkMethod : String := "POST"
def defaultXhttpSessionPlacement : String := "Path"
def defaultXhttpSessionKey : String := ""
def defaultXhttpSeqPlacement : String := "Path"
def defaultXhttpUplinkDataPlacement : String := "Body"
def defaultXhttpHost : String := "www.googletagmanager.com"
def defaultXhttpUplinkChunkSize : String := "0"
def defaultXhttpScMaxEachPostBytesMin : String := "1"
def defaultXhttpScMaxEachPostBytesMax : String := "100"
def defaultXhttpScMinPostsIntervalMsMin : String := "100"
def defaultXhttpScMinPostsIntervalMsMax : String := "800"
def defaultXhttpScStreamUpServerSecsMin : String := "1"
def defaultXhttpScStreamUpServerSecsMax : String := "100"
def defaultXPaddingPlacement : String := "Cookie"
def defaultXPaddingMethod : String := "Repeat-x"
def defaultXPaddingKey : String := "x_padding"
def defaultXPaddingHeader : String := "X-Padding"
def defaultXPaddingBytesMin : String := "1"
def defaultXPaddingBytesMax : String := "256"
def defaultMkcpTti : String := "50"
def defaultMkcpUplinkCapacity : String := "5"
def defaultMkcpDownlinkCapacity : String := "20"
def defaultMkcpReadBufferSize : String := "2"
def defaultMkcpWriteBufferSize : String := "2"

structure XrayXPaddingConfig where
  bytesMin : String := ""
  bytesMax : String := ""
  obfsMode : Bool := true
  key : String := ""
  header : String := ""
  placement : String := defaultXPaddingPlacement
  method : String := defaultXPaddingMethod

structure XrayXmuxConfig where
  enabled : Bool := true
  maxConcurrencyMin : String := "0"
  maxConcurrencyMax : String := "0"
  maxConnectionsMin : String := "0"
  maxConnectionsMax : String := "0"
  cMaxReuseTimesMin : String := "0"
  cMaxReuseTimesMax : String := "0"
  hMaxRequestTimesMin : String := "0"
  hMaxRequestTimesMax : String := "0"
  hMaxReusableSecsMin : String := "0"
  hMaxReusableSecsMax : String := "0"
  hKeepAlivePeriod : String := ""

structure XrayXhttpConfig where
  mode : String := defaultXhttpMode
  host : String := defaultXhttpHost
  path : String := ""
  uplinkMethod : String := defaultXhttpUplinkMethod
  disableGrpc : Bool := true
  disableSse : Bool := true
  sessionPlacement : String := defaultXhttpSessionPlacement
  sessionKey : String := defaultXhttpSessionKey
  seqPlacement : String := defaultXhttpSeqPlacement
  seqKey : String := ""
  uplinkDataPlacement : String := defaultXhttpUplinkDataPlacement
  uplinkDataKey : String := ""
  uplinkChunkSize : String := defaultXhttpUplinkChunkSize
  scMaxBufferedPosts : String := ""
  scMaxEachPostBytesMin : String := defaultXhttpScMaxEachPostBytesMin
  scMaxEachPostBytesMax : String := defaultXhttpScMaxEachPostBytesMax
  scMinPostsIntervalMsMin : String := defaultXhttpScMinPostsIntervalMsMin
  scMinPostsIntervalMsMax : String := defaultXhttpScMinPostsIntervalMsMax
  scStreamUpServerSecsMin : String := defaultXhttpScStreamUpServerSecsMin
  scStreamUpServerSecsMax : String := defaultXhttpScStreamUpServerSecsMax
  xPadding : XrayXPaddingConfig := {}
  xmux : XrayXmuxConfig := {}

structure XrayMkcpConfig where
  tti : String := ""
  uplinkCapacity : String := ""
  downlinkCapacity : String := ""
  readBufferSize : String := ""
  writeBufferSize : String := ""
  congestion : Bool := true

/-- Every text the user leaves out is empty, and the code that reads it chooses the default. -/
structure XrayServerConfig where
  port : String := ""
  site : String := ""
  isThirdPartyConfig : Bool := false
  security : String := ""
  flow : String := ""
  fingerprint : String := ""
  sni : String := ""
  alpn : String := ""
  transport : String := ""
  xhttp : XrayXhttpConfig := {}
  mkcp : XrayMkcpConfig := {}

def effectiveClientFlow (srv : XrayServerConfig) : String :=
  let rawTransport := srv.transport = "" ∨ srv.transport = "raw"
  let secureFlow := srv.security = "tls" ∨ srv.security = "reality"
  if rawTransport ∧ secureFlow then srv.flow else ""

def effectiveSecurity (srv : XrayServerConfig) : String :=
  if srv.transport = "mkcp" ∧ srv.security = "reality" then "none" else srv.security

/-- `text.isEmpty() ? default : text` -/
def orDefault (text default : String) : String := if text = "" then default else text

theorem orDefault_of_ne {text : String} (default : String) (h : text ≠ "") : orDefault text default = text := if_neg h

theorem orDefault_empty (default : String) : orDefault "" default = default := if_pos rfl

def toInt (text : String) : Int := (textToInt text).getD 0

def toLongLong (text : String) : Int := (textToLongLong text).getD 0

def sameText (text word : String) : Bool := fold text = fold word

/-- The letter case conversions of Qt, which cover all of Unicode. -/
structure Casing where
  toLower : String → String
  toUpper : String → String

variable (qt : Casing)

def normalizeXhttpMode (m : String) : String :=
  let t := trimmed m
  if t = "" ∨ sameText t "Auto" then "auto"
  else if sameText t "Packet-up" then "packet-up"
  else if sameText t "Stream-up" then "stream-up"
  else if sameText t "Stream-one" then "stream-one"
  else qt.toLower t

def normalizeSessionSeqPlacement (p : String) : String :=
  if p = "" ∨ sameText p "None" then "" else qt.toLower p

def normalizeUplinkDataPlacement (p : String) : String :=
  if p = "" ∨ sameText p "Body" then "body"
  else if sameText p "Auto" then "auto"
  else if sameText p "Query" then "header"
  else qt.toLower p

def normalizeXPaddingPlacement (p : String) : String :=
  let t := trimmed p
  if t = "" then qt.toLower defaultXPaddingPlacement
  else if sameText t "Body" then "queryInHeader"
  else if fold "queryInHeader" <:+: fold t ∨ sameText t "Query in header" then "queryInHeader"
  else qt.toLower t

def normalizeXPaddingMethod (m : String) : String :=
  let t := trimmed m
  if t = "" ∨ sameText t "Repeat-x" then "repeat-x"
  else if sameText t "Tokenish" then "tokenish"
  else if sameText t "Random" ∨ sameText t "Zero" then "repeat-x"
  else qt.toLower t

def makeRangeString (minV maxV : String) : String := minV ++ "-" ++ maxV

def insertIf (o : JsonObject) (present : Bool) (key : String) (v : Json) : JsonObject :=
  if present then o.insert key v else o

theorem lookup_insertIf_of_ne (o : JsonObject) (present : Bool) {key other : String} (v : Json) (h : other ≠ key) :
    (insertIf o present key v).lookup other = o.lookup other := by
  rw [insertIf]
  split
  · exact o.lookup_insert_of_ne v h
  · rfl

def insertText (o : JsonObject) (key text : String) : JsonObject := insertIf o (text ≠ "") key (.string text)

def putIntRangeIfAny (obj : JsonObject) (key minV maxV fallbackMin fallbackMax : String) : JsonObject :=
  insertIf obj (minV ≠ "" ∨ maxV ≠ "") key
    (.string (makeRangeString (orDefault minV fallbackMin) (orDefault maxV fallbackMax)))

def addMuxRange (mux : JsonObject) (key a b : String) : JsonObject :=
  let aZero := a = "" ∨ a = "0"
  let bZero := b = "" ∨ b = "0"
  insertIf mux (¬(aZero ∧ bZero)) key (.string (makeRangeString (orDefault a "0") (orDefault b "0")))

def muxSettings (xmux : XrayXmuxConfig) : JsonObject :=
  let mux := addMuxRange [] "maxConcurrency" xmux.maxConcurrencyMin xmux.maxConcurrencyMax
  let mux := addMuxRange mux "maxConnections" xmux.maxConnectionsMin xmux.maxConnectionsMax
  let mux := addMuxRange mux "cMaxReuseTimes" xmux.cMaxReuseTimesMin xmux.cMaxReuseTimesMax
  let mux := addMuxRange mux "hMaxRequestTimes" xmux.hMaxRequestTimesMin xmux.hMaxRequestTimesMax
  let mux := addMuxRange mux "hMaxReusableSecs" xmux.hMaxReusableSecsMin xmux.hMaxReusableSecsMax
  insertIf mux (xmux.hKeepAlivePeriod ≠ "") "hKeepAlivePeriod" (.number (toLongLong xmux.hKeepAlivePeriod))

def paddingBytes (pad : XrayXPaddingConfig) : String :=
  let fromV := toInt (orDefault pad.bytesMin defaultXPaddingBytesMin)
  let toV := toInt (orDefault pad.bytesMax defaultXPaddingBytesMax)
  let toV := if toV < fromV then fromV else toV
  makeRangeString (toString fromV) (toString toV)

def putPadding (xo : JsonObject) (pad : XrayXPaddingConfig) : JsonObject :=
  let xo := xo.insert "xPaddingObfsMode" (.bool pad.obfsMode)
  if pad.obfsMode then
    let xo := insertIf xo (pad.bytesMin ≠ "" ∨ pad.bytesMax ≠ "") "xPaddingBytes" (.string (paddingBytes pad))
    let xo := xo.insert "xPaddingKey" (.string (orDefault pad.key defaultXPaddingKey))
    let xo := xo.insert "xPaddingHeader" (.string (orDefault pad.header defaultXPaddingHeader))
    let xo := xo.insert "xPaddingPlacement"
      (.string (normalizeXPaddingPlacement qt (orDefault pad.placement defaultXPaddingPlacement)))
    xo.insert "xPaddingMethod" (.string (normalizeXPaddingMethod qt (orDefault pad.method defaultXPaddingMethod)))
  else xo

def effectiveMode (xhttp : XrayXhttpConfig) : String :=
  let modeEff := normalizeXhttpMode qt xhttp.mode
  if modeEff = "auto" ∨ modeEff = "packet-up" then "stream-one" else modeEff

def xhttpSettings (xhttp : XrayXhttpConfig) : JsonObject :=
  let modeEff := effectiveMode qt xhttp
  let methodEff := orDefault xhttp.uplinkMethod defaultXhttpUplinkMethod
  let uDataPl := normalizeUplinkDataPlacement qt xhttp.uplinkDataPlacement
  let uDataNeedsPacketUp := uDataPl = "header" ∨ uDataPl = "cookie"
  let ucs := orDefault xhttp.uplinkChunkSize defaultXhttpUplinkChunkSize
  let xo := JsonObject.insert [] "host" (.string (orDefault xhttp.host defaultXhttpHost))
  let xo := insertText xo "path" xhttp.path
  let xo := xo.insert "mode" (.string modeEff)
  let xo := xo.insert "uplinkHTTPMethod" (.string (qt.toUpper methodEff))
  let xo := xo.insert "noGRPCHeader" (.bool xhttp.disableGrpc)
  let xo := xo.insert "noSSEHeader" (.bool xhttp.disableSse)
  let xo := insertText xo "sessionIDPlacement" (normalizeSessionSeqPlacement qt xhttp.sessionPlacement)
  let xo := insertText xo "seqPlacement" (normalizeSessionSeqPlacement qt xhttp.seqPlacement)
  let xo := insertText xo "sessionIDKey" xhttp.sessionKey
  let xo := insertText xo "seqKey" xhttp.seqKey
  let xo := insertIf xo (¬(uDataNeedsPacketUp ∧ modeEff ≠ "packet-up")) "uplinkDataPlacement" (.string uDataPl)
  let xo := insertText xo "uplinkDataKey" xhttp.uplinkDataKey
  let xo := insertIf xo (ucs ≠ "" ∧ ucs ≠ "0") "uplinkChunkSize" (.number (toInt ucs))
  let xo := insertIf xo (xhttp.scMaxBufferedPosts ≠ "") "scMaxBufferedPosts"
    (.number (toLongLong xhttp.scMaxBufferedPosts))
  let xo := putIntRangeIfAny xo "scMaxEachPostBytes" xhttp.scMaxEachPostBytesMin xhttp.scMaxEachPostBytesMax
    defaultXhttpScMaxEachPostBytesMin defaultXhttpScMaxEachPostBytesMax
  let xo := putIntRangeIfAny xo "scMinPostsIntervalMs" xhttp.scMinPostsIntervalMsMin xhttp.scMinPostsIntervalMsMax
    defaultXhttpScMinPostsIntervalMsMin defaultXhttpScMinPostsIntervalMsMax
  let xo := putIntRangeIfAny xo "scStreamUpServerSecs" xhttp.scStreamUpServerSecsMin xhttp.scStreamUpServerSecsMax
    defaultXhttpScStreamUpServerSecsMin defaultXhttpScStreamUpServerSecsMax
  let xo := putPadding qt xo xhttp.xPadding
  insertIf xo (xhttp.xmux.enabled && !(muxSettings xhttp.xmux).isEmpty) "xmux" (.object (muxSettings xhttp.xmux))

def kcpSettings (mkcp : XrayMkcpConfig) : JsonObject :=
  let kcpObj := JsonObject.insert [] "tti" (.number (toInt (orDefault mkcp.tti defaultMkcpTti)))
  let kcpObj := kcpObj.insert "uplinkCapacity"
    (.number (toInt (orDefault mkcp.uplinkCapacity defaultMkcpUplinkCapacity)))
  let kcpObj := kcpObj.insert "downlinkCapacity"
    (.number (toInt (orDefault mkcp.downlinkCapacity defaultMkcpDownlinkCapacity)))
  let kcpObj := kcpObj.insert "readBufferSize"
    (.number (toInt (orDefault mkcp.readBufferSize defaultMkcpReadBufferSize)))
  let kcpObj := kcpObj.insert "writeBufferSize"
    (.number (toInt (orDefault mkcp.writeBufferSize defaultMkcpWriteBufferSize)))
  kcpObj.insert "congestion" (.bool mkcp.congestion)

/-- The names of HTTP versions, as the settings spell them and as Xray does. -/
def alpnName (t : String) : String :=
  if sameText t "HTTP/2" then "h2" else if sameText t "HTTP/1.1" then "http/1.1" else t

def alpnArray (alpnEff : String) : List Json :=
  let names := (alpnEff.toList.splitOn ',').map fun a => trimmed (.ofList a)
  (names.filter (· ≠ "")).map fun t => .string (alpnName t)

def tlsSettings (srv : XrayServerConfig) : JsonObject :=
  let alpn := alpnArray (orDefault srv.alpn defaultAlpn)
  let tls := JsonObject.insert [] "serverName" (.string (orDefault srv.sni defaultSni))
  let tls := insertIf tls (!alpn.isEmpty) "alpn" (.array alpn)
  tls.insert "fingerprint" (.string (orDefault srv.fingerprint defaultFingerprint))

def realitySettings (srv : XrayServerConfig) : JsonObject :=
  let realSettings := JsonObject.insert [] "fingerprint" (.string (orDefault srv.fingerprint defaultFingerprint))
  realSettings.insert "serverName" (.string (orDefault srv.sni defaultSni))

def networkValue (srv : XrayServerConfig) : String :=
  if srv.transport = "xhttp" then "xhttp" else if srv.transport = "mkcp" then "kcp" else "tcp"

def buildStreamSettings (srv : XrayServerConfig) : JsonObject :=
  let securityEff := effectiveSecurity srv
  let stream := JsonObject.insert [] "network" (.string (networkValue srv))
  let stream := stream.insert "security" (.string securityEff)
  let stream := insertIf stream (securityEff = "tls") "tlsSettings" (.object (tlsSettings srv))
  let stream := insertIf stream (securityEff = "reality") "realitySettings" (.object (realitySettings srv))
  let stream := insertIf stream (srv.transport = "xhttp") "xhttpSettings" (.object (xhttpSettings qt srv.xhttp))
  insertIf stream (srv.transport = "mkcp") "kcpSettings" (.object (kcpSettings srv.mkcp))

theorem lookup_network (srv : XrayServerConfig) :
    (buildStreamSettings qt srv).lookup "network" = some (.string (networkValue srv)) := by
  rw [buildStreamSettings, lookup_insertIf_of_ne _ _ _ (by decide), lookup_insertIf_of_ne _ _ _ (by decide),
    lookup_insertIf_of_ne _ _ _ (by decide), lookup_insertIf_of_ne _ _ _ (by decide),
    JsonObject.lookup_insert_of_ne _ _ (by decide), JsonObject.lookup_insert]

theorem lookup_security (srv : XrayServerConfig) :
    (buildStreamSettings qt srv).lookup "security" = some (.string (effectiveSecurity srv)) := by
  rw [buildStreamSettings, lookup_insertIf_of_ne _ _ _ (by decide), lookup_insertIf_of_ne _ _ _ (by decide),
    lookup_insertIf_of_ne _ _ _ (by decide), lookup_insertIf_of_ne _ _ _ (by decide), JsonObject.lookup_insert]

theorem value_realitySettings {srv : XrayServerConfig} (h : effectiveSecurity srv = "reality") :
    (buildStreamSettings qt srv).value "realitySettings" = .object (realitySettings srv) := by
  rw [JsonObject.value, buildStreamSettings, lookup_insertIf_of_ne _ _ _ (by decide),
    lookup_insertIf_of_ne _ _ _ (by decide), insertIf, if_pos (decide_eq_true h), JsonObject.lookup_insert]
  rfl

end TunnelCore.Xray
