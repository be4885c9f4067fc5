import TunnelCore.Daemon.ParseConfig

namespace TunnelCore.Daemon

open Text

abbrev Entry := String × String

def Entry.line (e : Entry) : String := e.1 ++ " = " ++ e.2

def nonEmpty (fields : List Entry) : List Entry := fields.filter (·.2 ≠ "")

/-- `IPAddress::toString`, given `QHostAddress::toString`. -/
def IPAddress.toString (addressText : QHostAddress → String) (ip : IPAddress) : String :=
  addressText ip.address ++ "/" ++ ToString.toString ip.prefixLength

namespace InterfaceConfig

variable (addressText : QHostAddress → String) (extra : List Entry) (config : InterfaceConfig)

def validated : List String :=
  [config.privateKey, config.deviceIpv4Address.getD "", config.deviceIpv6Address.getD "", config.serverIpv4Gateway,
    config.serverIpv6Gateway, config.serverPublicKey, config.serverIpv4AddrIn.getD "", config.serverIpv6AddrIn.getD ""]

def addresses : List String := config.deviceIpv4Address.toList ++ config.deviceIpv6Address.toList

def dnsServers : List String :=
  config.primaryDnsServer :: ((if config.secondaryDnsServer ≠ "" then [config.secondaryDnsServer] else []) ++
    if config.primaryDnsServer = config.serverIpv4Gateway then [config.serverIpv6Gateway] else [])

def awgFields : List Entry :=
  [("Jc", config.junkPacketCount), ("JMin", config.junkPacketMinSize), ("JMax", config.junkPacketMaxSize),
    ("S1", config.initPacketJunkSize), ("S2", config.responsePacketJunkSize), ("S3", config.cookieReplyPacketJunkSize),
    ("S4", config.transportPacketJunkSize), ("H1", config.initPacketMagicHeader),
    ("H2", config.responsePacketMagicHeader), ("H3", config.underloadPacketMagicHeader),
    ("H4", config.transportPacketMagicHeader)]

def extendedFields : List Entry :=
  [("HeaderProtectionKey", config.headerProtectionKey), ("ContentPaddingAddition", config.contentPaddingAddition),
    ("RekeyAfterTime", config.rekeyAfterTime), ("RekeyTimeout", config.rekeyTimeout),
    ("RejectAfterTime", config.rejectAfterTime), ("KeepaliveTimeout", config.keepaliveTimeout),
    ("MaxHandshakeAttempts", config.maxHandshakeAttempts), ("RandomTrailers", config.randomTrailers),
    ("DisableCookies", config.disableCookies)]

def interfaceEntries : List Entry :=
  [("PrivateKey", config.privateKey), ("Address", ", ".intercalate config.addresses)] ++
    (if config.deviceMTU ≠ 0 then [("MTU", toString config.deviceMTU)] else []) ++
    (if config.primaryDnsServer ≠ "" then [("DNS", ", ".intercalate config.dnsServers)] else []) ++
    nonEmpty config.awgFields ++ nonEmpty config.specialJunk ++ nonEmpty config.extendedFields ++ extra

def peerEntries : List Entry :=
  [("PublicKey", config.serverPublicKey),
    ("Endpoint", config.serverIpv4AddrIn.getD "" ++ ":" ++ toString config.serverPort),
    ("AllowedIPs", ", ".intercalate (config.allowedIPAddressRanges.map (·.toString addressText)))] ++
    nonEmpty [("PersistentKeepalive", config.persistentKeepalive)]

def wgLines : List String :=
  "[Interface]" :: (config.interfaceEntries extra).map Entry.line ++
    "" :: "[Peer]" :: (config.peerEntries addressText).map Entry.line

def toWgConf : String :=
  if ∃ field ∈ config.validated, '\n' ∈ field.toList then ""
  else if config.addresses = [] then ""
  else unlines (config.wgLines addressText extra)

/-- The values that are written as they are, without a search for line feeds. -/
def unchecked : List String :=
  (if config.primaryDnsServer ≠ "" then [config.primaryDnsServer, config.secondaryDnsServer] else []) ++
    config.awgFields.map Prod.snd ++ config.specialJunk.map Prod.snd ++ config.extendedFields.map Prod.snd ++
    [config.persistentKeepalive]

end InterfaceConfig

def interfaceKeys : List String :=
  ["PrivateKey", "Address", "MTU", "DNS", "Jc", "JMin", "JMax", "S1", "S2", "S3", "S4", "H1", "H2", "H3", "H4",
    "I1", "I2", "I3", "I4", "I5", "HeaderProtectionKey", "ContentPaddingAddition", "RekeyAfterTime", "RekeyTimeout",
    "RejectAfterTime", "KeepaliveTimeout", "MaxHandshakeAttempts", "RandomTrailers", "DisableCookies"]

def peerKeys : List String := ["PublicKey", "Endpoint", "AllowedIPs", "PersistentKeepalive"]

structure Keyed (keys : List String) (entries : List Entry) : Prop where
  mem : ∀ e ∈ entries, e.1 ∈ keys
  nodup : (entries.map Prod.fst).Nodup

/-- One interface section followed by one peer section, of lines with the sections' keys. -/
structure WellFormed (extraKeys : List String) (text : String) : Prop where
  oneInterface : (lines text).count "[Interface]" = 1
  onePeer : (lines text).count "[Peer]" = 1
  sections : ∃ interface peer : List Entry,
    (lines text).filter (· ≠ "") = "[Interface]" :: interface.map Entry.line ++ "[Peer]" :: peer.map Entry.line ∧
      Keyed (interfaceKeys ++ extraKeys) interface ∧ Keyed peerKeys peer

/-- What a caller may add: new keys, and nothing with a line feed. -/
structure Proper (extra : List Entry) : Prop where
  keys : (interfaceKeys ++ extra.map Prod.fst).Nodup
  oneLine : ∀ e ∈ extra, OneLine e.1 ∧ OneLine e.2

namespace Entry

theorem oneLine_line {key value : String} : OneLine (line (key, value)) ↔ OneLine key ∧ OneLine value := by
  have hsep : OneLine " = " := by decide
  rw [line, oneLine_append, oneLine_append]
  exact ⟨fun h => ⟨h.1.1, h.2⟩, fun h => ⟨⟨h.1, hsep⟩, h.2⟩⟩

theorem equals_mem_line (e : Entry) : '=' ∈ e.line.toList := by
  simp [line]

theorem line_ne {s : String} (hs : '=' ∉ s.toList) (e : Entry) : e.line ≠ s :=
  fun h => hs (h ▸ e.equals_mem_line)

theorem count_lines {s : String} (hs : '=' ∉ s.toList) (entries : List Entry) : (entries.map line).count s = 0 := by
  rw [List.count_eq_zero]
  intro hmem
  obtain ⟨e, -, he⟩ := List.mem_map.mp hmem
  exact line_ne hs e he

theorem filter_lines (entries : List Entry) : (entries.map line).filter (· ≠ "") = entries.map line := by
  rw [List.filter_eq_self]
  intro s hs
  obtain ⟨e, -, rfl⟩ := List.mem_map.mp hs
  exact decide_eq_true (line_ne (by decide) e)

end Entry

theorem oneLine_nonEmpty {fields : List Entry} (hkeys : ∀ e ∈ fields, OneLine e.1) :
    (∀ e ∈ nonEmpty fields, OneLine e.line) ↔ ∀ v ∈ fields.map Prod.snd, OneLine v := by
  rw [List.forall_mem_map]
  constructor
  · intro h e he
    by_cases hempty : e.2 = ""
    · rw [hempty]
      decide
    · exact (Entry.oneLine_line.mp (h e (List.mem_filter.mpr ⟨he, decide_eq_true hempty⟩))).2
  · intro h e he
    have hmem := List.mem_of_mem_filter he
    exact Entry.oneLine_line.mpr ⟨hkeys e hmem, h e hmem⟩

theorem keys_nonEmpty (fields : List Entry) : ((nonEmpty fields).map Prod.fst).Sublist (fields.map Prod.fst) :=
  List.filter_sublist.map _

theorem keyed_of_sublist {keys : List String} {entries : List Entry} (hk : keys.Nodup)
    (h : (entries.map Prod.fst).Sublist keys) : Keyed keys entries where
  mem _ he := h.subset (List.mem_map_of_mem he)
  nodup := hk.sublist h

theorem specialJunk_keys (obj : JsonObject) :
    ((parseSpecialJunk obj).map Prod.fst).Sublist specialJunkKeys := by
  rw [parseSpecialJunk]
  generalize specialJunkKeys = keys
  induction keys with
  | nil => exact .slnil
  | cons key keys ih =>
    rw [List.filterMap_cons]
    cases obj.lookup key with
    | none => exact ih.cons key
    | some value => exact ih.cons_cons key

namespace InterfaceConfig

variable {addressText : QHostAddress → String} {extra : List Entry} {config : InterfaceConfig}

theorem interfaceEntries_keys (hjunk : (config.specialJunk.map Prod.fst).Sublist specialJunkKeys) :
    ((config.interfaceEntries extra).map Prod.fst).Sublist (interfaceKeys ++ extra.map Prod.fst) := by
  have hmtu : ((if config.deviceMTU ≠ 0 then [("MTU", toString config.deviceMTU)] else []).map Prod.fst).Sublist
      ["MTU"] := by
    split
    · exact List.Sublist.refl _
    · exact List.nil_sublist _
  have hdns : ((if config.primaryDnsServer ≠ "" then [("DNS", ", ".intercalate config.dnsServers)]
      else []).map Prod.fst).Sublist ["DNS"] := by
    split
    · exact List.Sublist.refl _
    · exact List.nil_sublist _
  rw [interfaceEntries]
  simp only [List.map_append]
  refine List.Sublist.append ?_ (List.Sublist.refl _)
  exact ((((List.Sublist.refl ["PrivateKey", "Address"]).append hmtu).append hdns).append
    (keys_nonEmpty config.awgFields)).append ((keys_nonEmpty _).trans hjunk) |>.append (keys_nonEmpty _)

theorem peerEntries_keys : ((config.peerEntries addressText).map Prod.fst).Sublist peerKeys := by
  rw [peerEntries, List.map_append]
  exact (List.Sublist.refl ["PublicKey", "Endpoint", "AllowedIPs"]).append (keys_nonEmpty _)

theorem wellFormed_unlines (hextra : Proper extra) (hjunk : (config.specialJunk.map Prod.fst).Sublist specialJunkKeys)
    (h : ∀ l ∈ config.wgLines addressText extra, OneLine l) :
    WellFormed (extra.map Prod.fst) (unlines (config.wgLines addressText extra)) := by
  have hlines : lines (unlines (config.wgLines addressText extra)) = config.wgLines addressText extra ++ [""] :=
    lines_unlines_of_oneLine h
  refine ⟨?_, ?_, config.interfaceEntries extra, config.peerEntries addressText, ?_, ?_, ?_⟩
  · rw [hlines, wgLines]
    simp [List.count_append, Entry.count_lines (s := "[Interface]") (by decide)]
  · rw [hlines, wgLines]
    simp [List.count_append, Entry.count_lines (s := "[Peer]") (by decide)]
  · rw [hlines, wgLines]
    simp only [List.cons_append, List.filter_cons, List.filter_append, Entry.filter_lines]
    simp
  · exact keyed_of_sublist hextra.keys (interfaceEntries_keys hjunk)
  · exact keyed_of_sublist (by decide) peerEntries_keys

theorem oneLine_address (hvalid : ∀ v ∈ config.validated, OneLine v) :
    OneLine (", ".intercalate config.addresses) := by
  rw [oneLine_intercalate (by decide)]
  intro a ha
  rw [addresses, List.mem_append, Option.mem_toList, Option.mem_toList] at ha
  refine hvalid a ?_
  obtain h | h := ha
  · simp [validated, h]
  · simp [validated, h]

theorem oneLine_dns (hvalid : ∀ v ∈ config.validated, OneLine v) :
    OneLine (", ".intercalate config.dnsServers) ↔
      OneLine config.primaryDnsServer ∧ OneLine config.secondaryDnsServer := by
  have hgateway : OneLine config.serverIpv6Gateway := hvalid _ (by simp [validated])
  rw [oneLine_intercalate (by decide), dnsServers, List.forall_mem_cons, List.forall_mem_append]
  refine and_congr_right fun _ => ?_
  constructor
  · intro h
    by_cases hempty : config.secondaryDnsServer = ""
    · rw [hempty]
      decide
    · exact h.1 _ (by simp [hempty])
  · intro h
    refine ⟨fun v hv => ?_, fun v hv => ?_⟩
    · split at hv
      · rwa [List.mem_singleton.mp hv]
      · cases hv
    · split at hv
      · rwa [List.mem_singleton.mp hv]
      · cases hv

theorem oneLine_interfaceEntries (hextra : Proper extra) (hjunk : ∀ e ∈ config.specialJunk, OneLine e.1)
    (hvalid : ∀ v ∈ config.validated, OneLine v) :
    (∀ e ∈ config.interfaceEntries extra, OneLine e.line) ↔
      (config.primaryDnsServer ≠ "" → OneLine config.primaryDnsServer ∧ OneLine config.secondaryDnsServer) ∧
        (∀ v ∈ config.awgFields.map Prod.snd, OneLine v) ∧ (∀ v ∈ config.specialJunk.map Prod.snd, OneLine v) ∧
        ∀ v ∈ config.extendedFields.map Prod.snd, OneLine v := by
  have hkey : OneLine config.privateKey := hvalid _ (by simp [validated])
  have hawg : ∀ e ∈ config.awgFields, OneLine e.1 := by simp [awgFields, OneLine]
  have hextended : ∀ e ∈ config.extendedFields, OneLine e.1 := by simp [extendedFields, OneLine]
  have hhead : ∀ e ∈ ([("PrivateKey", config.privateKey), ("Address", ", ".intercalate config.addresses)] : List Entry),
      OneLine e.line := by
    simp only [List.forall_mem_cons, Entry.oneLine_line]
    exact ⟨⟨by decide, hkey⟩, ⟨by decide, oneLine_address hvalid⟩, List.forall_mem_nil _⟩
  have hmtu : ∀ e ∈ (if config.deviceMTU ≠ 0 then [("MTU", toString config.deviceMTU)] else [] : List Entry),
      OneLine e.line := by
    split
    · exact List.forall_mem_singleton.mpr (Entry.oneLine_line.mpr ⟨by decide, oneLine_int _⟩)
    · exact List.forall_mem_nil _
  have hdns : (∀ e ∈ (if config.primaryDnsServer ≠ "" then [("DNS", ", ".intercalate config.dnsServers)]
      else [] : List Entry), OneLine e.line) ↔
      (config.primaryDnsServer ≠ "" → OneLine config.primaryDnsServer ∧ OneLine config.secondaryDnsServer) := by
    split
    next hne =>
      rw [List.forall_mem_singleton, Entry.oneLine_line, oneLine_dns hvalid]
      exact ⟨fun h _ => h.2, fun h => ⟨by decide, h hne⟩⟩
    next hempty => exact iff_of_true (List.forall_mem_nil _) fun hne => absurd hne hempty
  have htail : ∀ e ∈ extra, OneLine e.line := fun e he => Entry.oneLine_line.mpr (hextra.oneLine e he)
  rw [interfaceEntries]
  simp only [List.forall_mem_append]
  rw [hdns, oneLine_nonEmpty hawg, oneLine_nonEmpty hjunk, oneLine_nonEmpty hextended]
  constructor
  · rintro ⟨⟨⟨⟨⟨-, h₁⟩, h₂⟩, h₃⟩, h₄⟩, -⟩
    exact ⟨h₁, h₂, h₃, h₄⟩
  · rintro ⟨h₁, h₂, h₃, h₄⟩
    exact ⟨⟨⟨⟨⟨⟨hhead, hmtu⟩, h₁⟩, h₂⟩, h₃⟩, h₄⟩, htail⟩

theorem oneLine_peerEntries (haddress : ∀ a, OneLine (addressText a)) (hvalid : ∀ v ∈ config.validated, OneLine v) :
    (∀ e ∈ config.peerEntries addressText, OneLine e.line) ↔ OneLine config.persistentKeepalive := by
  have hkey : OneLine config.serverPublicKey := hvalid _ (by simp [validated])
  have hserver : OneLine (config.serverIpv4AddrIn.getD "") := hvalid _ (by simp [validated])
  have hranges : OneLine (", ".intercalate (config.allowedIPAddressRanges.map (·.toString addressText))) := by
    rw [oneLine_intercalate (by decide), List.forall_mem_map]
    intro ip _
    simp only [IPAddress.toString, oneLine_append]
    exact ⟨⟨haddress _, by decide⟩, oneLine_int _⟩
  have hhead : ∀ e ∈ ([("PublicKey", config.serverPublicKey),
      ("Endpoint", config.serverIpv4AddrIn.getD "" ++ ":" ++ toString config.serverPort),
      ("AllowedIPs", ", ".intercalate (config.allowedIPAddressRanges.map (·.toString addressText)))] : List Entry),
      OneLine e.line := by
    simp only [List.forall_mem_cons, Entry.oneLine_line, oneLine_append]
    exact ⟨⟨by decide, hkey⟩, ⟨by decide, ⟨hserver, by decide⟩, oneLine_int _⟩, ⟨by decide, hranges⟩,
      List.forall_mem_nil _⟩
  have hname : OneLine "PersistentKeepalive" := by decide
  have hnames : ∀ e ∈ ([("PersistentKeepalive", config.persistentKeepalive)] : List Entry), OneLine e.1 :=
    List.forall_mem_singleton.mpr hname
  rw [peerEntries, List.forall_mem_append, oneLine_nonEmpty hnames, List.map_singleton, List.forall_mem_singleton]
  exact and_iff_right hhead

theorem oneLine_wgLines (haddress : ∀ a, OneLine (addressText a)) (hextra : Proper extra)
    (hjunk : ∀ e ∈ config.specialJunk, OneLine e.1) (hvalid : ∀ v ∈ config.validated, OneLine v) :
    (∀ l ∈ config.wgLines addressText extra, OneLine l) ↔ ∀ v ∈ config.unchecked, OneLine v := by
  have hdns : (∀ v ∈ (if config.primaryDnsServer ≠ "" then [config.primaryDnsServer, config.secondaryDnsServer]
      else []), OneLine v) ↔
      (config.primaryDnsServer ≠ "" → OneLine config.primaryDnsServer ∧ OneLine config.secondaryDnsServer) := by
    split <;> simp_all
  rw [wgLines, unchecked]
  simp only [List.cons_append, List.forall_mem_cons, List.forall_mem_append]
  rw [hdns, List.forall_mem_map, List.forall_mem_map, oneLine_interfaceEntries hextra hjunk hvalid,
    oneLine_peerEntries haddress hvalid]
  constructor
  · rintro ⟨-, ⟨h₁, h₂, h₃, h₄⟩, -, -, h₅⟩
    exact ⟨⟨⟨⟨h₁, h₂⟩, h₃⟩, h₄⟩, h₅, List.forall_mem_nil _⟩
  · rintro ⟨⟨⟨⟨h₁, h₂⟩, h₃⟩, h₄⟩, h₅, -⟩
    exact ⟨by decide, ⟨h₁, h₂, h₃, h₄⟩, by decide, by decide, h₅⟩

/-- The text that `toWgConf` makes of an accepted configuration is empty, or has the two sections with their keys and
no line that a field brought in, exactly if a validated field holds a line feed or none of the unchecked ones does. -/
theorem wg_conf_injection_iff (qt : Qt) (windows : Bool) (haddress : ∀ a, OneLine (addressText a))
    (hextra : Proper extra) {obj : JsonObject} (h : parseConfig qt windows obj = some config) :
    (config.toWgConf addressText extra = "" ∨
      WellFormed (extra.map Prod.fst) (config.toWgConf addressText extra) ∧
        (lines (config.toWgConf addressText extra)).length = (config.wgLines addressText extra).length + 1) ↔
      (∃ v ∈ config.validated, ¬OneLine v) ∨ ∀ v ∈ config.unchecked, OneLine v := by
  have haccepted := accepted_of_parseConfig h
  have hjunk : (config.specialJunk.map Prod.fst).Sublist specialJunkKeys := by
    rw [haccepted.specialJunk]
    exact specialJunk_keys obj
  have hjunkKeys : ∀ e ∈ config.specialJunk, OneLine e.1 := by
    intro e he
    have hkeys : ∀ key ∈ specialJunkKeys, OneLine key := by decide
    exact hkeys _ (hjunk.subset (List.mem_map_of_mem he))
  by_cases hvalid : ∀ v ∈ config.validated, OneLine v
  · have haddresses : config.addresses ≠ [] := by
      intro hnil
      rw [addresses, List.append_eq_nil_iff, Option.toList_eq_nil_iff, Option.toList_eq_nil_iff] at hnil
      exact haccepted.hasDevice.elim (absurd hnil.1) (absurd hnil.2)
    have htext : config.toWgConf addressText extra = unlines (config.wgLines addressText extra) := by
      rw [toWgConf, if_neg (fun ⟨v, hv, hn⟩ => hvalid v hv hn), if_neg haddresses]
    have hne : unlines (config.wgLines addressText extra) ≠ "" := unlines_cons_ne_empty _ _
    rw [htext, length_lines_unlines_iff, oneLine_wgLines haddress hextra hjunkKeys hvalid]
    constructor
    · rintro (hempty | ⟨-, hall⟩)
      · exact absurd hempty hne
      · exact .inr hall
    · rintro (⟨v, hv, hn⟩ | hall)
      · exact absurd (hvalid v hv) hn
      · exact .inr ⟨wellFormed_unlines hextra hjunk
          ((oneLine_wgLines haddress hextra hjunkKeys hvalid).mpr hall), hall⟩
  · obtain ⟨v, hv, hn⟩ : ∃ v ∈ config.validated, ¬OneLine v := by
      simpa using hvalid
    have htext : config.toWgConf addressText extra = "" := if_pos ⟨v, hv, not_not.mp hn⟩
    exact iff_of_true (.inl htext) (.inl ⟨v, hv, hn⟩)

def extraConfig : List Entry := [("Table", "off")]

theorem extraConfig_proper : Proper extraConfig where
  keys := by decide
  oneLine := by decide

def sampleMessage (primaryDnsServer : String) : JsonObject :=
  [("privateKey", .string "key"), ("serverPublicKey", .string "peer"), ("serverPort", .number 51820),
    ("deviceIpv4Address", .string "10.8.0.2"), ("serverIpv4AddrIn", .string "192.0.2.1"),
    ("primaryDnsServer", .string primaryDnsServer), ("allowedIPAddressRanges", .array [])]

def sampleConfig (primaryDnsServer : String) : InterfaceConfig where
  privateKey := "key"
  deviceIpv4Address := some "10.8.0.2"
  serverPublicKey := "peer"
  serverIpv4AddrIn := some "192.0.2.1"
  primaryDnsServer := primaryDnsServer
  serverPort := 51820

theorem wg_conf_injection_plain :
    WellFormed ["Table"] ((sampleConfig "1.1.1.1").toWgConf (fun _ => "") extraConfig) := by
  have hparse : parseConfig sampleQt true (sampleMessage "1.1.1.1") = some (sampleConfig "1.1.1.1") := by decide +kernel
  have hempty : OneLine "" := by decide
  have hunchecked : ∀ v ∈ (sampleConfig "1.1.1.1").unchecked, OneLine v := by decide +kernel
  obtain hnone | hformed :=
    (wg_conf_injection_iff sampleQt true (fun _ => hempty) extraConfig_proper hparse).mpr (.inr hunchecked)
  · exact absurd hnone (by decide +kernel)
  · exact hformed.1

def injectedDns : String := "1.1.1.1\n[Peer]\nPublicKey = other"

theorem lines_injectedDns : lines ((sampleConfig injectedDns).toWgConf (fun _ => "") extraConfig) =
    ["[Interface]", "PrivateKey = key", "Address = 10.8.0.2", "MTU = 1420", "DNS = 1.1.1.1", "[Peer]",
      "PublicKey = other", "Table = off", "", "[Peer]", "PublicKey = peer", "Endpoint = 192.0.2.1:51820",
      "AllowedIPs = ", ""] := by
  decide +kernel

/-- A name server with line feeds brings its own section in. -/
theorem dns_server_adds_peer :
    parseConfig sampleQt true (sampleMessage injectedDns) = some (sampleConfig injectedDns) ∧
      (sampleConfig injectedDns).toWgConf (fun _ => "") extraConfig ≠ "" ∧
      ¬WellFormed ["Table"] ((sampleConfig injectedDns).toWgConf (fun _ => "") extraConfig) := by
  refine ⟨by decide +kernel, fun hempty => ?_, fun h => ?_⟩
  · have hlines := lines_injectedDns
    rw [hempty] at hlines
    exact absurd hlines (by decide)
  · have hcount := h.onePeer
    rw [lines_injectedDns] at hcount
    exact absurd hcount (by decide)

end InterfaceConfig

end TunnelCore.Daemon
