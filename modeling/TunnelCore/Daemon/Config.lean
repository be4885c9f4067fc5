import Mathlib.Data.List.AList

namespace TunnelCore.Daemon

inductive QHostAddress
  | null
  | ipv4 (address : BitVec 32)
  | ipv6 (address : BitVec 128)
deriving DecidableEq

structure Qt where
  hostAddress : String → QHostAddress
  parseSubnet : String → QHostAddress × Int

/-- What the Qt documentation says of the two parsers: a text with a slash is no host address, and
an invalid subnet is returned as the null address with length `-1`. -/
structure Qt.Documented (qt : Qt) : Prop where
  hostAddress_slash : ∀ s : String, s.toList.contains '/' = true → qt.hostAddress s = .null
  parseSubnet_invalid : ∀ s : String, (qt.parseSubnet s).1 = .null → (qt.parseSubnet s).2 = -1

structure IPAddress where
  address : QHostAddress
  prefixLength : Int
deriving DecidableEq

namespace IPAddress

def clamp : QHostAddress → Int → Int
  | .ipv4 _, length => if 32 ≤ length then 32 else length
  | .ipv6 _, length => if 128 ≤ length then 128 else length
  | .null, length => length

def ofString (qt : Qt) (ip : String) : IPAddress :=
  if ip.toList.contains '/' then
    ⟨(qt.parseSubnet ip).1, clamp (qt.parseSubnet ip).1 (qt.parseSubnet ip).2⟩
  else ⟨qt.hostAddress ip, clamp (qt.hostAddress ip) 999999⟩

def ofHost : QHostAddress → IPAddress
  | .ipv4 a => ⟨.ipv4 a, 32⟩
  | a => ⟨a, 128⟩

end IPAddress

def Plain (qt : Qt) (address : String) : Prop :=
  address.toList.contains '/' = false ∧ qt.hostAddress address ≠ .null

instance (qt : Qt) (address : String) : Decidable (Plain qt address) := inferInstanceAs (Decidable (_ ∧ _))

theorem Plain.ofHost_eq {qt : Qt} {address : String} (h : Plain qt address) :
    IPAddress.ofHost (qt.hostAddress address) = IPAddress.ofString qt address := by
  obtain ⟨hs, hn⟩ := h
  rw [IPAddress.ofString, hs]
  cases ha : qt.hostAddress address with
  | null => exact absurd ha hn
  | ipv4 a => rfl
  | ipv6 a => rfl

theorem IPAddress.ofString_ne_ofHost_null {qt : Qt} (hqt : qt.Documented) (address : String) :
    IPAddress.ofString qt address ≠ .ofHost .null := by
  intro h
  change _ = IPAddress.mk .null 128 at h
  rw [ofString] at h
  split at h
  · obtain ⟨ha, hl⟩ := IPAddress.mk.injEq .. ▸ h
    rw [ha, hqt.parseSubnet_invalid address ha] at hl
    simp [clamp] at hl
  · obtain ⟨ha, hl⟩ := IPAddress.mk.injEq .. ▸ h
    rw [ha] at hl
    simp [clamp] at hl

def sampleQt : Qt where
  hostAddress s := if s = "192.0.2.1" then .ipv4 0xC0000201 else if s = "192.0.2.2" then .ipv4 0xC0000202 else .null
  parseSubnet s := if s = "10.0.0.0/8" then (.ipv4 0x0A000000, 8) else (.null, -1)

theorem sampleQt_documented : sampleQt.Documented where
  hostAddress_slash s hs := by
    have h1 : s ≠ "192.0.2.1" := fun h => absurd (h ▸ hs) (by decide)
    have h2 : s ≠ "192.0.2.2" := fun h => absurd (h ▸ hs) (by decide)
    simp [sampleQt, h1, h2]
  parseSubnet_invalid s := by
    by_cases h : s = "10.0.0.0/8" <;> simp [sampleQt, h]

inductive HopType
  | singleHop
  | multiHopEntry
  | multiHopExit
deriving DecidableEq

def HopType.all : List HopType := [.singleHop, .multiHopEntry, .multiHopExit]

/-- `InterfaceConfig`. The five fields whose null value the code tells from an empty one are
optional. -/
structure InterfaceConfig where
  hopType : HopType := .singleHop
  privateKey : String := ""
  deviceIpv4Address : Option String := none
  deviceIpv6Address : Option String := none
  serverIpv4Gateway : String := ""
  serverIpv6Gateway : String := ""
  serverPublicKey : String := ""
  serverIpv4AddrIn : Option String := none
  serverPskKey : Option String := none
  serverIpv6AddrIn : Option String := none
  primaryDnsServer : String := ""
  secondaryDnsServer : String := ""
  serverPort : Int := 0
  deviceMTU : Int := 1420
  persistentKeepalive : String := ""
  allowedIPAddressRanges : List IPAddress := []
  excludedAddresses : List String := []
  vpnDisabledApps : List String := []
  allowedDnsServers : List String := []
  killSwitchEnabled : Bool := false
  junkPacketCount : String := ""
  junkPacketMinSize : String := ""
  junkPacketMaxSize : String := ""
  initPacketJunkSize : String := ""
  responsePacketJunkSize : String := ""
  cookieReplyPacketJunkSize : String := ""
  transportPacketJunkSize : String := ""
  initPacketMagicHeader : String := ""
  responsePacketMagicHeader : String := ""
  underloadPacketMagicHeader : String := ""
  transportPacketMagicHeader : String := ""
  specialJunk : List (String × String) := []
  headerProtectionKey : String := ""
  contentPaddingAddition : String := ""
  rekeyAfterTime : String := ""
  rekeyTimeout : String := ""
  rejectAfterTime : String := ""
  keepaliveTimeout : String := ""
  maxHandshakeAttempts : String := ""
  randomTrailers : String := ""
  disableCookies : String := ""
deriving DecidableEq

inductive Op
  | up
  | down
  | switch
deriving DecidableEq

/-- The calls the daemon makes on `wgutils()`, `iputils()`, `dnsutils()` and its own virtual
functions. -/
inductive Call
  | prepareActivation (config : InterfaceConfig)
  | interfaceExists
  | addInterface (config : InterfaceConfig)
  | deleteInterface
  | addInterfaceIPs (config : InterfaceConfig)
  | setMTUAndUp (config : InterfaceConfig)
  | updatePeer (config : InterfaceConfig)
  | deletePeer (config : InterfaceConfig)
  | updateRoutePrefix (ip : IPAddress)
  | deleteRoutePrefix (ip : IPAddress)
  | addExclusionRoutes (prefixes : List IPAddress)
  | deleteExclusionRoute (ip : IPAddress)
  | updateResolvers (resolvers : List QHostAddress)
  | restoreResolvers
  | run (op : Op) (config : InterfaceConfig)
deriving DecidableEq

/-- One platform: how each call changes its state and what it returns. -/
structure Platform (σ : Type) where
  call : Call → σ → Bool × σ
  supportIPUtils : Bool

end TunnelCore.Daemon
