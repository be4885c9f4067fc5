import TunnelCore.Library.Chains

namespace TunnelCore.LinuxFirewall

open Chains

inductive Family
  | ipv4
  | ipv6
deriving DecidableEq

inductive IPVersion
  | ipv4
  | ipv6
  | both

def IPVersion.covers : IPVersion → Family → Bool
  | .ipv4, .ipv4 | .ipv6, .ipv6 | .both, _ => true
  | _, _ => false

inductive Anchor
  | allowLoopback
  | blockAll
  | allowNets
  | blockNets
  | allowMarkedXray
  | allowVPN
  | blockIPv6
  | allowDHCP
  | allowLAN
  | blockDNS
  | allowDNS
  | allowPIA
deriving DecidableEq

/-- The chains of the filter table: `OUTPUT`, the root chain `amnvpn.anchors`, and for each anchor its
placeholder `amnvpn.a.%` and its actual chain `amnvpn.%`. -/
inductive Chain
  | output
  | root
  | anchor (a : Anchor)
  | actual (a : Anchor)
deriving DecidableEq

inductive Address
  | ipv4 (address : BitVec 32)
  | ipv6 (address : BitVec 128)
deriving DecidableEq

def Address.family : Address → Family
  | .ipv4 _ => .ipv4
  | .ipv6 _ => .ipv6

inductive Net
  | ipv4 (address : BitVec 32) (length : Nat)
  | ipv6 (address : BitVec 128) (length : Nat)
deriving DecidableEq

def Net.contains : Net → Address → Bool
  | .ipv4 net length, .ipv4 a => a >>> (32 - length) = net >>> (32 - length)
  | .ipv6 net length, .ipv6 a => a >>> (128 - length) = net >>> (128 - length)
  | _, _ => false

inductive Protocol
  | udp
  | tcp
  | other
deriving DecidableEq

structure Packet where
  destination : Address
  outInterface : String
  protocol : Protocol := .other
  sport : Nat := 0
  dport : Nat := 0
  mark : Nat := 0

/-- The IPv4 addresses that `iptables` takes the argument of `-d` for. -/
structure Iptables where
  addresses : String → BitVec 32 → Bool

/-- The argument of `-d`: a fixed network of this firewall, or a text it is given. -/
inductive Destination
  | net (n : Net)
  | text (s : String)
deriving DecidableEq

def Destination.contains (ip : Iptables) : Destination → Address → Bool
  | .net n, a => n.contains a
  | .text s, .ipv4 a => ip.addresses s a
  | .text _, .ipv6 _ => false

/-- The name before the `+` of `-o`, and whether `!` stands before it. -/
structure OutInterface where
  name : String
  inverted : Bool := false
deriving DecidableEq

def OutInterface.covers (i : OutInterface) (name : String) : Bool :=
  i.name.toList.isPrefixOf name.toList != i.inverted

structure Match where
  outInterface : Option OutInterface := none
  destination : Option Destination := none
  protocol : Option Protocol := none
  sport : Option Nat := none
  dport : Option Nat := none
  mark : Option Nat := none
deriving DecidableEq

def Match.holds (ip : Iptables) (m : Match) (p : Packet) : Bool :=
  m.outInterface.all (·.covers p.outInterface) && m.destination.all (·.contains ip p.destination) &&
    m.protocol.all (· = p.protocol) && m.sport.all (· = p.sport) && m.dport.all (· = p.dport) &&
    m.mark.all (· = p.mark)

abbrev FilterTable := Table Chain Match

abbrev Tables := Family → FilterTable

def absent : FilterTable
  | .output => some []
  | _ => none

def jumpTo (chain : Chain) : Rule Chain Match := ⟨{}, .jump chain⟩

def verdictRule (r : Match × Verdict) : Rule Chain Match := ⟨r.1, .verdict r.2⟩

def on (ip : IPVersion) (f : FilterTable → FilterTable) (s : Tables) : Tables := fun family =>
  if ip.covers family then f (s family) else s family

/-- `-N chain || -F chain` -/
def createChain (ip : IPVersion) (chain : Chain) : Tables → Tables := on ip (setChain chain (some []))

/-- `-F chain && -X chain`, if there is such a chain. -/
def deleteChain (ip : IPVersion) (chain : Chain) : Tables → Tables := on ip (setChain chain none)

def linkChain (ip : IPVersion) (chain parent : Chain) (mustBeFirst : Bool) : Tables → Tables :=
  on ip <| modify parent fun rules =>
    if mustBeFirst then
      if rules.head?.any (·.target = .jump chain) then rules
      -- inserted at the top, and one other rule with this target is deleted
      else jumpTo chain :: rules.eraseP (·.target = .jump chain)
    else if jumpTo chain ∈ rules then rules
    else rules ++ [jumpTo chain]

def unlinkChain (ip : IPVersion) (chain parent : Chain) : Tables → Tables :=
  on ip <| modify parent fun rules => rules.erase (jumpTo chain)

def ensureRootAnchorPriority : Tables → Tables := linkChain .both .root .output true

def appendRules (chain : Chain) (rules : List (Match × Verdict)) (t : FilterTable) : FilterTable :=
  rules.foldl (fun t r => append chain (verdictRule r) t) t

def installAnchor (ip : IPVersion) (a : Anchor) (rules : List (Match × Verdict)) (s : Tables) : Tables :=
  on ip (appendRules (.actual a) rules)
    (createChain ip (.actual a) (linkChain ip (.anchor a) .root false (createChain ip (.anchor a) s)))

def uninstallAnchor (ip : IPVersion) (a : Anchor) (s : Tables) : Tables :=
  deleteChain ip (.actual a) (deleteChain ip (.anchor a) (unlinkChain ip (.anchor a) .root s))

def uninstall (s : Tables) : Tables :=
  deleteChain .both .root (unlinkChain .both .root .output s)
    |> uninstallAnchor .both .allowLoopback
    |> uninstallAnchor .both .allowPIA
    |> uninstallAnchor .ipv4 .allowDNS
    |> uninstallAnchor .both .blockDNS
    |> uninstallAnchor .both .allowLAN
    |> uninstallAnchor .both .allowDHCP
    |> uninstallAnchor .ipv6 .blockIPv6
    |> uninstallAnchor .both .allowVPN
    |> uninstallAnchor .ipv4 .blockNets
    |> uninstallAnchor .both .allowMarkedXray
    |> uninstallAnchor .ipv4 .allowNets
    |> uninstallAnchor .both .blockAll

def loopbackInterface : OutInterface := { name := "lo" }

def tunnelInterfaces : List OutInterface := [{ name := "amn0" }, { name := "tun0" }, { name := "tun2" }]

def lanNets : Family → List Net
  | .ipv4 => [.ipv4 0x0A000000 8, .ipv4 0xA9FE0000 16, .ipv4 0xAC100000 12, .ipv4 0xC0A80000 16,
      .ipv4 0xE0000000 4, .ipv4 0xFFFFFFFF 32]
  | .ipv6 => [.ipv6 (0xFC00 <<< 112) 7, .ipv6 (0xFE80 <<< 112) 10, .ipv6 (0xFF00 <<< 112) 8]

def lanRules (family : Family) : List (Match × Verdict) :=
  (lanNets family).map fun n => ({ destination := some (.net n) }, .accept)

def dhcpMatch : Family → Match
  | .ipv4 =>
    { protocol := some .udp, destination := some (.net (.ipv4 0xFFFFFFFF 32)), sport := some 68, dport := some 67 }
  | .ipv6 =>
    { protocol := some .udp, destination := some (.net (.ipv6 (0xFF00 <<< 112) 8)), sport := some 546,
      dport := some 547 }

def xrayTrafficMark : Nat := 0x82

def install (s : Tables) : Tables :=
  createChain .both .root (uninstall s)
    |> installAnchor .both .allowLoopback [({ outInterface := some loopbackInterface }, .accept)]
    |> installAnchor .ipv4 .allowDNS []
    |> installAnchor .both .blockDNS [({ protocol := some .udp, dport := some 53 }, .reject),
        ({ protocol := some .tcp, dport := some 53 }, .reject)]
    |> installAnchor .ipv4 .allowLAN (lanRules .ipv4)
    |> installAnchor .ipv6 .allowLAN (lanRules .ipv6)
    |> installAnchor .ipv4 .allowDHCP [(dhcpMatch .ipv4, .accept)]
    |> installAnchor .ipv6 .allowDHCP [(dhcpMatch .ipv6, .accept)]
    |> installAnchor .ipv6 .blockIPv6 [({ outInterface := some { loopbackInterface with inverted := true } }, .reject)]
    |> installAnchor .both .allowVPN (tunnelInterfaces.map fun i => ({ outInterface := some i }, .accept))
    |> installAnchor .both .allowMarkedXray [({ mark := some xrayTrafficMark }, .accept)]
    |> installAnchor .ipv4 .blockNets []
    |> installAnchor .ipv4 .allowNets []
    |> installAnchor .both .allowPIA []
    |> installAnchor .both .blockAll [({}, .reject)]
    |> linkChain .both .root .output true

def isInstalled (s : Tables) : Bool := ((s .ipv4 .output).getD []).contains (jumpTo .root)

def enableAnchor (ip : IPVersion) (a : Anchor) : Tables → Tables :=
  on ip <| modify (.anchor a) fun rules =>
    if jumpTo (.actual a) ∈ rules then rules else rules ++ [jumpTo (.actual a)]

def disableAnchor (ip : IPVersion) (a : Anchor) : Tables → Tables :=
  on ip <| modify (.anchor a) fun rules => if jumpTo (.actual a) ∈ rules then [] else rules

def isAnchorEnabled (family : Family) (a : Anchor) (s : Tables) : Bool :=
  ((s family (.anchor a)).getD []).contains (jumpTo (.actual a))

def setAnchorEnabled (ip : IPVersion) (a : Anchor) (enabled : Bool) : Tables → Tables :=
  if enabled then enableAnchor ip a else disableAnchor ip a

def dnsRules (servers : List String) : List (Match × Verdict) :=
  servers.flatMap fun server => tunnelInterfaces.flatMap fun i =>
    [.udp, .tcp].map fun protocol =>
      ({ outInterface := some i, destination := some (.text server), protocol := some protocol, dport := some 53 },
        .accept)

def netRules (servers : List String) (v : Verdict) : List (Match × Verdict) :=
  servers.map fun server => ({ destination := some (.text server) }, v)

def updateDNSServers (servers : List String) : Tables → Tables :=
  on .ipv4 fun t => appendRules (.actual .allowDNS) (dnsRules servers) (flush (.actual .allowDNS) t)

def updateAllowNets (servers : List String) : Tables → Tables :=
  on .ipv4 fun t => appendRules (.actual .allowNets) (netRules servers .accept) (flush (.actual .allowNets) t)

def updateBlockNets (servers : List String) : Tables → Tables :=
  on .ipv4 fun t => appendRules (.actual .blockNets) (netRules servers .reject) (flush (.actual .blockNets) t)

/-- What `OUTPUT` and the chains it calls do with a packet; they nest three deep. -/
def verdict (ip : Iptables) (s : Tables) (p : Packet) : Option Verdict :=
  traverse (Match.holds ip) (s p.destination.family) 4 .output p

def Accepts (ip : Iptables) (s : Tables) (p : Packet) : Prop := verdict ip s p ≠ some .reject

instance (ip : Iptables) (s : Tables) (p : Packet) : Decidable (Accepts ip s p) := inferInstanceAs (Decidable (_ ≠ _))

/-- `FirewallParams`, as far as `applyFirewallRules` reads it. -/
structure FirewallParams where
  dnsServers : List String := []
  allowAddrs : List String := []
  blockAddrs : List String := []
  blockAll : Bool := false
  allowNets : Bool := false
  blockNets : Bool := false

def applyFirewallRules (params : FirewallParams) (s : Tables) : Tables :=
  ensureRootAnchorPriority (if isInstalled s then s else install s)
    |> setAnchorEnabled .both .allowLoopback true
    |> setAnchorEnabled .both .blockAll params.blockAll
    |> setAnchorEnabled .ipv4 .allowNets params.allowNets
    |> updateAllowNets params.allowAddrs
    |> setAnchorEnabled .ipv4 .blockNets params.blockNets
    |> updateBlockNets params.blockAddrs
    |> setAnchorEnabled .ipv4 .allowVPN true
    |> setAnchorEnabled .ipv6 .blockIPv6 true
    |> setAnchorEnabled .both .allowDHCP true
    |> setAnchorEnabled .both .allowLAN true
    |> setAnchorEnabled .ipv4 .blockDNS true
    |> updateDNSServers params.dnsServers
    |> setAnchorEnabled .ipv4 .allowDNS true
    |> setAnchorEnabled .both .allowPIA true

end TunnelCore.LinuxFirewall
