import TunnelCore.KillSwitch.AllowedRanges
import TunnelCore.KillSwitch.LinuxFirewall
import TunnelCore.Library.Action
import TunnelCore.Library.Json

namespace TunnelCore.KillSwitch.Linux

open LinuxFirewall

structure State where
  tables : Tables
  strictKillSwitchEnabled : Bool
  allowedRanges : List String

def disableAllTraffic : Action State := .update fun s =>
  { s with
    tables := (if isInstalled s.tables then s.tables else install s.tables)
      |> setAnchorEnabled .both .blockAll true
      |> setAnchorEnabled .both .allowMarkedXray false
      |> setAnchorEnabled .both .allowLoopback true
      |> setAnchorEnabled .ipv6 .blockIPv6 true
    allowedRanges := [] }

def init : Action State := .branch (·.strictKillSwitchEnabled) disableAllTraffic .skip

def disableKillSwitch : Action State := .update fun s =>
  { s with
    tables :=
      if s.strictKillSwitchEnabled then
        setAnchorEnabled .both .allowLoopback true s.tables
          |> setAnchorEnabled .both .blockAll true
          |> setAnchorEnabled .ipv4 .allowNets false
          |> setAnchorEnabled .ipv4 .blockNets false
          |> setAnchorEnabled .both .allowMarkedXray false
          |> setAnchorEnabled .ipv4 .allowVPN false
          |> setAnchorEnabled .ipv6 .blockIPv6 true
          |> setAnchorEnabled .both .allowDHCP false
          |> setAnchorEnabled .both .allowLAN false
          |> setAnchorEnabled .ipv4 .blockDNS false
          |> setAnchorEnabled .ipv4 .allowDNS false
          |> setAnchorEnabled .both .allowPIA false
      else
        setAnchorEnabled .both .allowLoopback true s.tables
          |> setAnchorEnabled .both .blockAll false
          |> setAnchorEnabled .ipv4 .allowNets false
          |> setAnchorEnabled .ipv4 .blockNets false
          |> setAnchorEnabled .both .allowMarkedXray false
          |> setAnchorEnabled .ipv4 .allowVPN false
          |> setAnchorEnabled .ipv6 .blockIPv6 false
          |> setAnchorEnabled .both .allowDHCP true
          |> setAnchorEnabled .both .allowLAN true
          |> setAnchorEnabled .ipv4 .blockDNS false
          |> setAnchorEnabled .ipv4 .allowDNS true
          |> setAnchorEnabled .both .allowPIA false
          |> uninstall
    allowedRanges := [] }

def refresh (enabled : Bool) : Action State :=
  (Action.update fun s => { s with strictKillSwitchEnabled := enabled }).andThen
    (.branch (·.strictKillSwitchEnabled) disableAllTraffic disableKillSwitch)

def resetAllowedRange (ranges : List String) : Action State :=
  .branch (fun _ => ranges.all isValidIpOrCidr)
    (.update fun s =>
      { s with
        tables := updateAllowNets ranges (setAnchorEnabled .ipv4 .allowNets true s.tables)
        allowedRanges := ranges })
    fun s => (false, s)

def addAllowedRange (ranges : List String) : Action State :=
  .branch (fun _ => ranges.all isValidIpOrCidr)
    ((Action.update fun s => { s with allowedRanges := appendRanges s.allowedRanges ranges }).andThen
      (.inspect fun s => resetAllowedRange s.allowedRanges))
    fun s => (false, s)

section Config

variable (config : JsonObject)

def splitTunnelType : Int := (config.value "splitTunnelType").toInt

def splitTunnelSites : List String := (config.value "splitTunnelSites").toArray.map Json.toString

def vpnServer : String := (config.value "vpnServer").toString

def dns1 : String := (config.value "dns1").toString

def dns2 : String :=
  if amneziaDnsIp.toList <:+: (dns1 config).toList then "" else (config.value "dns2").toString

/-- The loop stops at the first entry that is no string and keeps the valid ones before it. -/
def allowedDnsServers : List String :=
  (((config.value "allowedDnsServers").toArray.takeWhile Json.isString).map Json.toString).filter isValidIpOrCidr

def blockAll : Bool := splitTunnelType config = 0 ∨ splitTunnelType config = 2

def allowNets : Bool := splitTunnelType config = 0 ∨ splitTunnelType config = 2

def blockNets : Bool := splitTunnelType config = 1

def allownets : List String :=
  if splitTunnelType config = 0 then [vpnServer config]
  else if splitTunnelType config = 2 then vpnServer config :: splitTunnelSites config
  else []

def blocknets : List String := if splitTunnelType config = 1 then splitTunnelSites config else []

def dnsServers : List String :=
  [dns1 config, dns2 config].filter (· ≠ "") ++ ["127.0.0.1", "127.0.0.53"] ++ allowedDnsServers config

def isAccepted : Bool :=
  [dns1 config, dns2 config].all (fun dns => dns = "" || isValidIpOrCidr dns) &&
    (allownets config).all isValidIpOrCidr && (blocknets config).all isValidIpOrCidr

end Config

def enableKillSwitch (config : JsonObject) : Action State :=
  .branch (fun _ => isAccepted config)
    (.update fun s =>
      { s with
        tables := (if isInstalled s.tables then s.tables else install s.tables)
          |> setAnchorEnabled .both .allowLoopback true
          |> setAnchorEnabled .both .blockAll (blockAll config)
          |> setAnchorEnabled .ipv4 .allowNets (allowNets config)
          |> updateAllowNets (allownets config)
          |> setAnchorEnabled .ipv4 .blockNets (blockNets config)
          |> updateBlockNets (blocknets config)
          |> setAnchorEnabled .both .allowMarkedXray true
          |> setAnchorEnabled .ipv4 .allowVPN true
          |> setAnchorEnabled .ipv6 .blockIPv6 true
          |> setAnchorEnabled .both .allowDHCP true
          |> setAnchorEnabled .both .allowLAN true
          |> setAnchorEnabled .ipv4 .blockDNS true
          |> updateDNSServers (dnsServers config)
          |> setAnchorEnabled .ipv4 .allowDNS true
          |> setAnchorEnabled .both .allowPIA true })
    fun s => (false, s)

inductive Call
  | init
  | refresh (enabled : Bool)
  | enableKillSwitch (config : JsonObject)
  | disableKillSwitch
  | addAllowedRange (ranges : List String)
  | resetAllowedRange (ranges : List String)
  | applyFirewallRules (params : FirewallParams)

def Call.action : Call → Action State
  | .init => Linux.init
  | .refresh enabled => Linux.refresh enabled
  | .enableKillSwitch config => Linux.enableKillSwitch config
  | .disableKillSwitch => Linux.disableKillSwitch
  | .addAllowedRange ranges => Linux.addAllowedRange ranges
  | .resetAllowedRange ranges => Linux.resetAllowedRange ranges
  | .applyFirewallRules params => .update fun s => { s with tables := LinuxFirewall.applyFirewallRules params s.tables }

def step (s : State) (call : Call) : State := (call.action s).2

/-- The service starts without any chain of its own, and its first call is `init`. -/
def start (strict : Bool) : State := step ⟨fun _ => absent, strict, []⟩ .init

def run (strict : Bool) (calls : List Call) : State := calls.foldl step (start strict)

end TunnelCore.KillSwitch.Linux
