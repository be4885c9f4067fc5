import TunnelCore.KillSwitch.AllowedRanges
import TunnelCore.KillSwitch.WindowsFirewall
import TunnelCore.Library.Json

namespace TunnelCore.KillSwitch.Windows

open Daemon Text

structure State where
  firewall : WindowsFirewall.State
  strictKillSwitchEnabled : Bool
  allowedRanges : List String

structure Env where
  qt : Qt
  host : WindowsFirewall.Host

section Calls

variable (env : Env)

def disableAllTraffic (s : State) : State :=
  { s with firewall := WindowsFirewall.enableInterface env.host (-1) s.firewall, allowedRanges := [] }

def init (s : State) : State := if s.strictKillSwitchEnabled then disableAllTraffic env s else s

def disableKillSwitch (s : State) : State :=
  if s.strictKillSwitchEnabled then disableAllTraffic env s
  else { s with firewall := WindowsFirewall.allowAllTraffic s.firewall }

def refresh (enabled : Bool) (s : State) : State :=
  if enabled then disableAllTraffic env { s with strictKillSwitchEnabled := enabled }
  else disableKillSwitch env { s with strictKillSwitchEnabled := enabled }

def resetAllowedRange (ranges : List String) (s : State) : State :=
  if ranges.all isValidIpOrCidr then
    { s with
      firewall := WindowsFirewall.allowTrafficRange env.qt ranges
        (if s.strictKillSwitchEnabled then WindowsFirewall.enableInterface env.host (-1) s.firewall else s.firewall)
      allowedRanges := ranges }
  else s

def addAllowedRange (ranges : List String) (s : State) : State :=
  if ranges.all isValidIpOrCidr then
    resetAllowedRange env (appendRanges s.allowedRanges ranges)
      { s with allowedRanges := appendRanges s.allowedRanges ranges }
  else s

def enableKillSwitch (config : JsonObject) (vpnAdapterIndex : Int) (s : State) : State :=
  { s with
    firewall := WindowsFirewall.enableInterface env.host vpnAdapterIndex
      (if (config.value "splitTunnelType").toInt ≠ 0 then WindowsFirewall.allowAllTraffic s.firewall
        else s.firewall) }

def atoi (text : List Char) : Int :=
  match text.dropWhile Char.isWhitespace with
  | '-' :: digits => -(decimal (digits.takeWhile Char.isDigit) : Int)
  | '+' :: digits => decimal (digits.takeWhile Char.isDigit)
  | digits => decimal (digits.takeWhile Char.isDigit)

def siteRange (qt : Qt) (ipRange : String) : IPAddress :=
  match ipRange.toList.splitOn '/' with
  | address :: length :: _ => ⟨qt.hostAddress (.ofList address), atoi length⟩
  | _ => ⟨qt.hostAddress ipRange, 32⟩

/-- The `InterfaceConfig` that `enablePeerTraffic` makes of its argument, as far as the firewall reads it. -/
def peerConfig (qt : Qt) (config : JsonObject) : InterfaceConfig :=
  let dns1 := (config.value "dns1").toString
  let splitTunnelType := (config.value "splitTunnelType").toInt
  let splitTunnelSites := (config.value "splitTunnelSites").toArray.map Json.toString
  let vpnServer := (config.value "vpnServer").toString
  { primaryDnsServer := dns1
    secondaryDnsServer := if amneziaDnsIp.toList <:+: dns1.toList then "" else (config.value "dns2").toString
    serverPublicKey := "openvpn"
    serverIpv4Gateway := (config.value "vpnGateway").toString
    serverIpv4AddrIn := some vpnServer
    allowedIPAddressRanges :=
      if splitTunnelType = 0 ∨ splitTunnelType = 2 then [WindowsFirewall.allv4, WindowsFirewall.allv6]
      else if splitTunnelType = 1 then splitTunnelSites.map (siteRange qt)
      else []
    excludedAddresses := vpnServer :: if splitTunnelType = 2 then splitTunnelSites else []
    allowedDnsServers := ((config.value "allowedDnsServers").toArray.takeWhile Json.isString).map Json.toString }

def enablePeerTraffic (config : JsonObject) (s : State) : State :=
  if variantToBool (config.value "killSwitchOption").toString then
    { s with firewall := WindowsFirewall.enablePeerTraffic env.qt (peerConfig env.qt config) s.firewall }
  else s

end Calls

/-- The calls on `KillSwitch`, and those that the daemon makes on `WindowsFirewall` itself. -/
inductive Call
  | init
  | refresh (enabled : Bool)
  | enableKillSwitch (config : JsonObject) (vpnAdapterIndex : Int)
  | disableKillSwitch
  | enablePeerTraffic (config : JsonObject)
  | addAllowedRange (ranges : List String)
  | resetAllowedRange (ranges : List String)
  | firewallEnableInterface (vpnAdapterIndex : Int)
  | firewallEnableLanBypass (ranges : List IPAddress)
  | firewallEnablePeerTraffic (config : InterfaceConfig)
  | firewallDisablePeerTraffic (pubkey : String)
  | firewallAllowAllTraffic

def step (env : Env) (s : State) : Call → State
  | .init => Windows.init env s
  | .refresh enabled => Windows.refresh env enabled s
  | .enableKillSwitch config vpnAdapterIndex => Windows.enableKillSwitch env config vpnAdapterIndex s
  | .disableKillSwitch => Windows.disableKillSwitch env s
  | .enablePeerTraffic config => Windows.enablePeerTraffic env config s
  | .addAllowedRange ranges => Windows.addAllowedRange env ranges s
  | .resetAllowedRange ranges => Windows.resetAllowedRange env ranges s
  | .firewallEnableInterface index => { s with firewall := WindowsFirewall.enableInterface env.host index s.firewall }
  | .firewallEnableLanBypass ranges => { s with firewall := WindowsFirewall.enableLanBypass ranges s.firewall }
  | .firewallEnablePeerTraffic config =>
    { s with firewall := WindowsFirewall.enablePeerTraffic env.qt config s.firewall }
  | .firewallDisablePeerTraffic pubkey => { s with firewall := WindowsFirewall.disablePeerTraffic pubkey s.firewall }
  | .firewallAllowAllTraffic => { s with firewall := WindowsFirewall.allowAllTraffic s.firewall }

def start (strict : Bool) : State := ⟨{}, strict, []⟩

def run (env : Env) (strict : Bool) (calls : List Call) : State := calls.foldl (step env) (start strict)

end TunnelCore.KillSwitch.Windows
