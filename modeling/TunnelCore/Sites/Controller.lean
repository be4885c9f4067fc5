import TunnelCore.Sites.Store
import TunnelCore.Library.Replace

namespace TunnelCore.Sites

open Connection KillSwitch Text

/-- `QMap<QString, QStringList>` -/
structure SiteMap where
  entries : List (String × List String)
  ordered : Settings.Ordered entries

structure HostAddress where
  isIPv4 : Bool
  text : String

/-- `IpSplitTunnelingController` with the repository it writes to, and the host names it has asked
for and not been told of. -/
structure State where
  currentRouteMode : RouteMode
  sites : List (String × List String)
  settings : Settings
  lookups : List String

def isNumeral (bound : Nat) (cs : List Char) : Bool := (List.range (bound + 1)).any fun n => (toString n).toList = cs

def isQuad (cs : List Char) : Bool := (cs.splitOn '.').length = 4 && (cs.splitOn '.').all (isNumeral 255)

/-- `NetworkUtilities::ipAddressWithSubnetRegExp().exactMatch` -/
def ipAddressWithSubnet (text : String) : Bool :=
  match text.toList.splitOn '/' with
  | [address] => isQuad address
  | [address, length] => isQuad address && isNumeral 32 length
  | _ => false

def without (part text : String) : String := .ofList (replaceAll id part.toList [] text.toList)

def normalizeHostname (hostname : String) : String :=
  let normalized := without "ftp://" (without "http://" (without "https://" hostname))
  if ipAddressWithSubnet normalized then normalized else .ofList (firstSection '/' normalized.toList)

def validateHostname (hostname : String) : Bool :=
  hostname ≠ "" && (hostname.toList.contains '.' || ipAddressWithSubnet hostname)

namespace State

def fillSites (s : State) : State :=
  { s with sites := (s.settings.vpnSites s.currentRouteMode).map fun site => (site.1, Settings.siteIpList site.2) }

def start (settings : Settings) : State :=
  let settings := if settings.routeMode = .vpnAllSites then settings.setRouteMode .vpnOnlyForwardSites else settings
  fillSites ⟨settings.routeMode, [], settings, []⟩

def addSiteInternal (hostname : String) (ips : List String) (s : State) : Bool × State :=
  let stored := s.settings.addVpnSite s.currentRouteMode hostname ips
  if ((s.settings.vpnSites s.currentRouteMode).lookup hostname).isSome && ips = [] then (false, s)
  else
    match s.sites.lookup hostname with
    | some known =>
      if appendRanges known ips = known then (false, s)
      else (true, { s with sites := Assoc.adjust hostname (appendRanges · ips) s.sites, settings := stored })
    | none => (true, { s with sites := s.sites ++ [(hostname, ips)], settings := stored })

def addSite (hostname : String) (s : State) : Bool × State :=
  let hostname := normalizeHostname hostname
  if !validateHostname hostname then (false, s)
  else if ipAddressWithSubnet hostname then (true, (addSiteInternal hostname [] s).2)
  else
    match addSiteInternal hostname [] s with
    | (true, s) => (true, { s with lookups := s.lookups ++ [hostname] })
    | (false, s) => (false, s)

def mergeSites (new sites : List (String × List String)) : List (String × List String) :=
  new.foldl (fun sites site =>
    if (sites.lookup site.1).isSome then Assoc.adjust site.1 (appendRanges · site.2) sites else sites ++ [site]) sites

def addSites (new : SiteMap) (replaceExisting : Bool) (s : State) : State :=
  if replaceExisting then
    { s with
      sites := new.entries.map fun site => (site.1, Settings.siteIpList site.2)
      settings := s.settings.replaceVpnSites s.currentRouteMode new.entries }
  else
    { s with
      sites := mergeSites new.entries s.sites
      settings := s.settings.addVpnSites s.currentRouteMode new.entries }

def removeSite (hostname : String) (s : State) : Bool × State :=
  if (s.sites.lookup hostname).isSome then
    (true, { s with
      sites := Assoc.eraseFirst hostname s.sites
      settings := s.settings.removeVpnSite s.currentRouteMode hostname })
  else (false, s)

def removeSites (s : State) : State :=
  { s with sites := [], settings := s.settings.removeAllVpnSites s.currentRouteMode }

def setRouteMode (routeMode : RouteMode) (s : State) : State :=
  let s := fillSites { s with currentRouteMode := routeMode }
  { s with settings := s.settings.setRouteMode routeMode }

def toggleSplitTunneling (enabled : Bool) (s : State) : State :=
  { s with settings := { s.settings with sitesSplitTunnelingEnabled := enabled } }

def processSiteAfterResolve (hostname : String) (ips : List String) (s : State) : State :=
  { s with
    sites := Assoc.adjust hostname (appendRanges · ips) s.sites
    settings := s.settings.addVpnSite s.currentRouteMode hostname ips }

def allIpv4 (addresses : List HostAddress) : List String :=
  ((addresses.filter HostAddress.isIPv4).map HostAddress.text).eraseDups

def onHostResolved (hostname : String) (addresses : List HostAddress) (s : State) : State :=
  if allIpv4 addresses = [] then s else processSiteAfterResolve hostname (allIpv4 addresses) s

end State

inductive Event
  | addSite (hostname : String)
  | addSites (sites : SiteMap) (replaceExisting : Bool)
  | removeSite (hostname : String)
  | removeSites
  | setRouteMode (routeMode : RouteMode)
  | resolved (hostname : String) (addresses : List HostAddress)

def step (s : State) : Event → State
  | .addSite hostname => (s.addSite hostname).2
  | .addSites sites replaceExisting => s.addSites sites replaceExisting
  | .removeSite hostname => (s.removeSite hostname).2
  | .removeSites => s.removeSites
  | .setRouteMode routeMode => s.setRouteMode routeMode
  | .resolved hostname addresses =>
    if hostname ∈ s.lookups then { s with lookups := s.lookups.erase hostname }.onHostResolved hostname addresses
    else s

def run (settings : Settings) (events : List Event) : State := events.foldl step (.start settings)

end TunnelCore.Sites
