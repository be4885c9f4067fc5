import TunnelCore.RouteMonitor.ExclusionRoute
import TunnelCore.RouteMonitor.CapturedRoutes
import TunnelCore.Library.Action

namespace TunnelCore.RouteMonitor

open TunnelCore.Daemon (QHostAddress IPAddress)
open TunnelCore.Action

/-- `MIB_IPINTERFACE_ROW`, as far as the monitor reads it. -/
structure InterfaceRow where
  interfaceLuid : UInt64
  family : Family
  connected : Bool
  metric : UInt32

inductive SysCall
  | getIpForwardTable2 (family : Family)
  | getIpInterfaceTable (family : Family)
  | entry (call : OsCall)
deriving DecidableEq

structure Refusal where
  code : Code
  failed : code ≠ .noError

/-- What the system answers, given the calls it has had and the routes it has. A call it does not refuse has its
effect. -/
structure Api where
  forwardTable : List SysCall → Family → Option Table
  interfaceTable : List SysCall → Family → Option (List InterfaceRow)
  refusal : List SysCall → Finset Route → OsCall → Option Refusal

def Api.Deletes (api : Api) : Prop :=
  ∀ calls os row, row.route ∈ os → (api.refusal calls os (.deleteIpForwardEntry2 row)).isNone

/-- `m_clonedRoutes`: its rows are routes into the tunnel's interface. -/
structure Clones (luid : UInt64) where
  rows : AList (fun _ : IPAddress => Row)
  inside : ∀ key row, rows.lookup key = some row → row.interfaceLuid = luid

namespace Clones

variable {luid : UInt64}

def insert (key : IPAddress) (row : Row) (h : row.interfaceLuid = luid) (clones : Clones luid) : Clones luid where
  rows := clones.rows.insert key row
  inside := by
    intro k r hr
    by_cases hk : k = key
    · subst hk
      rw [AList.lookup_insert] at hr
      rw [← Option.some.inj hr, h]
    · rw [AList.lookup_insert_ne hk] at hr
      exact clones.inside k r hr

def erase (key : IPAddress) (clones : Clones luid) : Clones luid where
  rows := clones.rows.erase key
  inside := by
    intro k r hr
    by_cases hk : k = key
    · subst hk
      rw [AList.lookup_erase] at hr
      cases hr
    · rw [AList.lookup_erase_ne hk] at hr
      exact clones.inside k r hr

end Clones

/-- The members of `WindowsRouteMonitor` for the interface `luid`, the routes the system has, and the calls made. -/
structure MonitorState (luid : UInt64) where
  defaultRouteCapture : Bool
  interfaceMetrics : InterfaceMetrics
  exclusionRoutes : AList (fun _ : IPAddress => Row)
  clonedRoutes : Clones luid
  os : Finset Route
  calls : List SysCall

def OsCall.row : OsCall → Row
  | .deleteIpForwardEntry2 row => row
  | .createIpForwardEntry2 row => row

def OsCall.effect (os : Finset Route) : OsCall → Finset Route
  | .deleteIpForwardEntry2 row => os.erase row.route
  | .createIpForwardEntry2 row => insert row.route os

def InterfaceMetrics.clear (family : Family) (metrics : InterfaceMetrics) : InterfaceMetrics where
  ipv4 := if family = .inet ∨ family = .unspec then fun _ => none else metrics.ipv4
  ipv6 := if family = .inet6 ∨ family = .unspec then fun _ => none else metrics.ipv6

def InterfaceMetrics.record (luid : UInt64) (metrics : InterfaceMetrics) (row : InterfaceRow) : InterfaceMetrics :=
  if row.interfaceLuid = luid then metrics
  else if row.connected = false then metrics
  else
    match row.family with
    | .inet => { metrics with ipv4 := Function.update metrics.ipv4 row.interfaceLuid (some row.metric) }
    | .inet6 => { metrics with ipv6 := Function.update metrics.ipv6 row.interfaceLuid (some row.metric) }
    | .unspec => metrics

def toIPv4Address : QHostAddress → BitVec 32
  | .ipv4 address => address
  | _ => 0

def exclusionPrefix (ip : IPAddress) : IpAddressPrefix :=
  match ip.address with
  | .ipv6 address =>
    { address := .inet6 0 0 ⟨(BigEndian.bytes 16 address.toNat).toArray, by simp⟩ 0
      prefixLength := min ip.prefixLength.toNat 128
      within := Nat.min_le_right .. }
  | address =>
    { address := .inet 0 ⟨(BigEndian.bytes 4 (toIPv4Address address).toNat).toArray, by simp⟩
      prefixLength := min ip.prefixLength.toNat 32
      within := Nat.min_le_right .. }

def exclusionRow (ip : IPAddress) : Row where
  interfaceLuid := 0
  destinationPrefix := exclusionPrefix ip
  nextHop := .blank (exclusionPrefix ip).family
  protocol := mibIpprotoNetmgmt
  metric := exclusionRouteMetric
  age := 0

variable {luid : UInt64}

namespace MonitorState

variable (api : Api) (classes : HostClasses)

def monitor (s : MonitorState luid) : Monitor where
  luid := luid
  defaultRouteCapture := s.defaultRouteCapture
  exclusionRoutes := s.exclusionRoutes.entries.map Sigma.snd
  clonedRoutes := s.clonedRoutes.rows
  os := s.os

def called (s : MonitorState luid) (call : SysCall) : MonitorState luid := { s with calls := s.calls ++ [call] }

def answer (s : MonitorState luid) (call : OsCall) : Code :=
  match api.refusal s.calls s.os call with
  | some refusal => refusal.code
  | none =>
    match call with
    | .deleteIpForwardEntry2 row => if row.route ∈ s.os then .noError else .errorNotFound
    | .createIpForwardEntry2 row => if row.route ∈ s.os then .errorObjectAlreadyExists else .noError

def perform (s : MonitorState luid) (call : OsCall) : MonitorState luid :=
  { s.called (.entry call) with os := if s.answer api call = .noError then call.effect s.os else s.os }

def updateInterfaceMetrics (family : Family) : Action (MonitorState luid) := fun s =>
  match api.interfaceTable s.calls family with
  | none => (false, s.called (.getIpInterfaceTable family))
  | some rows =>
    let metrics := rows.foldl (InterfaceMetrics.record luid) (s.interfaceMetrics.clear family)
    (true, { s.called (.getIpInterfaceTable family) with interfaceMetrics := metrics })

def captureRow (s : MonitorState luid) (row : Row) : MonitorState luid :=
  if row.interfaceLuid = luid then s
  else if row.destinationPrefix.prefixLength = 0 then s
  else if row.protocol = mibIpprotoNetmgmt ∧ row.metric = exclusionRouteMetric then s
  else if s.monitor.isRouteExcluded row.destinationPrefix then s
  else if classes.isSpecial row.destinationPrefix.prefixToAddress then s
  else
    match h : s.clonedRoutes.rows.lookup row.key with
    | some data =>
      { s with clonedRoutes := s.clonedRoutes.insert row.key data.counted (s.clonedRoutes.inside row.key data h) }
    | none =>
      let data := s.monitor.clonedRow row
      if s.answer api (.createIpForwardEntry2 data) = .noError then
        { s.perform api (.createIpForwardEntry2 data) with
          clonedRoutes := s.clonedRoutes.insert row.key data.counted rfl }
      else s.perform api (.createIpForwardEntry2 data)

/-- One entry of the second loop. The entry goes even if the system keeps the route. -/
def releaseKey (family : Family) (s : MonitorState luid) (key : IPAddress) : MonitorState luid :=
  match h : s.clonedRoutes.rows.lookup key with
  | none => s
  | some data =>
    if data.age > 0 then
      { s with clonedRoutes := s.clonedRoutes.insert key { data with age := 0 } (s.clonedRoutes.inside key data h) }
    else if family ≠ .unspec ∧ data.destinationPrefix.family ≠ family then s
    else { s.perform api (.deleteIpForwardEntry2 data) with clonedRoutes := s.clonedRoutes.erase key }

def captureRows (table : Table) (s : MonitorState luid) : MonitorState luid :=
  table.rows.foldl (captureRow api classes) s

def updateCapturedRoutes (family : Family) (table : Table) (s : MonitorState luid) : MonitorState luid :=
  if s.defaultRouteCapture then
    let s := s.captureRows api classes table
    s.clonedRoutes.rows.keys.foldl (releaseKey api family) s
  else s

/-- `updateCapturedRoutes` with a table of its own -/
def reconcileCapturedRoutes (s : MonitorState luid) (family : Family) : MonitorState luid :=
  if s.defaultRouteCapture then
    match api.forwardTable s.calls family with
    | none => s.called (.getIpForwardTable2 family)
    | some table => (s.called (.getIpForwardTable2 family)).updateCapturedRoutes api classes family table
  else s

def answers (s : MonitorState luid) : Os where
  delete row := s.answer api (.deleteIpForwardEntry2 row)
  create row := s.answer api (.createIpForwardEntry2 row)

def addExclusionRoute (ip : IPAddress) (table : Table) : Action (MonitorState luid) := fun s =>
  if classes.isSpecial ip.address then (true, s)
  else if ip ∈ s.exclusionRoutes then (true, s)
  else
    let outcome := updateExclusionRoute luid s.interfaceMetrics (s.answers api) table.rows (exclusionRow ip)
    -- a new row has no interface yet, so there is no call but the one that creates it
    let s' := outcome.calls.foldl (perform api) s
    if outcome.result then (true, { s' with exclusionRoutes := s'.exclusionRoutes.insert ip outcome.data })
    else (false, s')

def removeAdded (s : MonitorState luid) (ip : IPAddress) : MonitorState luid :=
  match s.exclusionRoutes.lookup ip with
  | none => s
  | some data =>
    if data.interfaceLuid = 0 then { s with exclusionRoutes := s.exclusionRoutes.erase ip }
    else
      let s' := s.perform api (.deleteIpForwardEntry2 data)
      if (s.answers api).Refuses (.deleteIpForwardEntry2 data) then
        { s' with exclusionRoutes := (s.exclusionRoutes.erase ip).insert ip data }
      else { s' with exclusionRoutes := s.exclusionRoutes.erase ip }

end MonitorState

end TunnelCore.RouteMonitor
