import TunnelCore.RouteMonitor.Rows
import TunnelCore.Library.Runs

namespace TunnelCore.RouteMonitor

open TunnelCore.Daemon (QHostAddress IPAddress)

/-- The classes of addresses that are never routed into the tunnel, as Qt tells them. -/
structure HostClasses where
  isLoopback : QHostAddress → Bool
  isBroadcast : QHostAddress → Bool
  isLinkLocal : QHostAddress → Bool
  isMulticast : QHostAddress → Bool

def HostClasses.isSpecial (classes : HostClasses) (address : QHostAddress) : Bool :=
  classes.isLoopback address || classes.isBroadcast address || classes.isLinkLocal address ||
    classes.isMulticast address

structure Route where
  interfaceLuid : UInt64
  destinationPrefix : IpAddressPrefix
  nextHop : SockaddrInet
deriving DecidableEq

def Row.route (row : Row) : Route := ⟨row.interfaceLuid, row.destinationPrefix, row.nextHop⟩

/-- `MIB_IPFORWARD_TABLE2`, whose number of entries is a `ULONG`. -/
structure Table where
  rows : List Row
  numEntries : rows.length < 2 ^ 32

/-- The members of `WindowsRouteMonitor` that concern captured routes, with the routes the system
has; `exclusionRoutes` lists the rows of the map. -/
structure Monitor where
  luid : UInt64
  defaultRouteCapture : Bool
  exclusionRoutes : List Row
  clonedRoutes : AList (fun _ : IPAddress => Row)
  os : Finset Route

namespace Monitor

def isRouteExcluded (m : Monitor) (dest : IpAddressPrefix) : Bool :=
  m.exclusionRoutes.any fun row => row.destinationPrefix.routeContainsDest dest

def clonedRow (m : Monitor) (row : Row) : Row where
  interfaceLuid := m.luid
  destinationPrefix := row.destinationPrefix
  nextHop := .blank row.destinationPrefix.family
  protocol := mibIpprotoNetmgmt
  metric := 0
  age := 0

end Monitor

def IpAddressPrefix.key (p : IpAddressPrefix) : IPAddress := ⟨p.prefixToAddress, p.prefixLength⟩

def Row.key (row : Row) : IPAddress := row.destinationPrefix.key

def Row.counted (data : Row) : Row := { data with age := data.age + 1 }

section

variable (classes : HostClasses)

def markRow (m : Monitor) (row : Row) : Monitor :=
  if row.interfaceLuid = m.luid then m
  else if row.destinationPrefix.prefixLength = 0 then m
  else if row.protocol = mibIpprotoNetmgmt ∧ row.metric = exclusionRouteMetric then m
  else if m.isRouteExcluded row.destinationPrefix then m
  else if classes.isSpecial row.destinationPrefix.prefixToAddress then m
  else
    match m.clonedRoutes.lookup row.key with
    | some data => { m with clonedRoutes := m.clonedRoutes.insert row.key data.counted }
    | none =>
      let data := m.clonedRow row
      { m with
        clonedRoutes := m.clonedRoutes.insert row.key data.counted
        os := insert data.route m.os }

def sweepKey (family : Family) (m : Monitor) (key : IPAddress) : Monitor :=
  match m.clonedRoutes.lookup key with
  | none => m
  | some data =>
    if data.age > 0 then { m with clonedRoutes := m.clonedRoutes.insert key { data with age := 0 } }
    else if family ≠ .unspec ∧ data.destinationPrefix.family ≠ family then m
    else { m with clonedRoutes := m.clonedRoutes.erase key, os := m.os.erase data.route }

def sweep (family : Family) (m : Monitor) : Monitor := m.clonedRoutes.keys.foldl (sweepKey family) m

def updateCapturedRoutes (family : Family) (table : Table) (m : Monitor) : Monitor :=
  if m.defaultRouteCapture then sweep family (table.rows.foldl (markRow classes) m) else m

def Captures (m : Monitor) (row : Row) : Prop :=
  row.interfaceLuid ≠ m.luid ∧ row.destinationPrefix.prefixLength ≠ 0 ∧
    ¬(row.protocol = mibIpprotoNetmgmt ∧ row.metric = exclusionRouteMetric) ∧
    (∀ exclusion ∈ m.exclusionRoutes, ¬exclusion.destinationPrefix.Covers row.destinationPrefix) ∧
    classes.isSpecial row.destinationPrefix.prefixToAddress = false

instance (m : Monitor) (row : Row) : Decidable (Captures classes m row) := inferInstanceAs (Decidable (_ ∧ _))

def hit (m : Monitor) (key : IPAddress) (row : Row) : Bool := Captures classes m row ∧ row.key = key

def hits (m : Monitor) (key : IPAddress) (rows : List Row) : UInt32 := .ofNat (rows.countP (hit classes m key))

/-- What the first loop leaves at a key: a clone, old or of the first row it met, with its count. -/
def markedRow (m : Monitor) (rows : List Row) (key : IPAddress) : Option Row :=
  ((m.clonedRoutes.lookup key).or ((rows.find? (hit classes m key)).map m.clonedRow)).map
    fun data => { data with age := hits classes m key rows }

end

section Mark

variable {classes : HostClasses} {m : Monitor} {row : Row}

theorem isRouteExcluded_iff {dest : IpAddressPrefix} : m.isRouteExcluded dest = false ↔
    ∀ exclusion ∈ m.exclusionRoutes, ¬exclusion.destinationPrefix.Covers dest := by
  simp only [Monitor.isRouteExcluded, List.any_eq_false, IpAddressPrefix.routeContainsDest_iff]

theorem markRow_of_not_captures (h : ¬Captures classes m row) : markRow classes m row = m := by
  rw [markRow]
  split
  · rfl
  next hluid =>
  split
  · rfl
  next hdefault =>
  split
  · rfl
  next hown =>
  split
  · rfl
  next hexcluded =>
  split
  · rfl
  next hspecial =>
  rw [Bool.not_eq_true] at hexcluded hspecial
  exact absurd ⟨hluid, hdefault, hown, isRouteExcluded_iff.mp hexcluded, hspecial⟩ h

theorem markRow_of_captures (h : Captures classes m row) : markRow classes m row =
    { m with
      clonedRoutes := m.clonedRoutes.insert row.key ((m.clonedRoutes.lookup row.key).getD (m.clonedRow row)).counted
      os := if row.key ∈ m.clonedRoutes then m.os else insert (m.clonedRow row).route m.os } := by
  obtain ⟨hluid, hdefault, hown, hexcluded, hspecial⟩ := h
  rw [markRow, if_neg hluid, if_neg hdefault, if_neg hown, isRouteExcluded_iff.mpr hexcluded, hspecial]
  cases hlook : m.clonedRoutes.lookup row.key with
  | none => simp [AList.lookup_eq_none.mp hlook]
  | some data =>
    have hmem : row.key ∈ m.clonedRoutes := AList.lookup_isSome.mp (by rw [hlook]; rfl)
    simp [hmem]

/-- Between calls every count is zero and every clone stands at its destination. -/
def Settled (m : Monitor) : Prop :=
  ∀ key row, m.clonedRoutes.lookup key = some row → row.age = 0 ∧ row.key = key

def Installed (m : Monitor) : Prop := ∀ key row, m.clonedRoutes.lookup key = some row → row.route ∈ m.os

structure Marked (classes : HostClasses) (m : Monitor) (rows : List Row) (m' : Monitor) : Prop where
  luid : m'.luid = m.luid
  capture : m'.defaultRouteCapture = m.defaultRouteCapture
  exclusionRoutes : m'.exclusionRoutes = m.exclusionRoutes
  lookup : ∀ key, m'.clonedRoutes.lookup key = markedRow classes m rows key
  os : ∀ route, route ∈ m'.os ↔
    route ∈ m.os ∨ ∃ key, m.clonedRoutes.lookup key = none ∧ (markedRow classes m rows key).map Row.route = some route

theorem markedRow_nil (hm : Settled m) (key : IPAddress) : markedRow classes m [] key = m.clonedRoutes.lookup key := by
  rw [markedRow, List.find?_nil, Option.map_none, Option.or_none]
  cases hlook : m.clonedRoutes.lookup key with
  | none => rfl
  | some data =>
    have hage : data.age = hits classes m key [] := (hm key data hlook).1
    rw [Option.map_some, ← hage]

variable {rows : List Row} {key : IPAddress}

theorem markedRow_concat_of_miss (h : hit classes m key row = false) :
    markedRow classes m (rows ++ [row]) key = markedRow classes m rows key := by
  have hhits : hits classes m key (rows ++ [row]) = hits classes m key rows := by
    rw [hits, hits, List.countP_append, List.countP_singleton, h]
    rfl
  rw [markedRow, markedRow, hhits, List.find?_append, List.find?_singleton, h]
  simp

theorem markedRow_concat_of_hit (h : hit classes m key row = true) :
    markedRow classes m (rows ++ [row]) key =
      some ((markedRow classes m rows key).getD (m.clonedRow row)).counted := by
  have hhits : hits classes m key (rows ++ [row]) = hits classes m key rows + 1 := by
    rw [hits, hits, List.countP_append, List.countP_singleton, h, if_pos rfl, UInt32.ofNat_add]
    rfl
  rw [markedRow, markedRow, hhits, List.find?_append, List.find?_singleton, h]
  cases m.clonedRoutes.lookup key with
  | some data => rfl
  | none =>
    cases hfind : rows.find? (hit classes m key) with
    | some first => rfl
    | none =>
      have hzero : hits classes m key rows = 0 := by
        rw [hits, List.countP_eq_zero.mpr fun r hr => List.find?_eq_none.mp hfind r hr]
        rfl
      rw [hzero]
      rfl

theorem lookup_of_markedRow_none (h : markedRow classes m rows key = none) :
    m.clonedRoutes.lookup key = none := by
  rw [markedRow, Option.map_eq_none_iff, Option.or_eq_none_iff] at h
  exact h.1

theorem markedRow_route_concat (hc : Captures classes m row) (key : IPAddress) :
    (markedRow classes m (rows ++ [row]) key).map Row.route =
      if row.key = key then some (((markedRow classes m rows key).getD (m.clonedRow row)).route)
      else (markedRow classes m rows key).map Row.route := by
  split
  next hkey =>
    rw [markedRow_concat_of_hit (decide_eq_true ⟨hc, hkey⟩)]
    rfl
  next hkey => rw [markedRow_concat_of_miss (decide_eq_false fun h => hkey h.2)]

theorem new_route_iff (hc : Captures classes m row) (route : Route) :
    (∃ key, m.clonedRoutes.lookup key = none ∧ (markedRow classes m (rows ++ [row]) key).map Row.route = some route) ↔
      (∃ key, m.clonedRoutes.lookup key = none ∧ (markedRow classes m rows key).map Row.route = some route) ∨
        markedRow classes m rows row.key = none ∧ route = (m.clonedRow row).route := by
  simp only [markedRow_route_concat hc]
  cases hmarked : markedRow classes m rows row.key with
  | some data =>
    rw [or_iff_left fun h => absurd h.1 (Option.some_ne_none data)]
    refine exists_congr fun key => and_congr_right fun _ => ?_
    split
    next hkey =>
      subst hkey
      rw [hmarked]
      rfl
    · rfl
  | none =>
    constructor
    · rintro ⟨key, hnone, hnew⟩
      split at hnew
      next hkey =>
        subst hkey
        rw [hmarked] at hnew
        exact .inr ⟨rfl, (Option.some.inj hnew).symm⟩
      · exact .inl ⟨key, hnone, hnew⟩
    · rintro (⟨key, hnone, hold⟩ | ⟨-, rfl⟩)
      · refine ⟨key, hnone, ?_⟩
        rw [if_neg, hold]
        rintro rfl
        simp [hmarked] at hold
      · refine ⟨row.key, lookup_of_markedRow_none hmarked, ?_⟩
        rw [if_pos rfl, hmarked]
        rfl

theorem Marked.step {m' : Monitor} (h : Marked classes m rows m') (row : Row) :
    Marked classes m (rows ++ [row]) (markRow classes m' row) := by
  have hcap : Captures classes m' row ↔ Captures classes m row := by
    rw [Captures, Captures, h.luid, h.exclusionRoutes]
  by_cases hc : Captures classes m row
  · have hclone : m'.clonedRow row = m.clonedRow row := by
      rw [Monitor.clonedRow, Monitor.clonedRow, h.luid]
    rw [markRow_of_captures (hcap.mpr hc), hclone]
    refine ⟨h.luid, h.capture, h.exclusionRoutes, fun key => ?_, fun route => ?_⟩
    · by_cases hkey : row.key = key
      · subst hkey
        rw [AList.lookup_insert, h.lookup, markedRow_concat_of_hit (decide_eq_true ⟨hc, rfl⟩)]
      · rw [AList.lookup_insert_ne (Ne.symm hkey), h.lookup,
          markedRow_concat_of_miss (decide_eq_false fun hh => hkey hh.2)]
    · rw [new_route_iff hc, ← or_assoc, ← h.os, ← h.lookup, AList.lookup_eq_none]
      change route ∈ (if row.key ∈ m'.clonedRoutes then m'.os else insert (m.clonedRow row).route m'.os) ↔ _
      split
      next hmem => rw [or_iff_left fun hnew => hnew.1 hmem]
      next hmem => rw [Finset.mem_insert, and_iff_right hmem, or_comm]
  · have hmiss : ∀ key, hit classes m key row = false := fun key => decide_eq_false fun hh => hc hh.1
    rw [markRow_of_not_captures (mt hcap.mp hc)]
    refine ⟨h.luid, h.capture, h.exclusionRoutes, fun key => ?_, fun route => ?_⟩
    · rw [markedRow_concat_of_miss (hmiss key), h.lookup]
    · simp only [markedRow_concat_of_miss (hmiss _)]
      exact h.os route

theorem marked_foldl (hm : Settled m) (rows : List Row) : Marked classes m rows (rows.foldl (markRow classes) m) := by
  induction rows using List.reverseRecOn with
  | nil =>
    refine ⟨rfl, rfl, rfl, fun key => (markedRow_nil hm key).symm, fun route => ?_⟩
    refine (or_iff_left ?_).symm
    rintro ⟨key, hnone, hroute⟩
    rw [markedRow_nil hm, hnone] at hroute
    cases hroute
  | append_singleton rows row ih =>
    rw [List.foldl_concat]
    exact ih.step row

end Mark

section Sweep

def OfFamily (family : Family) (p : IpAddressPrefix) : Prop := family = .unspec ∨ p.family = family

instance (family : Family) (p : IpAddressPrefix) : Decidable (OfFamily family p) := inferInstanceAs (Decidable (_ ∨ _))

def Unused (family : Family) (data : Row) : Prop := data.age = 0 ∧ OfFamily family data.destinationPrefix

instance (family : Family) (data : Row) : Decidable (Unused family data) := inferInstanceAs (Decidable (_ ∧ _))

def swept (family : Family) (data : Row) : Option Row := if Unused family data then none else some { data with age := 0 }

variable {family : Family}

/-- The second loop without its order: the keys it has been at are swept. -/
structure Swept (family : Family) (m : Monitor) (keys : List IPAddress) (m' : Monitor) : Prop where
  capture : m'.defaultRouteCapture = m.defaultRouteCapture
  lookup : ∀ key, m'.clonedRoutes.lookup key =
    if key ∈ keys then (m.clonedRoutes.lookup key).bind (swept family) else m.clonedRoutes.lookup key
  os : ∀ route, route ∈ m'.os ↔ route ∈ m.os ∧
    ∀ key ∈ keys, ∀ data, m.clonedRoutes.lookup key = some data → Unused family data → data.route ≠ route

variable {key : IPAddress}

theorem sweepKey_of_some {m : Monitor} {data : Row} (h : m.clonedRoutes.lookup key = some data) :
    sweepKey family m key =
      if Unused family data then { m with clonedRoutes := m.clonedRoutes.erase key, os := m.os.erase data.route }
      else if data.age > 0 then { m with clonedRoutes := m.clonedRoutes.insert key { data with age := 0 } }
      else m := by
  have hage : data.age > 0 ↔ data.age ≠ 0 := UInt32.pos_iff_ne_zero
  rw [sweepKey, h]
  simp only [hage, Unused, OfFamily]
  by_cases h0 : data.age = 0
  · simp only [h0, ne_eq, not_true_eq_false, if_false, true_and]
    by_cases hf : family = .unspec ∨ data.destinationPrefix.family = family
    · rw [if_pos hf, if_neg fun hc => hf.elim hc.1 hc.2]
    · rw [if_neg hf, if_pos (not_or.mp hf)]
  · simp [h0]

theorem sweepKey_of_none {m : Monitor} (h : m.clonedRoutes.lookup key = none) :
    sweepKey family m key = m := by
  rw [sweepKey, h]

theorem sweepKey_lookup (m : Monitor) (key k : IPAddress) : (sweepKey family m key).clonedRoutes.lookup k =
    if k = key then (m.clonedRoutes.lookup k).bind (swept family) else m.clonedRoutes.lookup k := by
  cases hlook : m.clonedRoutes.lookup key with
  | none =>
    rw [sweepKey_of_none hlook]
    split
    next hk => rw [hk, hlook, Option.bind_none]
    · rfl
  | some data =>
    rw [sweepKey_of_some hlook]
    split
    next hunused =>
      split
      next hk => rw [hk, AList.lookup_erase, hlook, Option.bind_some, swept, if_pos hunused]
      next hk => exact AList.lookup_erase_ne hk
    next hused =>
      split
      · split
        next hk => rw [hk, AList.lookup_insert, hlook, Option.bind_some, swept, if_neg hused]
        next hk => exact AList.lookup_insert_ne hk
      next hage =>
        have hzero : data.age = 0 := not_not.mp (mt UInt32.pos_iff_ne_zero.mpr hage)
        split
        next hk => rw [hk, hlook, Option.bind_some, swept, if_neg hused, ← hzero]
        · rfl

theorem mem_sweepKey_os (m : Monitor) (key : IPAddress) (route : Route) : route ∈ (sweepKey family m key).os ↔
    route ∈ m.os ∧ ∀ data, m.clonedRoutes.lookup key = some data → Unused family data → data.route ≠ route := by
  cases hlook : m.clonedRoutes.lookup key with
  | none => simp [sweepKey_of_none hlook]
  | some data =>
    rw [sweepKey_of_some hlook]
    simp only [Option.some.injEq, forall_eq']
    split
    next hunused => rw [forall_prop_of_true hunused, Finset.mem_erase, and_comm, ne_comm]
    next hused =>
      rw [and_iff_left fun hunused => absurd hunused hused]
      split <;> rfl

theorem sweepKey_capture (family : Family) (m : Monitor) (key : IPAddress) :
    (sweepKey family m key).defaultRouteCapture = m.defaultRouteCapture := by
  rw [sweepKey]
  split
  · rfl
  · split
    · rfl
    · split <;> rfl

theorem Swept.step {m m' : Monitor} {keys : List IPAddress} (h : Swept family m keys m')
    (hkey : key ∉ keys) : Swept family m (keys ++ [key]) (sweepKey family m' key) := by
  refine ⟨(sweepKey_capture family m' key).trans h.capture, fun k => ?_, fun route => ?_⟩
  · rw [sweepKey_lookup, h.lookup]
    by_cases hk : k = key
    · subst hk
      simp [hkey]
    · simp [hk]
  · have hlook : m'.clonedRoutes.lookup key = m.clonedRoutes.lookup key := by
      rw [h.lookup, if_neg hkey]
    rw [mem_sweepKey_os, h.os, hlook, List.forall_mem_append, List.forall_mem_singleton, and_assoc]

theorem swept_foldl (m : Monitor) {keys : List IPAddress} (hk : keys.Nodup) :
    Swept family m keys (keys.foldl (sweepKey family) m) := by
  induction keys using List.reverseRecOn with
  | nil => exact ⟨rfl, fun key => (if_neg List.not_mem_nil).symm, fun route => by simp⟩
  | append_singleton keys key ih =>
    obtain ⟨hkeys, -, hdisj⟩ := List.nodup_append.mp hk
    rw [List.foldl_concat]
    exact (ih hkeys).step fun hmem => hdisj key hmem key (.head _) rfl

end Sweep

section Update

variable {classes : HostClasses} {family : Family} {table : Table} {m : Monitor} {key : IPAddress} {d : Row}

theorem hits_eq_zero_iff :
    hits classes m key table.rows = 0 ↔ ¬∃ row ∈ table.rows, Captures classes m row ∧ row.key = key := by
  have hlt : table.rows.countP (hit classes m key) < 2 ^ 32 := List.countP_le_length.trans_lt table.numEntries
  rw [hits, ← UInt32.toNat_inj, UInt32.toNat_ofNat', Nat.mod_eq_of_lt hlt]
  simp [List.countP_eq_zero, hit]

variable {rows : List Row}

theorem markedRow_cases (h : markedRow classes m rows key = some d) :
    (∃ data, m.clonedRoutes.lookup key = some data ∧ d = { data with age := hits classes m key rows }) ∨
    m.clonedRoutes.lookup key = none ∧ ∃ row ∈ rows, Captures classes m row ∧ row.key = key ∧
      d = { m.clonedRow row with age := hits classes m key rows } := by
  rw [markedRow] at h
  cases hlook : m.clonedRoutes.lookup key with
  | some data =>
    rw [hlook] at h
    exact .inl ⟨data, rfl, (Option.some.inj h).symm⟩
  | none =>
    rw [hlook, Option.none_or] at h
    cases hfind : rows.find? (hit classes m key) with
    | none => simp [hfind] at h
    | some row =>
      have hhit : hit classes m key row = true := List.find?_some hfind
      obtain ⟨hc, hkey⟩ := of_decide_eq_true hhit
      rw [hfind] at h
      exact .inr ⟨rfl, row, List.mem_of_find?_eq_some hfind, hc, hkey, (Option.some.inj h).symm⟩

theorem markedRow_age (h : markedRow classes m rows key = some d) : d.age = hits classes m key rows := by
  obtain ⟨data, -, rfl⟩ | ⟨-, row, -, -, -, rfl⟩ := markedRow_cases h <;> rfl

theorem markedRow_key (hm : Settled m) (h : markedRow classes m rows key = some d) : d.key = key := by
  obtain ⟨data, hlook, rfl⟩ | ⟨-, row, -, -, hkey, rfl⟩ := markedRow_cases h
  · exact (hm key data hlook).2
  · exact hkey

theorem exists_markedRow_of_captures {row : Row} (hrow : row ∈ rows) (hc : Captures classes m row) :
    ∃ d, markedRow classes m rows row.key = some d := by
  have hfind : (rows.find? (hit classes m row.key)).isSome :=
    List.find?_isSome.mpr ⟨row, hrow, decide_eq_true ⟨hc, rfl⟩⟩
  refine Option.isSome_iff_exists.mp ?_
  rw [markedRow, Option.isSome_map, Option.isSome_or, Option.isSome_map, hfind, Bool.or_true]

theorem swept_eq_some {row : Row} : swept family d = some row ↔ ¬Unused family d ∧ { d with age := 0 } = row := by
  rw [swept]
  split
  next h => simp [h]
  next h => simp [h]

theorem update_marked (classes : HostClasses) (family : Family) (table : Table) (hm : Settled m)
    (hcap : m.defaultRouteCapture = true) :
    ∃ marked, Marked classes m table.rows marked ∧
      Swept family marked marked.clonedRoutes.keys (updateCapturedRoutes classes family table m) := by
  refine ⟨_, marked_foldl hm table.rows, ?_⟩
  rw [updateCapturedRoutes, if_pos hcap]
  exact swept_foldl _ (AList.keys_nodup _)

theorem lookup_update (hm : Settled m) (hcap : m.defaultRouteCapture = true) (key : IPAddress) :
    (updateCapturedRoutes classes family table m).clonedRoutes.lookup key =
      (markedRow classes m table.rows key).bind (swept family) := by
  obtain ⟨marked, hmarked, hswept⟩ := update_marked classes family table hm hcap
  rw [hswept.lookup, ← hmarked.lookup]
  split
  · rfl
  next hkey => rw [AList.lookup_eq_none.mpr (mt AList.mem_keys.mp hkey), Option.bind_none]

theorem settled_update (hm : Settled m) (hcap : m.defaultRouteCapture = true) :
    Settled (updateCapturedRoutes classes family table m) := by
  intro key row hrow
  rw [lookup_update hm hcap] at hrow
  obtain ⟨d, hd, hs⟩ := Option.bind_eq_some_iff.mp hrow
  obtain ⟨-, rfl⟩ := swept_eq_some.mp hs
  have hkey : d.key = key := markedRow_key hm hd
  exact ⟨rfl, hkey⟩

theorem capture_update (hm : Settled m) (hcap : m.defaultRouteCapture = true) :
    (updateCapturedRoutes classes family table m).defaultRouteCapture = true := by
  obtain ⟨marked, hmarked, hswept⟩ := update_marked classes family table hm hcap
  exact (hswept.capture.trans hmarked.capture).trans hcap

theorem installed_update (hm : Settled m) (hcap : m.defaultRouteCapture = true) (hi : Installed m) :
    Installed (updateCapturedRoutes classes family table m) := by
  intro key row hrow
  rw [lookup_update hm hcap] at hrow
  obtain ⟨d, hd, hs⟩ := Option.bind_eq_some_iff.mp hrow
  obtain ⟨hused, rfl⟩ := swept_eq_some.mp hs
  obtain ⟨marked, hmarked, hswept⟩ := update_marked classes family table hm hcap
  rw [show ({ d with age := 0 } : Row).route = d.route from rfl, hswept.os, hmarked.os]
  constructor
  · obtain ⟨data, hlook, rfl⟩ | ⟨hnone, -⟩ := markedRow_cases hd
    · exact .inl (hi key data hlook)
    · exact .inr ⟨key, hnone, by rw [hd]; rfl⟩
  · -- a swept clone with the same route would stand at the same key
    intro key' _ data hdata hunused hroute
    rw [hmarked.lookup] at hdata
    have hkey : key' = key := by
      rw [← markedRow_key hm hdata, ← markedRow_key hm hd, Row.key, Row.key,
        show data.destinationPrefix = d.destinationPrefix from congrArg Route.destinationPrefix hroute]
    rw [hkey, hd] at hdata
    exact hused (Option.some.inj hdata ▸ hunused)

/-- The call's effect: the clones of its families are the captured destinations, and nothing of the
other family changes. -/
structure CapturesExactly (classes : HostClasses) (family : Family) (table : Table) (m m' : Monitor) : Prop where
  captured : ∀ key, (∃ row, m'.clonedRoutes.lookup key = some row ∧ OfFamily family row.destinationPrefix) ↔
    ∃ row ∈ table.rows, Captures classes m row ∧ row.key = key
  others : ∀ key row, ¬OfFamily family row.destinationPrefix →
    (m'.clonedRoutes.lookup key = some row ↔ m.clonedRoutes.lookup key = some row)
  otherRoutes : ∀ route, ¬OfFamily family route.destinationPrefix → (route ∈ m'.os ↔ route ∈ m.os)
  installed : Installed m → Installed m'

def hostFamily : QHostAddress → Family
  | .null => .unspec
  | .ipv4 _ => .inet
  | .ipv6 _ => .inet6

theorem hostFamily_key (row : Row) : hostFamily row.key.address = row.destinationPrefix.family := by
  change hostFamily row.destinationPrefix.prefixToAddress = row.destinationPrefix.address.family
  rw [IpAddressPrefix.prefixToAddress]
  cases row.destinationPrefix.address <;> rfl

theorem captured_iff (hm : Settled m) (hcap : m.defaultRouteCapture = true)
    (htable : ∀ row ∈ table.rows, OfFamily family row.destinationPrefix) (key : IPAddress) :
    (∃ row, (updateCapturedRoutes classes family table m).clonedRoutes.lookup key = some row ∧
      OfFamily family row.destinationPrefix) ↔ ∃ row ∈ table.rows, Captures classes m row ∧ row.key = key := by
  rw [lookup_update hm hcap]
  constructor
  · rintro ⟨row, hrow, hfam⟩
    obtain ⟨d, hd, hs⟩ := Option.bind_eq_some_iff.mp hrow
    obtain ⟨hused, rfl⟩ := swept_eq_some.mp hs
    by_contra hnone
    exact hused ⟨(markedRow_age hd).trans (hits_eq_zero_iff.mpr hnone), hfam⟩
  · rintro ⟨row, hrow, hc, rfl⟩
    obtain ⟨d, hd⟩ := exists_markedRow_of_captures hrow hc
    have hage : d.age ≠ 0 := by
      rw [markedRow_age hd]
      exact fun h0 => hits_eq_zero_iff.mp h0 ⟨row, hrow, hc, rfl⟩
    have hfam : d.destinationPrefix.family = row.destinationPrefix.family := by
      rw [← hostFamily_key, ← hostFamily_key, markedRow_key hm hd]
    refine ⟨{ d with age := 0 }, ?_, ?_⟩
    · rw [hd, Option.bind_some]
      exact swept_eq_some.mpr ⟨fun hunused => hage hunused.1, rfl⟩
    · exact (htable row hrow).imp_right hfam.trans

theorem others_iff (hm : Settled m) (hcap : m.defaultRouteCapture = true)
    (htable : ∀ row ∈ table.rows, OfFamily family row.destinationPrefix) {row : Row}
    (hrow : ¬OfFamily family row.destinationPrefix) :
    (updateCapturedRoutes classes family table m).clonedRoutes.lookup key = some row ↔
      m.clonedRoutes.lookup key = some row := by
  rw [lookup_update hm hcap]
  constructor
  · intro h
    obtain ⟨d, hd, hs⟩ := Option.bind_eq_some_iff.mp h
    obtain ⟨-, rfl⟩ := swept_eq_some.mp hs
    obtain ⟨data, hlook, rfl⟩ | ⟨-, first, hfirst, -, -, rfl⟩ := markedRow_cases hd
    · rw [hlook, ← (hm key data hlook).1]
    · exact absurd (htable first hfirst) hrow
  · intro h
    have hmarked : markedRow classes m table.rows key = some { row with age := hits classes m key table.rows } := by
      rw [markedRow, h]
      rfl
    rw [hmarked, Option.bind_some]
    refine swept_eq_some.mpr ⟨fun hunused => hrow hunused.2, ?_⟩
    rw [← (hm key row h).1]

theorem otherRoutes_iff (hm : Settled m) (hcap : m.defaultRouteCapture = true)
    (htable : ∀ row ∈ table.rows, OfFamily family row.destinationPrefix) {route : Route}
    (hroute : ¬OfFamily family route.destinationPrefix) :
    route ∈ (updateCapturedRoutes classes family table m).os ↔ route ∈ m.os := by
  obtain ⟨marked, hmarked, hswept⟩ := update_marked classes family table hm hcap
  rw [hswept.os, hmarked.os]
  constructor
  · rintro ⟨hold | ⟨key, hnone, hnew⟩, -⟩
    · exact hold
    · obtain ⟨d, hd, rfl⟩ := Option.map_eq_some_iff.mp hnew
      obtain ⟨data, hlook, -⟩ | ⟨-, first, hfirst, -, -, rfl⟩ := markedRow_cases hd
      · exact absurd hlook (by simp [hnone])
      · exact absurd (htable first hfirst) hroute
  · exact fun h => ⟨.inl h, fun key _ data _ hunused he => hroute (he ▸ hunused.2)⟩

theorem update_capturesExactly (hm : Settled m) (hcap : m.defaultRouteCapture = true)
    (htable : ∀ row ∈ table.rows, OfFamily family row.destinationPrefix) :
    CapturesExactly classes family table m (updateCapturedRoutes classes family table m) where
  captured := captured_iff hm hcap htable
  others _ _ := others_iff hm hcap htable
  otherRoutes _ := otherRoutes_iff hm hcap htable
  installed := installed_update hm hcap

end Update

/-- A call of `updateCapturedRoutes`, with the exclusion routes the monitor has at that time. -/
structure CaptureCall where
  family : Family
  table : Table
  exclusionRoutes : List Row

def CaptureCall.before (m : Monitor) (c : CaptureCall) : Monitor := { m with exclusionRoutes := c.exclusionRoutes }

def CaptureCall.after (classes : HostClasses) (m : Monitor) (c : CaptureCall) : Monitor :=
  updateCapturedRoutes classes c.family c.table (c.before m)

/-- Every call of any sequence leaves exactly the captured destinations cloned. -/
theorem captured_routes_exact (classes : HostClasses) {m : Monitor} (hm : Settled m)
    (hcap : m.defaultRouteCapture = true) {calls : List CaptureCall}
    (htables : ∀ c ∈ calls, ∀ row ∈ c.table.rows, OfFamily c.family row.destinationPrefix) :
    Along (CaptureCall.after classes)
      (fun m c => CapturesExactly classes c.family c.table (c.before m) (c.after classes m)) m calls := by
  induction calls generalizing m with
  | nil => trivial
  | cons c calls ih =>
    have htable := htables c (.head _)
    have hbefore : Settled (c.before m) := hm
    refine ⟨update_capturesExactly hbefore hcap htable, ?_⟩
    exact ih (settled_update hbefore hcap) (capture_update hbefore hcap) fun c hc => htables c (.tail _ hc)

def privateRow : Row where
  interfaceLuid := 5
  destinationPrefix := ⟨.inet 0 ⟨#[10, 0, 0, 0], rfl⟩, 8, by decide⟩
  nextHop := .blank .inet
  protocol := 2
  metric := 1
  age := 0

def capturing : Monitor where
  luid := 7
  defaultRouteCapture := true
  exclusionRoutes := []
  clonedRoutes := ∅
  os := ∅

def noClasses : HostClasses := ⟨fun _ => false, fun _ => false, fun _ => false, fun _ => false⟩

theorem captured_routes_exact_twice :
    Along (CaptureCall.after noClasses)
      (fun m c => CapturesExactly noClasses c.family c.table (c.before m) (c.after noClasses m)) capturing
      [⟨.inet, ⟨[privateRow, privateRow], by decide⟩, []⟩, ⟨.unspec, ⟨[], by decide⟩, []⟩] :=
  captured_routes_exact noClasses (fun _ _ h => by cases h) rfl (by decide)

end TunnelCore.RouteMonitor
