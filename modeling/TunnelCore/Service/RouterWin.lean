import TunnelCore.Service.RouterLinux

namespace TunnelCore.Service.RouterWin

/-- The fields of `MIB_IPFORWARDROW` that tell one route of the table from another. -/
structure Row where
  dest : BitVec 32
  mask : BitVec 32
  nextHop : BitVec 32
  ifIndex : Nat
deriving DecidableEq

/-- `accepts` are the rows that `CreateIpForwardEntry` takes when the table has no such row yet. -/
structure Host where
  qt : Daemon.Qt
  inetAddr : String → BitVec 32
  inetPton : String → BitVec 32
  accepts : Row → Bool

/-- The table of the system, and the multimap `m_ipForwardRows`. No function reads `owed`: it holds the rows of the
table that the router has created. -/
structure System where
  table : List Row
  ipForwardRows : List (String × Row)
  owed : List Row

inductive Status
  | noError
  | objectAlreadyExists
  | failed

section

variable (host : Host)

def createIpForwardEntry (row : Row) : System → Status × System := fun s =>
  if row ∈ s.table then (.objectAlreadyExists, s)
  else if host.accepts row then (.noError, { s with table := s.table ++ [row], owed := s.owed ++ [row] })
  else (.failed, s)

def deleteIpForwardEntry (row : Row) : Action System := fun s =>
  if row ∈ s.table then (true, { s with table := s.table.filter (· ≠ row), owed := s.owed.filter (· ≠ row) })
  else (false, s)

def forwardRow (gw : String) (ifIndex : Nat) (ipWithMask : String) : Row where
  dest := host.inetAddr (Router.ipAddressFromIpWithSubnet ipWithMask)
  mask := host.inetPton (Router.netMaskFromIpWithSubnet ipWithMask)
  nextHop := host.inetAddr gw
  ifIndex := ifIndex

def routeAdd (gw : String) (ifIndex : Nat) (ipWithMask : String) : Action System := fun s =>
  let ip := Router.ipAddressFromIpWithSubnet ipWithMask
  let row := forwardRow host gw ifIndex ipWithMask
  if !Connection.checkIPv4Format host.qt ip then (false, s)
  else
    match createIpForwardEntry host row s with
    | (.noError, s) => (true, { s with ipForwardRows := s.ipForwardRows ++ [(ip, row)] })
    | (.objectAlreadyExists, s) => (true, { s with ipForwardRows := s.ipForwardRows ++ [(ip, row)] })
    | (.failed, s) => (false, s)

/-- `readable` says whether `GetIpForwardTable` succeeds, and `bestInterface` is what `GetBestInterface` gives. -/
def routeAddList (gw : String) (readable : Bool) (bestInterface : Option Nat) (ips : List String) :
    System → Nat × System := fun s =>
  if !Connection.checkIPv4Format host.qt gw then (0, s)
  else if !readable then (0, s)
  else
    match bestInterface with
    | none => (0, s)
    | some ifIndex => Action.countSuccesses (routeAdd host gw ifIndex) ips s

def clearSavedRoutes (readable : Bool) : Action System := fun s =>
  if s.ipForwardRows = [] then (true, s)
  else if !readable then (false, s)
  else
    let (_, s) := Action.countSuccesses deleteIpForwardEntry (s.ipForwardRows.map Prod.snd) s
    (true, { s with ipForwardRows := [] })

def ipMap (ips : List String) : AList fun _ : BitVec 32 => String × BitVec 32 :=
  ips.foldl (fun map ipMask =>
    if ipMask = "" then map
    else if Router.ipAddressFromIpWithSubnet ipMask = "" then map
    else
      map.insert (host.inetAddr (Router.ipAddressFromIpWithSubnet ipMask))
        (ipMask, host.inetPton (Router.netMaskFromIpWithSubnet ipMask))) ∅

def listedAs (gw : String) (ips : List String) (row : Row) : Option String :=
  match (ipMap host ips).lookup row.dest with
  | some (ipMask, mask) => if mask = row.mask ∧ row.nextHop = host.inetAddr gw then some ipMask else none
  | none => none

/-- One turn of the loop over the rows of the table. The key that is taken out of the map is the whole text, where
`routeAdd` saves under the address in it. -/
def routeDelete (gw : String) (ips : List String) (row : Row) : Action System := fun s =>
  match listedAs host gw ips row with
  | none => (false, s)
  | some ipMask =>
    let (ok, s) := deleteIpForwardEntry row s
    if ok then (true, { s with ipForwardRows := s.ipForwardRows.filter (·.1 ≠ ipMask) }) else (false, s)

def routeDeleteList (gw : String) (readable : Bool) (ips : List String) : System → Nat × System := fun s =>
  if !readable then (0, s) else Action.countSuccesses (routeDelete host gw ips) s.table s

/-- Other programs have changed the table. A row that they have removed is not the router's any more. -/
def others (now : List Row) (s : System) : System := { s with table := now, owed := s.owed.filter (· ∈ now) }

inductive Event
  | routeAddList (gw : String) (readable : Bool) (bestInterface : Option Nat) (ips : List String)
  | routeDeleteList (gw : String) (readable : Bool) (ips : List String)
  | clearSavedRoutes (readable : Bool)
  | others (now : List Row)

def step (s : System) : Event → System
  | .routeAddList gw readable bestInterface ips => (RouterWin.routeAddList host gw readable bestInterface ips s).2
  | .routeDeleteList gw readable ips => (RouterWin.routeDeleteList host gw readable ips s).2
  | .clearSavedRoutes readable => (RouterWin.clearSavedRoutes readable s).2
  | .others now => RouterWin.others now s

/-- Other programs may change the table between two turns of the loop that adds, too. -/
inductive Call
  | routeAdd (gw : String) (ifIndex : Nat) (ipWithMask : String)
  | routeDeleteList (gw : String) (readable : Bool) (ips : List String)
  | clearSavedRoutes (readable : Bool)
  | others (now : List Row)

def call (s : System) : Call → System
  | .routeAdd gw ifIndex ipWithMask => (RouterWin.routeAdd host gw ifIndex ipWithMask s).2
  | .routeDeleteList gw readable ips => (RouterWin.routeDeleteList host gw readable ips s).2
  | .clearSavedRoutes readable => (RouterWin.clearSavedRoutes readable s).2
  | .others now => RouterWin.others now s

def Event.calls : Event → List Call
  | .routeAddList gw readable (some ifIndex) ips =>
    if Connection.checkIPv4Format host.qt gw && readable then ips.map (.routeAdd gw ifIndex) else []
  | .routeAddList _ _ none _ => []
  | .routeDeleteList gw readable ips => [.routeDeleteList gw readable ips]
  | .clearSavedRoutes readable => [.clearSavedRoutes readable]
  | .others now => [.others now]

def start (table : List Row) : System := ⟨table, [], []⟩

structure Clears (s : System) : Prop where
  removes : ∀ r ∈ s.owed, r ∉ (clearSavedRoutes true s).2.table
  keeps : ∀ r ∉ s.owed, r ∈ (clearSavedRoutes true s).2.table ↔ r ∈ s.table

def Exact (s : System) : Prop := ∀ r, (∃ ip, (ip, r) ∈ s.ipForwardRows) ↔ r ∈ s.owed

/-- A row that is there already is the router's own; of the rows that are owed, those go that lose their last entry; and
other programs leave them alone. -/
def Plain (s : System) : Call → Prop
  | .routeAdd gw ifIndex ipWithMask =>
    Connection.checkIPv4Format host.qt (Router.ipAddressFromIpWithSubnet ipWithMask) = true →
      forwardRow host gw ifIndex ipWithMask ∈ s.table → forwardRow host gw ifIndex ipWithMask ∈ s.owed
  | .routeDeleteList gw readable ips =>
    readable = true → ∀ r ∈ s.owed, (listedAs host gw ips r).isSome = true ↔
      ∀ ip, (ip, r) ∈ s.ipForwardRows → ∃ r' ∈ s.table, listedAs host gw ips r' = some ip
  | .clearSavedRoutes _ => True
  | .others now => ∀ r ∈ s.owed, r ∈ now

end

variable {host : Host}

section Deletion

theorem deletions (rows : List Row) (s : System) :
    (∀ r, r ∈ (Action.countSuccesses deleteIpForwardEntry rows s).2.table ↔ r ∈ s.table ∧ r ∉ rows) ∧
      ∀ r, r ∈ (Action.countSuccesses deleteIpForwardEntry rows s).2.owed ↔
        r ∈ s.owed ∧ ¬(r ∈ s.table ∧ r ∈ rows) := by
  induction rows generalizing s with
  | nil => simp [Action.countSuccesses]
  | cons first rows ih =>
    obtain ⟨htable, howed⟩ := ih (deleteIpForwardEntry first s).2
    refine ⟨fun r => (htable r).trans ?_, fun r => (howed r).trans ?_⟩
    all_goals
      rw [deleteIpForwardEntry]
      split
      · grind
      · grind

theorem mem_rows_iff {s : System} {r : Row} :
    r ∈ s.ipForwardRows.map Prod.snd ↔ ∃ ip, (ip, r) ∈ s.ipForwardRows := by simp

theorem clearSavedRoutes_table (s : System) (r : Row) :
    r ∈ (clearSavedRoutes true s).2.table ↔ r ∈ s.table ∧ ¬∃ ip, (ip, r) ∈ s.ipForwardRows := by
  rw [clearSavedRoutes]
  split
  next hempty => simp [hempty]
  · rw [← mem_rows_iff]
    exact (deletions (s.ipForwardRows.map Prod.snd) s).1 r

theorem clearSavedRoutes_owed (s : System) (r : Row) :
    r ∈ (clearSavedRoutes true s).2.owed ↔ r ∈ s.owed ∧ ¬(r ∈ s.table ∧ ∃ ip, (ip, r) ∈ s.ipForwardRows) := by
  rw [clearSavedRoutes]
  split
  next hempty => simp [hempty]
  · rw [← mem_rows_iff]
    exact (deletions (s.ipForwardRows.map Prod.snd) s).2 r

theorem clearSavedRoutes_rows (s : System) : (clearSavedRoutes true s).2.ipForwardRows = [] := by
  rw [clearSavedRoutes]
  split
  · assumption
  · rfl

theorem routeDeletes (host : Host) (gw : String) (ips : List String) (rows : List Row) (s : System) :
    (∀ r, r ∈ (Action.countSuccesses (routeDelete host gw ips) rows s).2.table ↔
        r ∈ s.table ∧ ¬(r ∈ rows ∧ (listedAs host gw ips r).isSome = true)) ∧
      (∀ r, r ∈ (Action.countSuccesses (routeDelete host gw ips) rows s).2.owed ↔
        r ∈ s.owed ∧ ¬(r ∈ s.table ∧ r ∈ rows ∧ (listedAs host gw ips r).isSome = true)) ∧
      ∀ ip r, (ip, r) ∈ (Action.countSuccesses (routeDelete host gw ips) rows s).2.ipForwardRows ↔
        (ip, r) ∈ s.ipForwardRows ∧ ¬∃ r' ∈ rows, r' ∈ s.table ∧ listedAs host gw ips r' = some ip := by
  induction rows generalizing s with
  | nil => simp [Action.countSuccesses]
  | cons first rows ih =>
    obtain ⟨htable, howed, hrows⟩ := ih (routeDelete host gw ips first s).2
    refine ⟨fun r => (htable r).trans ?_, fun r => (howed r).trans ?_, fun ip r => (hrows ip r).trans ?_⟩
    all_goals
      rw [routeDelete]
      split
      · grind
      · rw [deleteIpForwardEntry]
        grind

/-- Other programs may have left any table: what is wanted comes about for all of them if and only if the saved rows are
exact. -/
theorem clears_iff_exact {s : System} (h : ∀ r ∈ s.owed, r ∈ s.table) :
    (∀ now, Clears (others now s)) ↔ Exact s := by
  constructor
  · intro hall r
    -- a table with everything that is owed or saved
    have hboth := hall (s.table ++ s.ipForwardRows.map Prod.snd)
    have hmem {r : Row} (hr : (∃ ip, (ip, r) ∈ s.ipForwardRows) ∨ r ∈ s.owed) :
        r ∈ s.table ++ s.ipForwardRows.map Prod.snd := by
      rcases hr with hr | hr
      · exact List.mem_append_right _ (mem_rows_iff.mpr hr)
      · exact List.mem_append_left _ (h r hr)
    refine ⟨fun hr => ?_, fun hr => ?_⟩
    · by_contra howed
      have hkept := (hboth.keeps r fun hin => howed (List.mem_filter.mp hin).1).mpr (hmem (.inl hr))
      exact ((clearSavedRoutes_table _ r).mp hkept).2 hr
    · by_contra hsaved
      refine hboth.removes r (List.mem_filter.mpr ⟨hr, by simpa using hmem (.inr hr)⟩) ?_
      exact (clearSavedRoutes_table _ r).mpr ⟨hmem (.inr hr), hsaved⟩
  · intro hexact now
    refine ⟨fun r hr hleft => ?_, fun r hr => ?_⟩
    · exact ((clearSavedRoutes_table _ r).mp hleft).2 ((hexact r).mpr (List.mem_filter.mp hr).1)
    · rw [clearSavedRoutes_table]
      refine and_iff_left_of_imp fun hnow hsaved => ?_
      exact hr (List.mem_filter.mpr ⟨(hexact r).mp hsaved, decide_eq_true hnow⟩)

end Deletion

section Runs

variable {s : System}

theorem owed_call (h : ∀ r ∈ s.owed, r ∈ s.table) (c : Call) :
    ∀ r ∈ (call host s c).owed, r ∈ (call host s c).table := by
  intro r hr
  cases c with
  | routeAdd gw ifIndex ipWithMask =>
    revert hr
    simp only [call, routeAdd, createIpForwardEntry]
    grind
  | routeDeleteList gw readable ips =>
    cases readable with
    | false => exact h r hr
    | true =>
      obtain ⟨htable, howed, -⟩ := routeDeletes host gw ips s.table s
      have hbefore := (howed r).mp hr
      exact (htable r).mpr ⟨h r hbefore.1, fun hgone => hbefore.2 ⟨h r hbefore.1, hgone⟩⟩
  | clearSavedRoutes readable =>
    cases readable with
    | false =>
      revert hr
      simp only [call, clearSavedRoutes]
      grind
    | true =>
      have hbefore := (clearSavedRoutes_owed s r).mp hr
      exact (clearSavedRoutes_table s r).mpr
        ⟨h r hbefore.1, fun hsaved => hbefore.2 ⟨h r hbefore.1, hsaved⟩⟩
  | others now => exact of_decide_eq_true (List.mem_filter.mp hr).2

theorem owed_run (table : List Row) (calls : List Call) :
    ∀ r ∈ (calls.foldl (call host) (start table)).owed, r ∈ (calls.foldl (call host) (start table)).table := by
  induction calls using List.reverseRecOn with
  | nil => exact fun r hr => absurd hr List.not_mem_nil
  | append_singleton past c ih =>
    rw [List.foldl_append]
    exact owed_call ih c

theorem exact_routeAdd_iff (h : Exact s) (gw : String) (ifIndex : Nat) (ipWithMask : String) :
    Exact (call host s (.routeAdd gw ifIndex ipWithMask)) ↔ Plain host s (.routeAdd gw ifIndex ipWithMask) := by
  simp only [call, Plain, routeAdd, createIpForwardEntry]
  split
  next hinvalid => exact iff_of_true h fun hvalid => absurd hinvalid (by simp [hvalid])
  next hvalid =>
    rw [imp_iff_right (by simpa using hvalid)]
    by_cases hmem : forwardRow host gw ifIndex ipWithMask ∈ s.table
    · simp only [if_pos hmem, imp_iff_right hmem, Exact, List.mem_append, List.mem_singleton]
      constructor
      · intro hall
        exact (hall _).mp ⟨_, .inr rfl⟩
      · intro howed r
        refine ⟨?_, fun hr => ?_⟩
        · rintro ⟨ip, hr | hr⟩
          · exact (h r).mp ⟨ip, hr⟩
          · rw [(Prod.mk.inj hr).2]
            exact howed
        · obtain ⟨ip, hip⟩ := (h r).mpr hr
          exact ⟨ip, .inl hip⟩
    · refine iff_of_true ?_ fun hin => absurd hin hmem
      rw [if_neg hmem]
      by_cases haccepts : host.accepts (forwardRow host gw ifIndex ipWithMask) = true
      · simp only [if_pos haccepts, Exact, List.mem_append, List.mem_singleton]
        intro r
        rw [← h r]
        constructor
        · rintro ⟨ip, hr | hr⟩
          · exact .inl ⟨ip, hr⟩
          · exact .inr (Prod.mk.inj hr).2
        · rintro (⟨ip, hr⟩ | rfl)
          · exact ⟨ip, .inl hr⟩
          · exact ⟨_, .inr rfl⟩
      · rw [if_neg haccepts]
        exact h

theorem exact_routeDeleteList_iff (h : Exact s) (hs : ∀ r ∈ s.owed, r ∈ s.table) (gw : String)
    (readable : Bool) (ips : List String) :
    Exact (call host s (.routeDeleteList gw readable ips)) ↔ Plain host s (.routeDeleteList gw readable ips) := by
  cases readable with
  | false => exact iff_of_true h fun hreadable => absurd hreadable Bool.false_ne_true
  | true =>
    obtain ⟨-, howed, hrows⟩ := routeDeletes host gw ips s.table s
    have hsaved (r : Row) :
        (∃ ip, (ip, r) ∈ (call host s (.routeDeleteList gw true ips)).ipForwardRows) ↔
          ¬∀ ip, (ip, r) ∈ s.ipForwardRows → ∃ r' ∈ s.table, listedAs host gw ips r' = some ip := by
      push Not
      refine exists_congr fun ip => (hrows ip r).trans (and_congr_right fun _ => ?_)
      grind
    have hleft (r : Row) (hr : r ∈ s.owed) :
        r ∈ (call host s (.routeDeleteList gw true ips)).owed ↔ ¬(listedAs host gw ips r).isSome = true := by
      refine (howed r).trans ?_
      simp [hr, hs r hr]
    rw [Plain, imp_iff_right rfl, Exact]
    refine forall_congr' fun r => ?_
    by_cases hr : r ∈ s.owed
    · rw [hsaved, hleft r hr, imp_iff_right hr, not_iff_not]
      exact iff_comm
    · refine iff_of_true ⟨fun ⟨ip, hip⟩ => ?_, fun hin => ?_⟩ fun hin => absurd hin hr
      · exact absurd ((h r).mp ⟨ip, ((hrows ip r).mp hip).1⟩) hr
      · exact absurd ((howed r).mp hin).1 hr

theorem exact_clearSavedRoutes (h : Exact s) (hs : ∀ r ∈ s.owed, r ∈ s.table) (readable : Bool) :
    Exact (clearSavedRoutes readable s).2 := by
  cases readable with
  | false =>
    rw [clearSavedRoutes]
    split <;> exact h
  | true =>
    intro r
    refine iff_of_false (fun ⟨ip, hip⟩ => ?_) fun hr => ?_
    · rw [clearSavedRoutes_rows] at hip
      exact absurd hip List.not_mem_nil
    · obtain ⟨howed, hleft⟩ := (clearSavedRoutes_owed s r).mp hr
      exact hleft ⟨hs r howed, (h r).mpr howed⟩

theorem exact_others_iff (h : Exact s) (now : List Row) :
    Exact (others now s) ↔ ∀ r ∈ s.owed, r ∈ now := by
  have howed (r : Row) : r ∈ (others now s).owed ↔ r ∈ s.owed ∧ r ∈ now := by simp [others]
  refine forall_congr' fun r => ?_
  rw [howed]
  exact (iff_congr (h r) Iff.rfl).trans iff_self_and

theorem exact_call_iff (h : Exact s) (hs : ∀ r ∈ s.owed, r ∈ s.table) (c : Call) :
    Exact (call host s c) ↔ Plain host s c := by
  cases c with
  | routeAdd gw ifIndex ipWithMask => exact exact_routeAdd_iff h gw ifIndex ipWithMask
  | routeDeleteList gw readable ips => exact exact_routeDeleteList_iff h hs gw readable ips
  | clearSavedRoutes readable => exact iff_of_true (exact_clearSavedRoutes h hs readable) trivial
  | others now => exact exact_others_iff h now

theorem step_eq_calls (s : System) (e : Event) : step host s e = (e.calls host).foldl (call host) s := by
  cases e with
  | routeAddList gw readable bestInterface ips =>
    cases bestInterface with
    | none =>
      rw [step, routeAddList]
      split
      · rfl
      · split <;> rfl
    | some ifIndex =>
      rw [step, routeAddList, Event.calls]
      cases Connection.checkIPv4Format host.qt gw with
      | false => rfl
      | true =>
        cases readable with
        | false => rfl
        | true =>
          change _ = (ips.map (Call.routeAdd gw ifIndex)).foldl (call host) s
          rw [List.foldl_map]
          exact Action.countSuccesses_eq_foldl ..
  | routeDeleteList gw readable ips => rfl
  | clearSavedRoutes readable => rfl
  | others now => rfl

/-- The events are runs of single calls. After each call of such a run, `clearSavedRoutes` would do what is wanted on
whatever table other programs leave, if and only if all calls so far were plain. -/
theorem savedRoutes_exact_iff (host : Host) (table : List Row) :
    (∀ events : List Event, events.foldl (step host) (start table) =
        (events.flatMap (Event.calls host)).foldl (call host) (start table)) ∧
      ∀ calls : List Call,
        (∀ past, past <+: calls → ∀ now, Clears (others now (past.foldl (call host) (start table)))) ↔
          Along (call host) (Plain host) (start table) calls := by
  refine ⟨fun events => ?_, fun calls => ?_⟩
  · rw [List.foldl_flatMap]
    congr 1
    funext s e
    exact step_eq_calls s e
  · have hstart : Exact (start table) := fun r =>
      iff_of_false (fun ⟨ip, hip⟩ => absurd hip List.not_mem_nil) List.not_mem_nil
    rw [← forall_prefix_iff_along hstart fun past c h => exact_call_iff h (owed_run table past) c]
    exact forall₂_congr fun past _ => clears_iff_exact (owed_run table past)

end Runs

section Samples

def sampleHost : Host where
  qt := Router.sampleHost.qt
  inetAddr := Router.sampleHost.inetAddr
  inetPton := Router.sampleHost.inetAddr
  accepts _ := true

def sampleRow (ipWithMask : String) : Row := forwardRow sampleHost "10.8.1.1" 7 ipWithMask

def sampleRun (table : List Row) (events : List Event) : System := events.foldl (step sampleHost) (start table)

def addedBefore : System :=
  sampleRun [sampleRow "10.1.0.0/16"] [.routeAddList "10.8.1.1" true (some 7) ["10.1.0.0/16"]]

def addedAfter : System :=
  sampleRun []
    [.routeAddList "10.8.1.1" true (some 7) ["10.1.0.0/16"], .routeDeleteList "10.8.1.1" true ["10.1.0.0/16"],
      .others [sampleRow "10.1.0.0/16"]]

/-- Of two routes with the same address the router deletes the one for the single host. -/
def hostDeleted : System :=
  sampleRun []
    [.routeAddList "10.8.1.1" true (some 7) ["10.1.0.0", "10.1.0.0/16"], .routeDeleteList "10.8.1.1" true ["10.1.0.0"]]

/-- The routes of another program are deleted, and a route of the router's own is left in the table. -/
theorem savedRoutes_go_wrong :
    (addedBefore.owed = [] ∧ addedBefore.table = [sampleRow "10.1.0.0/16"] ∧
        (clearSavedRoutes true addedBefore).2.table = []) ∧
      (addedAfter.owed = [] ∧ addedAfter.table = [sampleRow "10.1.0.0/16"] ∧
        (clearSavedRoutes true addedAfter).2.table = []) ∧
      hostDeleted.owed = [sampleRow "10.1.0.0/16"] ∧ hostDeleted.ipForwardRows = [] ∧
        (clearSavedRoutes true hostDeleted).2.table = [sampleRow "10.1.0.0/16"] := by decide +kernel

end Samples

end TunnelCore.Service.RouterWin
