import TunnelCore.Connection.SplitTunnelConfig
import TunnelCore.Library.Action
import TunnelCore.Library.DottedQuad
import TunnelCore.Library.Runs
import Mathlib.Data.Finset.Basic

namespace TunnelCore.Service.Router

open Text

structure Route where
  dst : String
  gw : String
deriving DecidableEq

/-- The fields of `rtentry` that tell one route of the kernel from another. -/
structure KernelRoute where
  dst : BitVec 32
  mask : BitVec 32
  gateway : BitVec 32
deriving DecidableEq

/-- `accepts` are the routes that the kernel takes when it has no such route yet. -/
structure Host where
  qt : Daemon.Qt
  inetAddr : String → BitVec 32
  accepts : KernelRoute → Bool

/-- The routes of the kernel, and `m_addedRoutes`. No function reads `owed`: it holds the routes that the router has
added and not deleted since. -/
structure System where
  table : Finset KernelRoute
  addedRoutes : List Route
  owed : Finset KernelRoute

def ipAddressFromIpWithSubnet (ip : String) : String :=
  if ip.toList.count '.' ≠ 3 then "" else .ofList (ip.toList.takeWhile (· ≠ '/'))

def hostMask : String := "255.255.255.255"

def netMaskFromIpWithSubnet (ip : String) : String :=
  match ip.toList.splitOn '/' with
  | _ :: length :: _ =>
    match textToInt (.ofList length) with
    | some subnet =>
      if subnet < 0 ∨ 32 < subnet then hostMask
      else .ofList (DottedQuad.format (2 ^ 32 - 2 ^ (32 - subnet.toNat)))
    | none => hostMask
  | _ => hostMask

/-- `routeDelete` does nothing for this text. -/
def defaultRoute : String := "0.0.0.0/0"

section

variable (host : Host)

def isValid (r : Route) : Bool :=
  Connection.checkIPv4Format host.qt (ipAddressFromIpWithSubnet r.dst) && Connection.checkIPv4Format host.qt r.gw

def kernelRoute (r : Route) : KernelRoute where
  dst := host.inetAddr (ipAddressFromIpWithSubnet r.dst)
  mask := host.inetAddr (netMaskFromIpWithSubnet r.dst)
  gateway := host.inetAddr r.gw

def routeAdd (r : Route) : Action System := fun s =>
  if !isValid host r then (false, s)
  else if kernelRoute host r ∈ s.table || !host.accepts (kernelRoute host r) then (false, s)
  else (true, ⟨insert (kernelRoute host r) s.table, s.addedRoutes ++ [r], insert (kernelRoute host r) s.owed⟩)

def routeDelete (r : Route) : Action System := fun s =>
  if !isValid host r then (false, s)
  else if r.dst = defaultRoute then (true, s)
  else if kernelRoute host r ∈ s.table then
    (true, { s with table := s.table.erase (kernelRoute host r), owed := s.owed.erase (kernelRoute host r) })
  else (false, s)

def routeAddList (gw : String) (ips : List String) : System → Nat × System :=
  Action.countSuccesses (fun ip => routeAdd host ⟨ip, gw⟩) ips

def routeDeleteList (gw : String) (ips : List String) : Action System := fun s =>
  let (cnt, s) := Action.countSuccesses (fun ip => routeDelete host ⟨ip, gw⟩) ips s
  (cnt ≠ 0, s)

/-- What is still missing in the kernel has been deleted by others, so nothing is owed afterwards. -/
def clearSavedRoutes : Action System := fun s =>
  let (cnt, s') := Action.countSuccesses (routeDelete host) s.addedRoutes s
  (cnt = s.addedRoutes.length, ⟨s'.table, [], ∅⟩)

inductive Event
  | routeAddList (gw : String) (ips : List String)
  | routeDeleteList (gw : String) (ips : List String)
  | clearSavedRoutes
  | others (table : Finset KernelRoute)

def step (s : System) : Event → System
  | .routeAddList gw ips => (Router.routeAddList host gw ips s).2
  | .routeDeleteList gw ips => (Router.routeDeleteList host gw ips s).2
  | .clearSavedRoutes => (Router.clearSavedRoutes host s).2
  | .others table => { s with table := table }

inductive Call
  | routeAdd (r : Route)
  | routeDelete (r : Route)
  | clearSavedRoutes
  | others (table : Finset KernelRoute)

def call (s : System) : Call → System
  | .routeAdd r => (Router.routeAdd host r s).2
  | .routeDelete r => (Router.routeDelete host r s).2
  | .clearSavedRoutes => (Router.clearSavedRoutes host s).2
  | .others table => { s with table := table }

def Event.calls : Event → List Call
  | .routeAddList gw ips => ips.map fun ip => .routeAdd ⟨ip, gw⟩
  | .routeDeleteList gw ips => ips.map fun ip => .routeDelete ⟨ip, gw⟩
  | .clearSavedRoutes => [.clearSavedRoutes]
  | .others table => [.others table]

def start (table : Finset KernelRoute) : System := ⟨table, [], ∅⟩

structure Clears (s : System) : Prop where
  removes : ∀ r ∈ s.owed, r ∉ (clearSavedRoutes host s).2.table
  keeps : ∀ r ∉ s.owed, r ∈ (clearSavedRoutes host s).2.table ↔ r ∈ s.table
  reports : (∀ r ∈ s.owed, r ∈ s.table) → (clearSavedRoutes host s).1 = true

/-- The kernel's routes of the saved ones that `routeDelete` does not skip. -/
def removable (routes : List Route) : List KernelRoute :=
  (routes.filter (·.dst ≠ defaultRoute)).map (kernelRoute host)

def Exact (s : System) : Prop :=
  (removable host s.addedRoutes).Nodup ∧ ∀ r, r ∈ removable host s.addedRoutes ↔ r ∈ s.owed

/-- What is added was not owed before, what is deleted is not owed; the text that is skipped is of no account. -/
def Plain (s : System) : Call → Prop
  | .routeAdd r => (Router.routeAdd host r s).1 = true → (r.dst = defaultRoute ↔ kernelRoute host r ∈ s.owed)
  | .routeDelete r =>
    (Router.routeDelete host r s).1 = true → r.dst = defaultRoute ∨ kernelRoute host r ∉ s.owed
  | .clearSavedRoutes => True
  | .others _ => True

end

variable {host : Host}

section Deletion

theorem removable_cons (r : Route) (routes : List Route) :
    removable host (r :: routes) =
      if r.dst = defaultRoute then removable host routes else kernelRoute host r :: removable host routes := by
  by_cases h : r.dst = defaultRoute
  · rw [if_pos h, removable, List.filter_cons_of_neg (by simpa using h), removable]
  · rw [if_neg h, removable, List.filter_cons_of_pos (by simpa using h), List.map_cons, removable]

theorem removable_concat (routes : List Route) (r : Route) :
    removable host (routes ++ [r]) =
      removable host routes ++ if r.dst = defaultRoute then [] else [kernelRoute host r] := by
  rw [removable, List.filter_append, List.map_append, removable, ← removable, ← removable, removable_cons]
  rfl

/-- Deleting one route after the other takes them all out of the table, and succeeds throughout if each is there when its
turn comes. -/
theorem deletions {routes : List Route} (h : ∀ r ∈ routes, isValid host r = true) (s : System) :
    (∀ r, r ∈ (Action.countSuccesses (routeDelete host) routes s).2.table ↔
        r ∈ s.table ∧ r ∉ removable host routes) ∧
      ((Action.countSuccesses (routeDelete host) routes s).1 = routes.length ↔
        (removable host routes).Nodup ∧ ∀ r ∈ removable host routes, r ∈ s.table) := by
  induction routes generalizing s with
  | nil => simp [Action.countSuccesses, removable]
  | cons first routes ih =>
    obtain ⟨hfirst, hrest⟩ := List.forall_mem_cons.mp h
    obtain ⟨htable, hcount⟩ := ih hrest (routeDelete host first s).2
    rw [List.length_cons, Action.countSuccesses_cons_eq_iff, hcount, removable_cons]
    refine ⟨fun r => (htable r).trans ?_, ?_⟩
    · rw [routeDelete, hfirst]
      by_cases hskip : first.dst = defaultRoute
      · simp [hskip]
      · by_cases hmem : kernelRoute host first ∈ s.table
        · simp only [Bool.not_true, Bool.false_eq_true, if_false, if_neg hskip, if_pos hmem, Finset.mem_erase,
            List.mem_cons, not_or]
          tauto
        · simp only [Bool.not_true, Bool.false_eq_true, if_false, if_neg hskip, if_neg hmem, List.mem_cons, not_or]
          refine ⟨fun hr => ⟨hr.1, ?_, hr.2⟩, fun hr => ⟨hr.1, hr.2.2⟩⟩
          rintro rfl
          exact hmem hr.1
    · rw [routeDelete, hfirst]
      by_cases hskip : first.dst = defaultRoute
      · simp [hskip]
      · by_cases hmem : kernelRoute host first ∈ s.table
        · simp only [Bool.not_true, Bool.false_eq_true, if_false, if_neg hskip, if_pos hmem, true_and, Finset.mem_erase,
            List.nodup_cons, List.forall_mem_cons]
          constructor
          · rintro ⟨hnodup, hall⟩
            exact ⟨⟨fun hin => (hall _ hin).1 rfl, hnodup⟩, hmem, fun r hr => (hall r hr).2⟩
          · rintro ⟨⟨hnew, hnodup⟩, -, hall⟩
            exact ⟨hnodup, fun r hr => ⟨ne_of_mem_of_not_mem hr hnew, hall r hr⟩⟩
        · simp [hskip, hmem]

/-- Other programs may have left any table: what is wanted comes about for all of them if and only if the saved routes are
exact. -/
theorem clears_iff_exact {s : System} (h : ∀ r ∈ s.addedRoutes, isValid host r = true) :
    (∀ table, Clears host { s with table := table }) ↔ Exact host s := by
  have hclear (table : Finset KernelRoute) := deletions h { s with table := table }
  constructor
  · intro hall
    -- a table with everything that is owed or saved
    have hboth := hall (s.owed ∪ (removable host s.addedRoutes).toFinset)
    obtain ⟨htable, hcount⟩ := hclear (s.owed ∪ (removable host s.addedRoutes).toFinset)
    refine ⟨?_, fun r => ⟨fun hr => ?_, fun hr => ?_⟩⟩
    · have hreport := hboth.reports fun r hr => Finset.mem_union_left _ hr
      exact (hcount.mp (of_decide_eq_true hreport)).1
    · by_contra howed
      have hkept := (hboth.keeps r howed).mpr (Finset.mem_union_right _ (List.mem_toFinset.mpr hr))
      exact ((htable r).mp hkept).2 hr
    · by_contra hsaved
      exact hboth.removes r hr ((htable r).mpr ⟨Finset.mem_union_left _ hr, hsaved⟩)
  · rintro ⟨hnodup, hsame⟩ table
    obtain ⟨htable, hcount⟩ := hclear table
    refine ⟨fun r hr hmem => ?_, fun r hr => ?_, fun hall => ?_⟩
    · exact ((htable r).mp hmem).2 ((hsame r).mpr hr)
    · exact (htable r).trans (and_iff_left fun hsaved => hr ((hsame r).mp hsaved))
    · exact decide_eq_true (hcount.mpr ⟨hnodup, fun r hr => hall r ((hsame r).mp hr)⟩)

end Deletion

section Runs

variable {s : System}

theorem isValid_call (h : ∀ r ∈ s.addedRoutes, isValid host r = true) (c : Call) :
    ∀ r ∈ (call host s c).addedRoutes, isValid host r = true := by
  cases c with
  | routeAdd added =>
    rw [call, routeAdd]
    split
    · exact h
    next hvalid =>
      split
      · exact h
      · intro r hr
        rcases List.mem_append.mp hr with hr | hr
        · exact h r hr
        · rw [List.mem_singleton.mp hr]
          simpa using hvalid
  | routeDelete deleted =>
    rw [call, routeDelete]
    split
    · exact h
    · split
      · exact h
      · split <;> exact h
  | clearSavedRoutes => exact fun r hr => absurd hr List.not_mem_nil
  | others table => exact h

theorem exact_routeAdd_iff (h : Exact host s) (added : Route) :
    Exact host (call host s (.routeAdd added)) ↔ Plain host s (.routeAdd added) := by
  rw [call, Plain, routeAdd]
  split
  · exact iff_of_true h fun hfailed => absurd hfailed (by simp)
  · split
    · exact iff_of_true h fun hfailed => absurd hfailed (by simp)
    · refine Iff.trans ?_ (imp_iff_right rfl).symm
      rw [Exact, removable_concat]
      obtain ⟨hnodup, hsame⟩ := h
      by_cases hskip : added.dst = defaultRoute
      · rw [if_pos hskip, List.append_nil]
        simp only [hskip, true_iff, Finset.mem_insert]
        constructor
        · rintro ⟨-, hall⟩
          exact (hsame _).mp ((hall _).mpr (.inl rfl))
        · intro howed
          refine ⟨hnodup, fun r => (hsame r).trans ⟨.inr, ?_⟩⟩
          rintro (rfl | hr)
          · exact howed
          · exact hr
      · rw [if_neg hskip, List.nodup_append]
        simp only [hskip, false_iff, Finset.mem_insert, List.mem_append, List.mem_singleton]
        constructor
        · rintro ⟨⟨-, -, hnew⟩, -⟩ howed
          exact hnew _ ((hsame _).mpr howed) _ rfl rfl
        · intro hnew
          refine ⟨⟨hnodup, List.nodup_singleton _, fun a ha b hb => ?_⟩, fun r => ?_⟩
          · rintro rfl
            exact hnew (hb ▸ (hsame _).mp ha)
          · rw [hsame r, or_comm]

theorem exact_routeDelete_iff (h : Exact host s) (deleted : Route) :
    Exact host (call host s (.routeDelete deleted)) ↔ Plain host s (.routeDelete deleted) := by
  rw [call, Plain, routeDelete]
  split
  · exact iff_of_true h fun hfailed => absurd hfailed (by simp)
  · split
    next hskip => exact iff_of_true h fun _ => .inl hskip
    next hskip =>
      split
      · refine Iff.trans ?_ (imp_iff_right rfl).symm
        rw [Exact, or_iff_right hskip]
        obtain ⟨hnodup, hsame⟩ := h
        constructor
        · rintro ⟨-, hall⟩ howed
          exact (Finset.mem_erase.mp ((hall _).mp ((hsame _).mpr howed))).1 rfl
        · intro hother
          refine ⟨hnodup, fun r => (hsame r).trans ?_⟩
          rw [Finset.erase_eq_of_notMem hother]
      · exact iff_of_true h fun hfailed => absurd hfailed (by simp)

theorem exact_call_iff (h : Exact host s) (c : Call) : Exact host (call host s c) ↔ Plain host s c := by
  cases c with
  | routeAdd added => exact exact_routeAdd_iff h added
  | routeDelete deleted => exact exact_routeDelete_iff h deleted
  | clearSavedRoutes =>
    refine iff_of_true ⟨List.nodup_nil, fun r => ?_⟩ trivial
    exact iff_of_false List.not_mem_nil (Finset.notMem_empty r)
  | others table => exact iff_of_true h trivial

theorem isValid_run (table : Finset KernelRoute) (calls : List Call) :
    ∀ r ∈ (calls.foldl (call host) (start table)).addedRoutes, isValid host r = true := by
  induction calls using List.reverseRecOn with
  | nil => exact fun r hr => absurd hr List.not_mem_nil
  | append_singleton past c ih =>
    rw [List.foldl_append]
    exact isValid_call ih c

theorem step_eq_calls (s : System) (e : Event) : step host s e = e.calls.foldl (call host) s := by
  cases e with
  | routeAddList gw ips => rw [Event.calls, List.foldl_map]; exact Action.countSuccesses_eq_foldl ..
  | routeDeleteList gw ips => rw [Event.calls, List.foldl_map]; exact Action.countSuccesses_eq_foldl ..
  | clearSavedRoutes => rfl
  | others table => rfl

/-- The two lists are runs of single calls. After each of these calls, `clearSavedRoutes` would do what is wanted on
whatever table other programs leave, if and only if all calls so far were plain. -/
theorem clearSavedRoutes_exact_iff (host : Host) (table : Finset KernelRoute) (events : List Event) :
    events.foldl (step host) (start table) = (events.flatMap Event.calls).foldl (call host) (start table) ∧
      ((∀ past, past <+: events.flatMap Event.calls → ∀ now : Finset KernelRoute,
          Clears host { past.foldl (call host) (start table) with table := now }) ↔
        Along (call host) (Plain host) (start table) (events.flatMap Event.calls)) := by
  refine ⟨?_, ?_⟩
  · rw [List.foldl_flatMap]
    congr 1
    funext s e
    exact step_eq_calls s e
  · have hstart : Exact host (start table) :=
      ⟨List.nodup_nil, fun r => iff_of_false List.not_mem_nil (Finset.notMem_empty r)⟩
    rw [← forall_prefix_iff_along hstart fun past c h => exact_call_iff h c]
    exact forall₂_congr fun past _ => clears_iff_exact (isValid_run table past)

end Runs

section Samples

def sampleHost : Host where
  qt :=
    { hostAddress := fun text =>
        match DottedQuad.parse text.toList with
        | some address => .ipv4 (.ofNat 32 address)
        | none => .null
      parseSubnet := fun _ => (.null, -1) }
  inetAddr text := .ofNat 32 ((DottedQuad.parse text.toList).getD (2 ^ 32 - 1))
  accepts _ := true

def sampleRun (events : List Event) : System := events.foldl (step sampleHost) (start ∅)

def sampleKernelRoute (dst : String) : KernelRoute := kernelRoute sampleHost ⟨dst, "10.8.1.1"⟩

def addedAndDeleted : System :=
  sampleRun [.routeAddList "10.8.1.1" ["10.1.0.0/16"], .routeDeleteList "10.8.1.1" ["10.1.0.0/16"]]

def addedByOther : System := step sampleHost addedAndDeleted (.others {sampleKernelRoute "10.1.0.0/16"})

def defaultAdded : System := sampleRun [.routeAddList "10.8.1.1" ["0.0.0.0/0"]]

/-- A route that the router has deleted and another program has added is removed; the default route that the router has
added is not; and a route that is added and deleted makes the router report a failure. -/
theorem clearSavedRoutes_goes_wrong :
    (sampleKernelRoute "10.1.0.0/16" ∉ addedByOther.owed ∧ sampleKernelRoute "10.1.0.0/16" ∈ addedByOther.table ∧
        sampleKernelRoute "10.1.0.0/16" ∉ (clearSavedRoutes sampleHost addedByOther).2.table) ∧
      (sampleKernelRoute "0.0.0.0/0" ∈ defaultAdded.owed ∧ (clearSavedRoutes sampleHost defaultAdded).1 = true ∧
        sampleKernelRoute "0.0.0.0/0" ∈ (clearSavedRoutes sampleHost defaultAdded).2.table) ∧
      addedAndDeleted.owed = ∅ ∧ (clearSavedRoutes sampleHost addedAndDeleted).1 = false := by decide +kernel

end Samples

end TunnelCore.Service.Router
