import TunnelCore.RouteMonitor.MonitorState
import TunnelCore.Library.Journal

namespace TunnelCore.RouteMonitor

open TunnelCore.Daemon (QHostAddress IPAddress)
open TunnelCore.Action

variable {luid : UInt64}

structure Batch (luid : UInt64) where
  state : MonitorState luid
  addedPrefixes : List IPAddress
  touchedFamilies : List Family

namespace Batch

variable (api : Api) (classes : HostClasses)

def rollback (b : Batch luid) : Batch luid :=
  { b with
    state := b.touchedFamilies.foldl (MonitorState.reconcileCapturedRoutes api classes)
      (b.addedPrefixes.reverse.foldl (MonitorState.removeAdded api) b.state) }

def addPrefix (table : Table) (ip : IPAddress) : Action (Batch luid) := fun b =>
  let added := b.state.addExclusionRoute api classes ip table
  let isNew : Bool := added.1 && ip ∉ b.state.exclusionRoutes && ip ∈ added.2.exclusionRoutes
  (added.1, { b with state := added.2, addedPrefixes := if isNew then b.addedPrefixes ++ [ip] else b.addedPrefixes })

def addWithTable (family : Family) (table : Table) (familyPrefixes : List IPAddress) : Action (Batch luid) :=
  let metrics : Action (Batch luid) := fun b =>
    let updated := b.state.updateInterfaceMetrics api family
    (updated.1, { b with state := updated.2 })
  let touch : Action (Batch luid) := update fun b => { b with touchedFamilies := b.touchedFamilies.insert family }
  let capture : Action (Batch luid) := update fun b =>
    { b with state := b.state.updateCapturedRoutes api classes family table }
  metrics.andThen (touch.andThen ((forAll (addPrefix api classes table) familyPrefixes).andThen capture))

def addFamily (prefixes : List IPAddress) (family : Family) : Action (Batch luid) := fun b =>
  let familyPrefixes := prefixes.filter fun ip => (family = .inet6 : Bool) = (hostFamily ip.address = .inet6 : Bool)
  -- one invalid prefix is enough, of whichever family the others are
  if prefixes.any fun ip => hostFamily ip.address = .unspec then (false, b)
  else if familyPrefixes = [] then (true, b)
  else
    let fetched := { b with state := b.state.called (.getIpForwardTable2 family) }
    match api.forwardTable b.state.calls family with
    | none => (false, fetched)
    | some table => addWithTable api classes family table familyPrefixes fetched

end Batch

def addExclusionRoutes (api : Api) (classes : HostClasses) (prefixes : List IPAddress) : Action (MonitorState luid) :=
  fun s =>
    let batch := onFailure (update (Batch.rollback api classes))
      (forAll (Batch.addFamily api classes prefixes) [.inet, .inet6]) ⟨s, [], []⟩
    (batch.1, batch.2.state)

section View

/-- What a batch is to leave as it was: the exclusion map, and the system's routes of all interfaces but the tunnel's. -/
@[ext]
structure View where
  rows : IPAddress → Option Row
  routes : Finset Route

def MonitorState.view (s : MonitorState luid) : View where
  rows key := s.exclusionRoutes.lookup key
  routes := s.os.filter fun route => route.interfaceLuid ≠ luid

/-- The view with one more exclusion route. Its row has an interface exactly if the route was created for it. -/
structure Added (luid : UInt64) (v : View) (ip : IPAddress) (v' : View) : Prop where
  absent : v.rows ip = none
  present : ∃ row, v'.rows = Function.update v.rows ip (some row) ∧
    (row.interfaceLuid = 0 ∧ v'.routes = v.routes ∨
      row.interfaceLuid ≠ 0 ∧ row.interfaceLuid ≠ luid ∧ row.route ∉ v.routes ∧ v'.routes = insert row.route v.routes)

variable {api : Api} {classes : HostClasses} {s : MonitorState luid}

theorem view_rows_isSome {key : IPAddress} : (s.view.rows key).isSome ↔ key ∈ s.exclusionRoutes := AList.lookup_isSome

theorem view_perform_inside {call : OsCall} (h : call.row.interfaceLuid = luid) : (s.perform api call).view = s.view := by
  refine View.ext rfl (Finset.ext fun route => ?_)
  simp only [MonitorState.view, MonitorState.perform, Finset.mem_filter, and_congr_left_iff]
  intro hroute
  have hne : route ≠ call.row.route := fun he => hroute (he ▸ h)
  split
  · cases call with
    | deleteIpForwardEntry2 row => exact (Finset.mem_erase).trans (and_iff_right hne)
    | createIpForwardEntry2 row => exact (Finset.mem_insert).trans (or_iff_right hne)
  · exact Iff.rfl

theorem view_captureRow (row : Row) : (s.captureRow api classes row).view = s.view := by
  have hcreate : (s.perform api (.createIpForwardEntry2 (s.monitor.clonedRow row))).view = s.view :=
    view_perform_inside rfl
  rw [MonitorState.captureRow]
  dsimp only
  repeat' split
  all_goals first | rfl | exact hcreate

theorem view_releaseKey (family : Family) (key : IPAddress) : (s.releaseKey api family key).view = s.view := by
  rw [MonitorState.releaseKey]
  split
  · rfl
  next data hlook =>
    split
    · rfl
    · split
      · rfl
      · have hdelete : (s.perform api (.deleteIpForwardEntry2 data)).view = s.view :=
          view_perform_inside (s.clonedRoutes.inside key data hlook)
        exact hdelete

theorem view_foldl {α : Type} {f : MonitorState luid → α → MonitorState luid} (h : ∀ s x, (f s x).view = s.view)
    (xs : List α) (s : MonitorState luid) : (xs.foldl f s).view = s.view := by
  induction xs generalizing s with
  | nil => rfl
  | cons x xs ih => exact (ih (f s x)).trans (h s x)

theorem view_updateCapturedRoutes (family : Family) (table : Table) (s : MonitorState luid) :
    (s.updateCapturedRoutes api classes family table).view = s.view := by
  rw [MonitorState.updateCapturedRoutes]
  split
  · exact (view_foldl (fun s key => view_releaseKey family key) _ _).trans
      (view_foldl (fun s row => view_captureRow row) table.rows s)
  · rfl

theorem view_reconcileCapturedRoutes (s : MonitorState luid) (family : Family) :
    (s.reconcileCapturedRoutes api classes family).view = s.view := by
  rw [MonitorState.reconcileCapturedRoutes]
  split
  · split
    · rfl
    · exact view_updateCapturedRoutes ..
  · rfl

theorem view_updateInterfaceMetrics (family : Family) (s : MonitorState luid) :
    (s.updateInterfaceMetrics api family).2.view = s.view := by
  rw [MonitorState.updateInterfaceMetrics]
  split <;> rfl

theorem not_mem_of_created {row : Row} (h : s.answer api (.createIpForwardEntry2 row) = .noError) : row.route ∉ s.os := by
  rw [MonitorState.answer] at h
  split at h
  next refusal _ => exact absurd h refusal.failed
  · intro hmem
    rw [if_pos hmem] at h
    cases h

theorem view_perform_refused {call : OsCall} (h : s.answer api call ≠ .noError) : (s.perform api call).view = s.view := by
  rw [MonitorState.perform, if_neg h]
  rfl

theorem view_perform_created {row : Row} (h : s.answer api (.createIpForwardEntry2 row) = .noError)
    (hluid : row.interfaceLuid ≠ luid) :
    (s.perform api (.createIpForwardEntry2 row)).view = ⟨s.view.rows, insert row.route s.view.routes⟩ := by
  rw [MonitorState.perform, if_pos h]
  refine View.ext rfl ?_
  exact (Finset.filter_insert ..).trans (if_pos hluid)

/-- What can come of a row without an interface: no call is made and it stays without one, or its route is created, or
the system does not create it. -/
theorem updateExclusionRoute_new {metrics : InterfaceMetrics} {os : Os} {table : List Row} {data : Row}
    (hdata : data.interfaceLuid = 0) {outcome : Outcome}
    (houtcome : updateExclusionRoute luid metrics os table data = outcome) :
    (outcome.calls = [] ∧ outcome.data.interfaceLuid = 0) ∨
      ∃ entry, outcome.calls = [.createIpForwardEntry2 entry] ∧
        (entry.interfaceLuid ≠ 0 ∧ entry.interfaceLuid ≠ luid ∧ os.create entry = .noError ∧ outcome.result = true ∧
            outcome.data = entry ∨
          os.create entry ≠ .noError ∧ outcome.data.interfaceLuid = 0) := by
  subst houtcome
  obtain ⟨-, hsearch⟩ | ⟨row, hbest, hsearch⟩ := search_cases luid metrics data table
  · rw [updateExclusionRoute_of_none hsearch]
    exact .inl ⟨rfl, hdata⟩
  · rw [updateExclusionRoute_of_some hsearch]
    by_cases hsame : (data.interfaceLuid, data.nextHop) = choice data row
    · rw [if_pos hsame]
      exact .inl ⟨rfl, hdata⟩
    · rw [if_neg hsame, if_pos hdata, writeRoute]
      split
      next hzero => exact .inl ⟨rfl, hzero⟩
      next hluid =>
        have hinterface : (chosenEntry data row).interfaceLuid = row.interfaceLuid := if_neg fun he => hluid (if_pos he)
        refine .inr ⟨chosenEntry data row, ?_⟩
        cases hcreate : os.create (chosenEntry data row) with
        | noError => exact ⟨rfl, .inl ⟨hluid, hinterface ▸ hbest.2.1.1, rfl, rfl, rfl⟩⟩
        | errorNotFound | errorObjectAlreadyExists | other => exact ⟨rfl, .inr ⟨by simp, rfl⟩⟩

theorem added_insert {ip : IPAddress} {row : Row} {s' : MonitorState luid} (habsent : ip ∉ s.exclusionRoutes)
    (hrows : s'.view.rows = s.view.rows)
    (hroutes : row.interfaceLuid = 0 ∧ s'.view.routes = s.view.routes ∨
      row.interfaceLuid ≠ 0 ∧ row.interfaceLuid ≠ luid ∧ row.route ∉ s.view.routes ∧
        s'.view.routes = insert row.route s.view.routes) :
    Added luid s.view ip { s' with exclusionRoutes := s'.exclusionRoutes.insert ip row : MonitorState luid }.view := by
  refine ⟨AList.lookup_eq_none.mpr habsent, row, funext fun key => ?_, hroutes⟩
  rw [← hrows]
  by_cases hkey : key = ip
  · subst hkey
    rw [Function.update_self]
    exact AList.lookup_insert _
  · rw [Function.update_of_ne hkey]
    exact AList.lookup_insert_ne hkey

/-- One prefix: either the view stays, and then the prefix is not to be added if the call succeeds, or it has one more
exclusion route. -/
theorem view_addExclusionRoute (ip : IPAddress) (table : Table) (s : MonitorState luid) :
    ((s.addExclusionRoute api classes ip table).2.view = s.view ∧
        ((s.addExclusionRoute api classes ip table).1 = true →
          classes.isSpecial ip.address = true ∨ ip ∈ s.exclusionRoutes)) ∨
      (s.addExclusionRoute api classes ip table).1 = true ∧
        Added luid s.view ip (s.addExclusionRoute api classes ip table).2.view := by
  rw [MonitorState.addExclusionRoute]
  split
  next hspecial => exact .inl ⟨rfl, fun _ => .inl hspecial⟩
  split
  next hpresent => exact .inl ⟨rfl, fun _ => .inr hpresent⟩
  rename_i habsent
  generalize houtcome : updateExclusionRoute luid s.interfaceMetrics (s.answers api) table.rows (exclusionRow ip) = outcome
  dsimp only
  rcases updateExclusionRoute_new rfl houtcome with ⟨hcalls, hdata⟩ | ⟨entry, hcalls, hcreated | ⟨hrefused, hdata⟩⟩
  · rw [hcalls]
    split
    · exact .inr ⟨rfl, added_insert habsent rfl (.inl ⟨hdata, rfl⟩)⟩
    · exact .inl ⟨rfl, fun h => absurd h (by simp)⟩
  · obtain ⟨hinterface, hluid, hcreate, hresult, rfl⟩ := hcreated
    have hview := view_perform_created hcreate hluid
    have hfresh : outcome.data.route ∉ s.view.routes := fun hmem =>
      not_mem_of_created hcreate (Finset.mem_filter.mp hmem).1
    have hrows : (s.perform api (.createIpForwardEntry2 outcome.data)).view.rows = s.view.rows := by rw [hview]
    have hroutes : (s.perform api (.createIpForwardEntry2 outcome.data)).view.routes =
        insert outcome.data.route s.view.routes := by rw [hview]
    rw [hcalls, if_pos hresult]
    exact .inr ⟨rfl, added_insert habsent hrows (.inr ⟨hinterface, hluid, hfresh, hroutes⟩)⟩
  · have hview := view_perform_refused hrefused
    rw [hcalls]
    split
    · exact .inr ⟨rfl, added_insert habsent (congrArg View.rows hview) (.inl ⟨hdata, congrArg View.routes hview⟩)⟩
    · exact .inl ⟨hview, fun h => absurd h (by simp)⟩

theorem view_removeAdded (hdeletes : api.Deletes) {v : View} {ip : IPAddress} (h : Added luid v ip s.view) :
    (s.removeAdded api ip).view = v := by
  obtain ⟨habsent, row, hrows, hroutes⟩ := h
  have hlook : s.exclusionRoutes.lookup ip = some row := (congrFun hrows ip).trans (Function.update_self ..)
  have herase (key : IPAddress) : (s.exclusionRoutes.erase ip).lookup key = v.rows key := by
    by_cases hkey : key = ip
    · rw [hkey, AList.lookup_erase, habsent]
    · rw [AList.lookup_erase_ne hkey]
      exact (congrFun hrows key).trans (Function.update_of_ne hkey ..)
  rw [MonitorState.removeAdded, hlook]
  dsimp only
  rcases hroutes with ⟨hzero, hroutes⟩ | ⟨hinterface, hluid, hfresh, hroutes⟩
  · rw [if_pos hzero]
    exact View.ext (funext herase) hroutes
  · have hmem : row.route ∈ s.os := by
      have hview : row.route ∈ s.view.routes := hroutes ▸ Finset.mem_insert_self ..
      exact (Finset.mem_filter.mp hview).1
    have hanswer : s.answer api (.deleteIpForwardEntry2 row) = .noError := by
      rw [MonitorState.answer, Option.isNone_iff_eq_none.mp (hdeletes s.calls s.os row hmem)]
      exact if_pos hmem
    rw [if_neg hinterface, if_neg fun hrefused => hrefused.1 hanswer]
    refine View.ext (funext herase) ?_
    have hos : (s.perform api (.deleteIpForwardEntry2 row)).os = s.os.erase row.route := if_pos hanswer
    change (s.perform api (.deleteIpForwardEntry2 row)).os.filter _ = v.routes
    rw [hos, Finset.filter_erase]
    change s.view.routes.erase row.route = v.routes
    rw [hroutes, Finset.erase_insert hfresh]

end View

section Atomicity

variable {api : Api} {classes : HostClasses} {v : View} {done : List IPAddress}

def Undoable (v : View) (b : Batch luid) : Prop := Journal (Added luid) v b.addedPrefixes b.state.view

def Holds (classes : HostClasses) (done : List IPAddress) (b : Batch luid) : Prop :=
  ∀ ip ∈ done, classes.isSpecial ip.address = false → ip ∈ b.state.exclusionRoutes

def Advanced (classes : HostClasses) (v : View) (done : List IPAddress) (b : Batch luid) : Prop :=
  Undoable v b ∧ Holds classes done b

theorem Added.mono {ip key : IPAddress} {v v' : View} (h : Added luid v ip v') (hkey : (v.rows key).isSome) :
    (v'.rows key).isSome := by
  obtain ⟨-, row, hrows, -⟩ := h
  rw [hrows]
  by_cases heq : key = ip
  · rw [heq, Function.update_self]
    rfl
  · rwa [Function.update_of_ne heq]

theorem Added.isSome {ip : IPAddress} {v v' : View} (h : Added luid v ip v') : (v'.rows ip).isSome := by
  obtain ⟨-, row, hrows, -⟩ := h
  rw [hrows, Function.update_self]
  rfl

theorem triple_addPrefix (table : Table) (ip : IPAddress) :
    Triple (Advanced classes v done) (Batch.addPrefix api classes table ip : Action (Batch luid))
      (Advanced classes v (done ++ [ip])) (Undoable v) := by
  rintro b ⟨hundo, hholds⟩
  have hdone {s : MonitorState luid} (hlast : classes.isSpecial ip.address = false → ip ∈ s.exclusionRoutes)
      (hkeep : ∀ key ∈ b.state.exclusionRoutes, key ∈ s.exclusionRoutes) :
      ∀ key ∈ done ++ [ip], classes.isSpecial key.address = false → key ∈ s.exclusionRoutes := by
    intro key hkey hroutable
    rcases List.mem_append.mp hkey with hkey | hkey
    · exact hkeep key (hholds key hkey hroutable)
    · obtain rfl := List.mem_singleton.mp hkey
      exact hlast hroutable
  rw [Batch.addPrefix]
  generalize hadd : b.state.addExclusionRoute api classes ip table = added
  have hcases := @view_addExclusionRoute luid api classes ip table b.state
  rw [hadd] at hcases
  dsimp only
  rcases hcases with ⟨hview, hskipped⟩ | ⟨hok, hadded⟩
  · -- the map is as before, so the prefix is not one of the new ones
    have hsame (key : IPAddress) : key ∈ added.2.exclusionRoutes ↔ key ∈ b.state.exclusionRoutes := by
      rw [← view_rows_isSome, hview, view_rows_isSome]
    have hnotNew : (added.1 && ip ∉ b.state.exclusionRoutes && ip ∈ added.2.exclusionRoutes) = false := by
      simp [hsame]
    have hundo' : Journal (Added luid) v b.addedPrefixes added.2.view := hview.symm ▸ hundo
    simp only [hnotNew]
    split
    next hok =>
      refine ⟨hundo', hdone (fun hroutable => ?_) fun key => (hsame key).mpr⟩
      rcases hskipped hok with hspecial | hpresent
      · rw [hroutable] at hspecial
        cases hspecial
      · exact (hsame ip).mpr hpresent
    · exact hundo'
  · have habsent : ip ∉ b.state.exclusionRoutes := AList.lookup_eq_none.mp hadded.absent
    have hpresent : ip ∈ added.2.exclusionRoutes := view_rows_isSome.mp hadded.isSome
    simp only [hok, habsent, hpresent]
    refine ⟨hundo.concat hadded, hdone (fun _ => hpresent) fun key hkey => ?_⟩
    exact view_rows_isSome.mp (hadded.mono (view_rows_isSome.mpr hkey))

theorem triple_addPrefixes (table : Table) (ips : List IPAddress) :
    Triple (Advanced classes v done) (forAll (Batch.addPrefix api classes table) ips : Action (Batch luid))
      (Advanced classes v (done ++ ips)) (Undoable v) := by
  induction ips generalizing done with
  | nil =>
    rw [List.append_nil]
    exact triple_skip
  | cons ip ips ih =>
    have hrest : Triple (Advanced classes v (done ++ [ip])) (forAll (Batch.addPrefix api classes table) ips)
        (Advanced classes v (done ++ [ip] ++ ips)) (Undoable v) := ih
    rw [List.append_assoc, List.singleton_append] at hrest
    exact triple_andThen (triple_addPrefix table ip) hrest

theorem Advanced.of_view {b b' : Batch luid} (h : Advanced classes v done b) (hadded : b'.addedPrefixes = b.addedPrefixes)
    (hview : b'.state.view = b.state.view) : Advanced classes v done b' := by
  refine ⟨?_, fun ip hip hroutable => ?_⟩
  · rw [Undoable, hadded, hview]
    exact h.1
  · rw [← view_rows_isSome, hview, view_rows_isSome]
    exact h.2 ip hip hroutable

theorem triple_addWithTable (family : Family) (table : Table) (ips : List IPAddress) :
    Triple (Advanced classes v done) (Batch.addWithTable api classes family table ips : Action (Batch luid))
      (Advanced classes v (done ++ ips)) (Undoable v) := by
  refine triple_andThen (M := Advanced classes v done) ?metrics (triple_andThen (M := Advanced classes v done) ?touch
    (triple_andThen (triple_addPrefixes table ips) ?capture))
  case metrics =>
    intro b hb
    have hsame : Advanced classes v done { b with state := (b.state.updateInterfaceMetrics api family).2 } :=
      hb.of_view rfl (view_updateInterfaceMetrics ..)
    split
    · exact hsame
    · exact hsame.1
  case touch => exact triple_update fun b hb => hb.of_view rfl rfl
  case capture => exact triple_update fun b hb => hb.of_view rfl (view_updateCapturedRoutes ..)

theorem triple_addFamily (prefixes : List IPAddress) (family : Family) :
    Triple (Advanced classes v done) (Batch.addFamily api classes prefixes family : Action (Batch luid))
      (fun b => Advanced classes v
          (done ++ prefixes.filter fun ip => (family = .inet6 : Bool) = (hostFamily ip.address = .inet6 : Bool)) b)
      (Undoable v) := by
  intro b hb
  rw [Batch.addFamily]
  dsimp only
  by_cases hinvalid : (prefixes.any fun ip => hostFamily ip.address = .unspec) = true
  · rw [if_pos hinvalid]
    exact hb.1
  rw [if_neg hinvalid]
  by_cases hnone : (prefixes.filter fun ip => (family = .inet6 : Bool) = (hostFamily ip.address = .inet6 : Bool)) = []
  · rw [if_pos hnone, hnone, List.append_nil]
    exact hb
  rw [if_neg hnone]
  have hfetched : Advanced classes v done { b with state := b.state.called (.getIpForwardTable2 family) } :=
    hb.of_view rfl rfl
  cases api.forwardTable b.state.calls family with
  | none => exact hfetched.1
  | some table => exact triple_addWithTable family table _ _ hfetched

theorem triple_rollback (hdeletes : api.Deletes) :
    Triple (Undoable v) (update (Batch.rollback api classes) : Action (Batch luid)) (fun b => b.state.view = v)
      (fun b => b.state.view = v) := by
  intro b hb
  refine (view_foldl view_reconcileCapturedRoutes b.touchedFamilies _).trans ?_
  exact Journal.rollback (view_removeAdded hdeletes) hb

/-- A batch of exclusion routes is added whole or not at all: if the call fails, the exclusion map and the system's
routes of all interfaces but the tunnel's are those from before it; if it succeeds, every routable prefix is in the
map. -/
theorem exclusion_batch_atomic (hdeletes : api.Deletes) (classes : HostClasses) (prefixes : List IPAddress)
    (s : MonitorState luid) :
    ((addExclusionRoutes api classes prefixes s).1 = false →
        (∀ ip, (addExclusionRoutes api classes prefixes s).2.exclusionRoutes.lookup ip = s.exclusionRoutes.lookup ip) ∧
          ∀ route, route.interfaceLuid ≠ luid →
            (route ∈ (addExclusionRoutes api classes prefixes s).2.os ↔ route ∈ s.os)) ∧
      ((addExclusionRoutes api classes prefixes s).1 = true →
        ∀ ip ∈ prefixes, classes.isSpecial ip.address = false →
          ip ∈ (addExclusionRoutes api classes prefixes s).2.exclusionRoutes) := by
  have hbatch : Triple (Advanced classes s.view [])
      (onFailure (update (Batch.rollback api classes)) (forAll (Batch.addFamily api classes prefixes) [.inet, .inet6]))
      (Holds classes prefixes) (fun b : Batch luid => b.state.view = s.view) := by
    refine triple_onFailure (triple_andThen (triple_addFamily prefixes .inet) ?_) (triple_rollback hdeletes)
    refine triple_andThen (triple_addFamily prefixes .inet6) (triple_skip.weaken (fun _ => id) (fun b hb => ?_) fun _ => id)
    -- a prefix is of the one family or of the other
    intro ip hip hroutable
    refine hb.2 ip ?_ hroutable
    cases hfamily : (hostFamily ip.address = .inet6 : Bool) with
    | false => simp [hip, hfamily]
    | true => simp [hip, hfamily]
  have hend : if (addExclusionRoutes api classes prefixes s).1 = true then
        ∀ ip ∈ prefixes, classes.isSpecial ip.address = false →
          ip ∈ (addExclusionRoutes api classes prefixes s).2.exclusionRoutes
      else (addExclusionRoutes api classes prefixes s).2.view = s.view :=
    hbatch ⟨s, [], []⟩ ⟨.nil s.view, fun ip hip => absurd hip List.not_mem_nil⟩
  constructor
  · intro hfailed
    rw [hfailed, if_neg Bool.false_ne_true] at hend
    refine ⟨fun ip => congrFun (congrArg View.rows hend) ip, fun route hroute => ?_⟩
    have hmem := congrArg (route ∈ ·) (congrArg View.routes hend)
    simpa [MonitorState.view, hroute] using hmem
  · intro hok
    rwa [if_pos hok] at hend

end Atomicity

section Samples

def ipv4Only : Api where
  forwardTable _ family := if family = .inet then some ⟨[gatewayRow], by decide⟩ else none
  interfaceTable _ family := if family = .inet then some [⟨5, .inet, true, 10⟩] else none
  refusal _ _ _ := none

def idle : MonitorState 7 where
  defaultRouteCapture := false
  interfaceMetrics := ⟨fun _ => none, fun _ => none⟩
  exclusionRoutes := ∅
  clonedRoutes := ⟨∅, fun _ _ h => by cases h⟩
  os := {gatewayRow.route}
  calls := []

def excludedHost : IPAddress := ⟨.ipv4 0x01020304#32, 32⟩

def excludedRow : Row := chosenEntry (exclusionRow excludedHost) gatewayRow

/-- The route to the IPv4 address is created, and deleted when the table for the IPv6 address cannot be fetched. -/
theorem exclusion_batch_taken_back :
    (addExclusionRoutes ipv4Only noClasses [excludedHost, ⟨.ipv6 1#128, 128⟩] idle).2.calls =
        [.getIpForwardTable2 .inet, .getIpInterfaceTable .inet, .entry (.createIpForwardEntry2 excludedRow),
          .getIpForwardTable2 .inet6, .entry (.deleteIpForwardEntry2 excludedRow)] ∧
      (addExclusionRoutes ipv4Only noClasses [excludedHost, ⟨.ipv6 1#128, 128⟩] idle).2.exclusionRoutes.lookup
        excludedHost = none := by
  have hdeletes : ipv4Only.Deletes := fun _ _ _ _ => rfl
  have hfailed : (addExclusionRoutes ipv4Only noClasses [excludedHost, ⟨.ipv6 1#128, 128⟩] idle).1 = false := by
    decide +kernel
  refine ⟨by decide +kernel, ?_⟩
  rw [((exclusion_batch_atomic hdeletes noClasses _ idle).1 hfailed).1]
  rfl

end Samples

end TunnelCore.RouteMonitor
