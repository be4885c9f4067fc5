import TunnelCore.KillSwitch.WindowsTermination
import TunnelCore.Library.Runs

namespace TunnelCore.WindowsFirewall

open Daemon KillSwitch.Windows

def State.Tracked (w : State) : Prop := ∀ e ∈ w.engine, e.1 ∈ w.recorded

def State.peerIds (w : State) (pubkey : String) : List Nat := (w.peerRules.filter (·.1 = pubkey)).map Prod.snd

section Conditions

variable (env : Env) (wfp : Platform)

/-- Of the `ids`, which are asked for one after the other from the `n`-th request on, those that the platform deletes. -/
def deleted : Nat → List Nat → List Nat
  | _, [] => []
  | n, id :: ids => if wfp n (.filterDelete id) then id :: deleted (n + 1) ids else deleted (n + 1) ids

def DropsAll (s : Service) : Prop :=
  wfp s.asked .transactionBegin = true →
    wfp (s.asked + 1 + s.firewall.recorded.length) .transactionCommit = true →
      ∀ e ∈ s.firewall.engine, e.1 ∈ deleted wfp (s.asked + 1) s.firewall.recorded

/-- If `disablePeerTraffic` gets started, it is committed and no filter of the peer has been refused, or there is none. -/
def DropsPeer (pubkey : String) (s : Service) : Prop :=
  wfp s.asked .transactionBegin = true → ∀ e ∈ s.firewall.engine, e.1 ∈ s.firewall.peerIds pubkey →
    wfp (s.asked + 1 + (s.firewall.peerIds pubkey).length) .transactionCommit = true ∧
      e.1 ∈ deleted wfp (s.asked + 1) (s.firewall.peerIds pubkey)

def HandlerDrops (s : Service) : Prop := s.strictKillSwitchEnabled = false → DropsAll wfp s

def Outcome.Drops : Outcome → Prop
  | .returns _ _ => True
  | .fails s => HandlerDrops wfp s

def Call.Drops (s : Service) : Call → Prop
  | .enableInterface vpnAdapterIndex => (s.enableInterface env wfp vpnAdapterIndex).Drops wfp
  | .enableLanBypass ranges => (s.enableLanBypass wfp ranges).Drops wfp
  | .allowTrafficRange ranges => (s.allowTrafficRange env wfp ranges).Drops wfp
  | .enablePeerTraffic config => (s.enablePeerTraffic env wfp config).Drops wfp
  | .disablePeerTraffic pubkey => DropsPeer wfp pubkey s
  | .allowAllTraffic => DropsAll wfp s
  | .disableKillSwitch | .killSwitchDisableKillSwitch => HandlerDrops wfp s
  | .killSwitchDisableAllTraffic => (s.enableInterface env wfp (-1)).Drops wfp

def step (depth : Nat) (o : Option Service) (c : Call) : Option Service :=
  o.bind fun s => (exec env wfp (depth + 5) c s).map Prod.snd

def Drops (o : Option Service) (c : Call) : Prop := ∀ s, o = some s → c.Drops env wfp s

end Conditions

section Deletions

variable {wfp : Platform} {s : Service}

theorem forEach_deleteFilter (ids : List Nat) (s : Service) :
    (Action.forEach (Service.deleteFilter wfp) ids s).2 =
      { s.update (deleteFilters (deleted wfp s.asked ids)) with asked := s.asked + ids.length } := by
  induction ids generalizing s with
  | nil => simp [Action.forEach, Action.skip, Service.update, deleteFilters, deleted]
  | cons id ids ih =>
    change (Action.forEach (Service.deleteFilter wfp) ids (Service.deleteFilter wfp id s).2).2 = _
    rw [ih, deleted]
    by_cases hdone : wfp s.asked (.filterDelete id) = true
    · simp [Service.deleteFilter, Action.andThen, Service.request, Action.update, hdone, Service.update, deleteFilters,
        List.filter_filter, Bool.and_comm]
      omega
    · simp [Service.deleteFilter, Action.andThen, Service.request, hdone, Service.update, deleteFilters]
      omega

theorem allowAllTraffic_eq (s : Service) :
    (s.allowAllTraffic wfp).2.firewall =
      if wfp s.asked .transactionBegin = true ∧
          wfp (s.asked + 1 + s.firewall.recorded.length) .transactionCommit = true then
        { deleteFilters (deleted wfp (s.asked + 1) s.firewall.recorded) s.firewall with peerRules := [], activeRules := [] }
      else s.firewall := by
  have hids : s.firewall.peerRules.map Prod.snd ++ s.firewall.activeRules = s.firewall.recorded := rfl
  by_cases hbegin : wfp s.asked .transactionBegin = true
  · by_cases hcommit : wfp (s.asked + 1 + s.firewall.recorded.length) .transactionCommit = true
    · simp [Service.allowAllTraffic, Service.request, hbegin, hids, forEach_deleteFilter, hcommit, Service.update]
    · simp [Service.allowAllTraffic, Service.request, hbegin, hids, forEach_deleteFilter, hcommit, Service.update,
        Service.abort, deleteFilters]
  · simp [Service.allowAllTraffic, Service.request, hbegin]

theorem disablePeerTraffic_eq (pubkey : String) (s : Service) :
    (s.disablePeerTraffic wfp pubkey).2.firewall =
      if wfp s.asked .transactionBegin = true then
        { s.firewall with
          engine :=
            if wfp (s.asked + 1 + (s.firewall.peerIds pubkey).length) .transactionCommit = true then
              s.firewall.engine.filter (·.1 ∉ deleted wfp (s.asked + 1) (s.firewall.peerIds pubkey))
            else s.firewall.engine
          peerRules := s.firewall.peerRules.filter (·.1 ≠ pubkey) }
      else s.firewall := by
  have hids : (s.firewall.peerRules.filter (·.1 = pubkey)).map Prod.snd = s.firewall.peerIds pubkey := rfl
  by_cases hbegin : wfp s.asked .transactionBegin = true
  · by_cases hcommit : wfp (s.asked + 1 + (s.firewall.peerIds pubkey).length) .transactionCommit = true
    · simp [Service.disablePeerTraffic, Service.request, hbegin, hids, forEach_deleteFilter, hcommit, Service.update,
        deleteFilters]
    · simp [Service.disablePeerTraffic, Service.request, hbegin, hids, forEach_deleteFilter, hcommit, Service.update,
        Service.abort, deleteFilters]
  · simp [Service.disablePeerTraffic, Service.request, hbegin]

theorem tracked_allowAllTraffic_iff (h : s.firewall.Tracked) :
    (s.allowAllTraffic wfp).2.firewall.Tracked ↔ DropsAll wfp s := by
  rw [allowAllTraffic_eq, DropsAll]
  split
  next hdone =>
    rw [imp_iff_right hdone.1, imp_iff_right hdone.2, State.Tracked]
    constructor
    · intro hnone e he
      by_contra hrefused
      have hkept : e ∈ s.firewall.engine.filter (·.1 ∉ deleted wfp (s.asked + 1) s.firewall.recorded) :=
        List.mem_filter.mpr ⟨he, decide_eq_true hrefused⟩
      cases hnone e hkept
    · intro hall e he
      obtain ⟨he, hrefused⟩ := List.mem_filter.mp he
      exact absurd (hall e he) (of_decide_eq_true hrefused)
  next hundone => exact iff_of_true h fun hbegin hcommit => absurd ⟨hbegin, hcommit⟩ hundone

theorem recorded_perm (w : State) (pubkey : String) :
    w.recorded.Perm (w.peerIds pubkey ++ ((w.peerRules.filter (·.1 ≠ pubkey)).map Prod.snd ++ w.activeRules)) := by
  have hsplit : (w.peerRules.filter (·.1 = pubkey) ++ w.peerRules.filter (·.1 ≠ pubkey)).Perm w.peerRules := by
    have hall := List.filter_append_perm (fun p : String × Nat => decide (p.1 = pubkey)) w.peerRules
    simpa only [decide_not, ne_eq] using hall
  rw [State.recorded, State.peerIds, ← List.append_assoc, ← List.map_append]
  exact (hsplit.symm.map _).append_right _

theorem tracked_disablePeerTraffic_iff (h : s.firewall.Tracked) (hn : s.firewall.Numbered) (pubkey : String) :
    (s.disablePeerTraffic wfp pubkey).2.firewall.Tracked ↔ DropsPeer wfp pubkey s := by
  rw [disablePeerTraffic_eq, DropsPeer]
  have hnodup := (recorded_perm s.firewall pubkey).nodup_iff.mp hn.nodup
  have hdisjoint : ∀ id ∈ s.firewall.peerIds pubkey,
      id ∉ (s.firewall.peerRules.filter (·.1 ≠ pubkey)).map Prod.snd ++ s.firewall.activeRules :=
    fun id hid hother => (List.nodup_append.mp hnodup).2.2 id hid id hother rfl
  split
  next hbegin =>
    rw [imp_iff_right hbegin]
    constructor
    · intro htracked e he hid
      -- a filter of the peer that is still in force is not written down any more
      by_contra hleft
      refine hdisjoint _ hid (htracked e ?_)
      split
      next hcommit => exact List.mem_filter.mpr ⟨he, decide_eq_true fun hdone => hleft ⟨hcommit, hdone⟩⟩
      · exact he
    · intro hdrops e he
      have hengine : e ∈ s.firewall.engine := by
        split at he
        · exact (List.mem_filter.mp he).1
        · exact he
      rcases List.mem_append.mp ((recorded_perm s.firewall pubkey).mem_iff.mp (h e hengine)) with hid | hother
      · obtain ⟨hcommit, hdone⟩ := hdrops e hengine hid
        rw [if_pos hcommit] at he
        exact absurd hdone (of_decide_eq_true (List.mem_filter.mp he).2)
      · exact hother
  next hbegin => exact iff_of_true h fun hb => absurd hb hbegin

end Deletions

section Steps

variable {env : Env} {wfp : Platform} {s s' : Service}

theorem Grows.tracked (h : Grows s s') (hs : s.firewall.Tracked) : s'.firewall.Tracked := by
  intro e he
  rcases h.engine e he with he | he
  · exact h.recorded _ (hs e he)
  · exact he

theorem numbered_allowAllTraffic (h : s.firewall.Numbered) : (s.allowAllTraffic wfp).2.firewall.Numbered := by
  rw [allowAllTraffic_eq]
  split
  · exact ⟨List.nodup_nil, fun id hid => absurd hid List.not_mem_nil, fun e he => h.engine e (List.mem_filter.mp he).1⟩
  · exact h

theorem numbered_disablePeerTraffic (h : s.firewall.Numbered) (pubkey : String) :
    (s.disablePeerTraffic wfp pubkey).2.firewall.Numbered := by
  rw [disablePeerTraffic_eq]
  split
  · have hperm := recorded_perm s.firewall pubkey
    refine ⟨(List.nodup_append.mp (hperm.nodup_iff.mp h.nodup)).2.1, fun id hid => ?_, fun e he => h.engine e ?_⟩
    · exact h.recorded id (hperm.mem_iff.mpr (List.mem_append_right _ hid))
    · dsimp only at he
      split at he
      · exact (List.mem_filter.mp he).1
      · exact he
  · exact h

theorem exec_invariant {I : Service → Prop} (hgrows : ∀ s s', Grows s s' → I s → I s')
    (hpeer : ∀ s pubkey, I s → I (s.disablePeerTraffic wfp pubkey).2) (hall : ∀ s, I s → I (s.allowAllTraffic wfp).2)
    (depth : Nat) {c : Call} {r : Bool × Service} (hs : I s) (hr : exec env wfp depth c s = some r) : I r.2 := by
  induction depth generalizing c s r with
  | zero => cases hr
  | succ depth ih =>
    have hfinish {o : Outcome} (ho : o.Grows s) (hr : Call.body.finish (exec env wfp depth) o = some r) : I r.2 := by
      cases o with
      | returns result s' =>
        cases hr
        exact hgrows _ _ ho hs
      | fails s' =>
        obtain ⟨r', hr', rfl⟩ := Option.map_eq_some_iff.mp hr
        have hnext := ih (hgrows _ _ ho hs) hr'
        exact hnext
    cases c with
    | enableInterface index => exact hfinish (Service.enableInterface_grows index s) hr
    | enableLanBypass ranges => exact hfinish (Service.enableLanBypass_grows ranges s) hr
    | allowTrafficRange ranges => exact hfinish (Service.allowTrafficRange_grows ranges s) hr
    | enablePeerTraffic config => exact hfinish (Service.enablePeerTraffic_grows config s) hr
    | disablePeerTraffic pubkey =>
      cases hr
      exact hpeer s pubkey hs
    | allowAllTraffic =>
      cases hr
      exact hall s hs
    | disableKillSwitch => exact ih hs hr
    | killSwitchDisableKillSwitch =>
      change (if s.strictKillSwitchEnabled then _ else _) = some r at hr
      split at hr
      · exact ih hs hr
      · exact ih hs hr
    | killSwitchDisableAllTraffic =>
      obtain ⟨r', hr', rfl⟩ := Option.map_eq_some_iff.mp hr
      have hnext := ih hs hr'
      exact hgrows _ _ (.cleared r'.2) hnext

theorem grows_of_handler (depth : Nat) {r : Bool × Service} (h : s.strictKillSwitchEnabled = true)
    (hr : exec env wfp depth .disableKillSwitch s = some r) : Grows s r.2 := by
  induction depth using Nat.strongRecOn generalizing s r with
  | ind depth ih =>
    have hgrows : (s.enableInterface env wfp (-1)).Grows s := Service.enableInterface_grows (-1) s
    rcases handler_cases h hr with ⟨result, s', ho, hend⟩ | ⟨s', r', deeper, ho, hdeeper, hr', hend⟩
    · rw [ho] at hgrows
      rw [hend]
      exact Grows.trans hgrows (.cleared s')
    · rw [ho] at hgrows
      have hnext := ih deeper hdeeper ((strict_of_fails ho).trans h) hr'
      rw [hend]
      exact (Grows.trans hgrows hnext).trans (.cleared r'.2)

theorem tracked_handler_iff (h : s.firewall.Tracked) (depth : Nat) :
    (∀ r, exec env wfp (depth + 3) .disableKillSwitch s = some r → r.2.firewall.Tracked) ↔ HandlerDrops wfp s := by
  rw [HandlerDrops]
  by_cases hstrict : s.strictKillSwitchEnabled = true
  · refine iff_of_true (fun r hr => (grows_of_handler _ hstrict hr).tracked h) fun hrelaxed => ?_
    rw [hstrict] at hrelaxed
    cases hrelaxed
  · rw [Bool.not_eq_true] at hstrict
    rw [imp_iff_right hstrict, ← tracked_allowAllTraffic_iff h, exec_handler_of_relaxed hstrict]
    exact ⟨fun hall => hall _ rfl, fun hdone r hr => Option.some.inj hr ▸ hdone⟩

theorem tracked_finish_iff {o : Outcome} (ho : o.Grows s) (h : s.firewall.Tracked) (depth : Nat) :
    (∀ r, Call.body.finish (exec env wfp (depth + 3)) o = some r → r.2.firewall.Tracked) ↔ o.Drops wfp := by
  cases o with
  | returns result s' =>
    refine iff_of_true (fun r hr => ?_) trivial
    cases hr
    exact Grows.tracked ho h
  | fails s' =>
    rw [Outcome.Drops, ← tracked_handler_iff (Grows.tracked ho h) depth]
    constructor
    · intro hall r hr
      exact hall (false, r.2) (by rw [Call.body.finish, hr]; rfl)
    · intro hall r hr
      obtain ⟨r', hr', rfl⟩ := Option.map_eq_some_iff.mp hr
      exact hall r' hr'

theorem tracked_exec_iff (h : s.firewall.Tracked) (hn : s.firewall.Numbered) (depth : Nat) (c : Call) :
    (∀ r, exec env wfp (depth + 5) c s = some r → r.2.firewall.Tracked) ↔ c.Drops env wfp s := by
  cases c with
  | enableInterface index => exact tracked_finish_iff (Service.enableInterface_grows index s) h (depth + 1)
  | enableLanBypass ranges => exact tracked_finish_iff (Service.enableLanBypass_grows ranges s) h (depth + 1)
  | allowTrafficRange ranges => exact tracked_finish_iff (Service.allowTrafficRange_grows ranges s) h (depth + 1)
  | enablePeerTraffic config => exact tracked_finish_iff (Service.enablePeerTraffic_grows config s) h (depth + 1)
  | disablePeerTraffic pubkey =>
    rw [Call.Drops, ← tracked_disablePeerTraffic_iff h hn]
    exact ⟨fun hall => hall _ rfl, fun hdone r hr => Option.some.inj hr ▸ hdone⟩
  | allowAllTraffic =>
    rw [Call.Drops, ← tracked_allowAllTraffic_iff h]
    exact ⟨fun hall => hall _ rfl, fun hdone r hr => Option.some.inj hr ▸ hdone⟩
  | disableKillSwitch => exact tracked_handler_iff h (depth + 2)
  | killSwitchDisableKillSwitch => exact tracked_handler_iff h (depth + 3)
  | killSwitchDisableAllTraffic =>
    have hblocked : (∀ r, exec env wfp (depth + 4) (.enableInterface (-1)) s = some r → r.2.firewall.Tracked) ↔ _ :=
      tracked_finish_iff (Service.enableInterface_grows (-1) s) h depth
    rw [Call.Drops, ← hblocked]
    constructor
    · intro hall r hr
      exact hall (true, { r.2 with allowedRanges := [] }) (congrArg (Option.map _) hr)
    · intro hall r hr
      obtain ⟨r', hr', rfl⟩ := Option.map_eq_some_iff.mp hr
      exact hall r' hr'

end Steps

section Runs

variable {env : Env} {wfp : Platform}

def start (strict : Bool) : Service := ⟨⟨{}, strict, []⟩, 0⟩

theorem recorded_of_allowAllTraffic {s s' : Service} (hs : s.allowAllTraffic wfp = (true, s')) :
    s'.firewall.recorded = [] := by
  simp only [Service.allowAllTraffic] at hs
  split at hs
  · split at hs
    · cases hs
      rfl
    · cases hs
  · cases hs

theorem numbered_run (strict : Bool) (depth : Nat) (calls : List Call) (s : Service)
    (hs : calls.foldl (step env wfp depth) (some (start strict)) = some s) : s.firewall.Numbered := by
  induction calls using List.reverseRecOn generalizing s with
  | nil =>
    cases hs
    exact ⟨List.nodup_nil, fun id hid => absurd hid List.not_mem_nil, fun e he => absurd he List.not_mem_nil⟩
  | append_singleton past c ih =>
    rw [List.foldl_append] at hs
    obtain ⟨s', hs', hr⟩ := Option.bind_eq_some_iff.mp hs
    obtain ⟨r, hexec, rfl⟩ := Option.map_eq_some_iff.mp hr
    refine exec_invariant (I := fun s => s.firewall.Numbered) ?_ ?_ ?_ _ (ih s' hs') hexec
    · exact fun s s' hgrows => hgrows.numbered
    · exact fun s pubkey hn => numbered_disablePeerTraffic hn pubkey
    · exact fun s hn => numbered_allowAllTraffic hn

/-- After every call of a run all filters in force are written down, if and only if every call on the way either leaves its
deletions undone as a whole or has them done. If `allowAllTraffic` returns true, this is to say that no filter is left. -/
theorem tracked_along_iff (env : Env) (wfp : Platform) (strict : Bool) (depth : Nat) (calls : List Call) :
    ((∀ past, past <+: calls → ∀ s, past.foldl (step env wfp depth) (some (start strict)) = some s →
        s.firewall.Tracked) ↔ Along (step env wfp depth) (Drops env wfp) (some (start strict)) calls) ∧
      ∀ s s' : Service, s.allowAllTraffic wfp = (true, s') → (s'.firewall.Tracked ↔ s'.firewall.engine = []) := by
  constructor
  · have hstart : ∀ s, some (start strict) = some s → s.firewall.Tracked := by
      intro s hs
      cases hs
      exact fun e he => absurd he List.not_mem_nil
    refine forall_prefix_iff_along (I := fun o : Option Service => ∀ s, o = some s → s.firewall.Tracked) hstart
      (fun past c hpast => ?_) calls
    cases ho : past.foldl (step env wfp depth) (some (start strict)) with
    | none => exact iff_of_true (fun s hs => by cases hs) fun s hs => by cases hs
    | some s =>
      have hiff : _ ↔ c.Drops env wfp s :=
        tracked_exec_iff (hpast s ho) (numbered_run strict depth past s ho) depth c
      refine Iff.trans ?_ (hiff.trans ?_)
      · constructor
        · intro hall r hr
          exact hall r.2 (by rw [step, Option.bind_some, hr]; rfl)
        · intro hall s' hs'
          obtain ⟨r, hr, rfl⟩ := Option.map_eq_some_iff.mp hs'
          exact hall r hr
      · exact ⟨fun hc s' hs' => Option.some.inj hs' ▸ hc, fun hc => hc s rfl⟩
  · intro s s' hs
    rw [State.Tracked, recorded_of_allowAllTraffic hs, List.eq_nil_iff_forall_not_mem]
    exact forall_congr' fun e => imp_congr_right fun _ => iff_false_intro List.not_mem_nil

end Runs

section Samples

def samplePeer : InterfaceConfig := { serverPublicKey := "key", excludedAddresses := ["203.0.113.7"] }

def sampleCalls : List Call := [.enablePeerTraffic samplePeer, .disablePeerTraffic "key", .allowAllTraffic]

/-- The result of the last call, the filters that are left and the ids that are written down. -/
def sampleEnd (wfp : Platform) (calls : List Call) : Option (Bool × List Nat × List Nat) := do
  let s ← calls.dropLast.foldl (step sampleEnv wfp 0) (some (start false))
  let r ← exec sampleEnv wfp 5 (← calls.getLast?) s
  pure (r.1, r.2.firewall.engine.map Prod.fst, r.2.firewall.recorded)

/-- The filters of a peer are lost when the commit of `disablePeerTraffic` fails (the eighth request), or when a deletion is
refused (the sixth); then `allowAllTraffic` returns true and they stay. It also returns true when a deletion of its own is
refused. -/
theorem filters_get_lost :
    sampleEnd (fun n _ => n ≠ 7) sampleCalls = some (true, [0, 1], []) ∧
      sampleEnd (fun n _ => n ≠ 5) sampleCalls = some (true, [0], []) ∧
      sampleEnd (fun n _ => n ≠ 5) [.enablePeerTraffic samplePeer, .allowAllTraffic] = some (true, [0], []) := by
  decide +kernel

end Samples

end TunnelCore.WindowsFirewall
