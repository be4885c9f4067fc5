import TunnelCore.KillSwitch.WindowsCalls

namespace TunnelCore.WindowsFirewall

open Daemon KillSwitch.Windows

section Attempts

variable (env : Env) (wfp : Platform)

/-- In strict mode the failure handler tries to block all traffic again, and so does the handler of that attempt. This is
the case if and only if one of the attempts comes to an end without its handler. -/
inductive Settles : Service → Prop
  | returns {s s' : Service} {result : Bool} (h : s.enableInterface env wfp (-1) = .returns result s') : Settles s
  | fails {s s' : Service} (h : s.enableInterface env wfp (-1) = .fails s') (hs : Settles s') : Settles s

def Outcome.Settled : Outcome → Prop
  | .returns _ _ => True
  | .fails s => Settles env wfp s

def Call.Settled (s : Service) : Call → Prop
  | .enableInterface vpnAdapterIndex => (s.enableInterface env wfp vpnAdapterIndex).Settled env wfp
  | .enableLanBypass ranges => (s.enableLanBypass wfp ranges).Settled env wfp
  | .allowTrafficRange ranges => (s.allowTrafficRange env wfp ranges).Settled env wfp
  | .enablePeerTraffic config => (s.enablePeerTraffic env wfp config).Settled env wfp
  | .disablePeerTraffic _ | .allowAllTraffic => True
  | .disableKillSwitch | .killSwitchDisableKillSwitch | .killSwitchDisableAllTraffic => Settles env wfp s

end Attempts

def Call.HasHandler : Call → Prop
  | .disablePeerTraffic _ | .allowAllTraffic => False
  | _ => True

def stubborn : Platform
  | _, .transactionBegin => false
  | _, _ => true

section Relaxed

variable {env : Env} {wfp : Platform} {s : Service}

theorem exec_handler_of_relaxed (h : s.strictKillSwitchEnabled = false) (depth : Nat) :
    exec env wfp (depth + 3) .disableKillSwitch s = some (s.allowAllTraffic wfp) := by
  change exec env wfp (depth + 2) .killSwitchDisableKillSwitch s = _
  change (if s.strictKillSwitchEnabled then _ else _) = _
  rw [h]
  rfl

theorem finish_of_relaxed {o : Outcome} (h : s.strictKillSwitchEnabled = false) (ho : o.Grows s) (depth : Nat) :
    ∃ r, Call.body.finish (exec env wfp (depth + 3)) o = some r := by
  cases o with
  | returns result s' => exact ⟨_, rfl⟩
  | fails s' =>
    have hrelaxed : s'.strictKillSwitchEnabled = false := ho.strict.trans h
    rw [Call.body.finish, exec_handler_of_relaxed hrelaxed]
    exact ⟨_, rfl⟩

theorem exec_enableInterface_of_relaxed (h : s.strictKillSwitchEnabled = false) (depth : Nat) (index : Int) :
    ∃ r, exec env wfp (depth + 4) (.enableInterface index) s = some r :=
  finish_of_relaxed h (Service.enableInterface_grows index s) depth

theorem exec_of_relaxed (h : s.strictKillSwitchEnabled = false) (depth : Nat) (c : Call) :
    ∃ r, exec env wfp (depth + 5) c s = some r := by
  cases c with
  | enableInterface index => exact exec_enableInterface_of_relaxed h (depth + 1) index
  | enableLanBypass ranges => exact finish_of_relaxed h (Service.enableLanBypass_grows ranges s) (depth + 1)
  | allowTrafficRange ranges => exact finish_of_relaxed h (Service.allowTrafficRange_grows ranges s) (depth + 1)
  | enablePeerTraffic config => exact finish_of_relaxed h (Service.enablePeerTraffic_grows config s) (depth + 1)
  | disablePeerTraffic pubkey => exact ⟨_, rfl⟩
  | allowAllTraffic => exact ⟨_, rfl⟩
  | disableKillSwitch => exact ⟨_, exec_handler_of_relaxed h (depth + 2)⟩
  | killSwitchDisableKillSwitch => exact ⟨_, exec_handler_of_relaxed h (depth + 3)⟩
  | killSwitchDisableAllTraffic =>
    have hblocked : ∃ r, exec env wfp (depth + 4) (.enableInterface (-1)) s = some r :=
      exec_enableInterface_of_relaxed h depth (-1)
    obtain ⟨r, hr⟩ := hblocked
    refine ⟨(true, { r.2 with allowedRanges := [] }), ?_⟩
    change Option.map _ (exec env wfp (depth + 4) (.enableInterface (-1)) s) = _
    rw [hr]
    rfl

end Relaxed

section Strict

variable {env : Env} {wfp : Platform} {s s' : Service}

theorem exec_handler_of_strict (h : s.strictKillSwitchEnabled = true) (depth : Nat) :
    exec env wfp (depth + 4) .disableKillSwitch s =
      (Call.body.finish (exec env wfp depth) (s.enableInterface env wfp (-1))).map
        fun r => (true, { r.2 with allowedRanges := [] }) := by
  change exec env wfp (depth + 3) .killSwitchDisableKillSwitch s = _
  change (if s.strictKillSwitchEnabled then _ else _) = _
  rw [h]
  rfl

theorem exec_handler_of_shallow (h : s.strictKillSwitchEnabled = true) {depth : Nat} (hdepth : depth ≤ 3) :
    exec env wfp depth .disableKillSwitch s = none := by
  rcases depth with _ | _ | _ | _ | depth
  · rfl
  · rfl
  · change (if s.strictKillSwitchEnabled then _ else _) = _
    rw [h]
    rfl
  · change (if s.strictKillSwitchEnabled then _ else _) = _
    rw [h]
    rfl
  · omega

/-- The handler returns after an attempt that returns, or after the handler of one that fails, four calls deeper. -/
theorem handler_cases {depth : Nat} {r : Bool × Service} (h : s.strictKillSwitchEnabled = true)
    (hr : exec env wfp depth .disableKillSwitch s = some r) :
    (∃ result s', s.enableInterface env wfp (-1) = .returns result s' ∧ r.2 = { s' with allowedRanges := [] }) ∨
      ∃ s' r' deeper, s.enableInterface env wfp (-1) = .fails s' ∧ deeper < depth ∧
        exec env wfp deeper .disableKillSwitch s' = some r' ∧ r.2 = { r'.2 with allowedRanges := [] } := by
  have hdeep : 4 ≤ depth := by
    by_contra hshallow
    have hnone : exec env wfp depth .disableKillSwitch s = none := exec_handler_of_shallow h (by omega)
    rw [hnone] at hr
    cases hr
  obtain ⟨depth, rfl⟩ := Nat.exists_eq_add_of_le' hdeep
  rw [exec_handler_of_strict h, Option.map_eq_some_iff] at hr
  obtain ⟨r', hr', rfl⟩ := hr
  cases ho : s.enableInterface env wfp (-1) with
  | returns result s' =>
    rw [ho] at hr'
    cases hr'
    exact .inl ⟨result, s', rfl, rfl⟩
  | fails s' =>
    rw [ho] at hr'
    obtain ⟨r'', hr'', rfl⟩ := Option.map_eq_some_iff.mp hr'
    exact .inr ⟨s', r'', depth, rfl, by omega, hr'', rfl⟩

theorem strict_of_fails {index : Int} (ho : s.enableInterface env wfp index = .fails s') :
    s'.strictKillSwitchEnabled = s.strictKillSwitchEnabled := by
  have hgrows : (s.enableInterface env wfp index).Grows s := Service.enableInterface_grows index s
  rw [ho] at hgrows
  exact hgrows.strict

theorem settles_of_exec (depth : Nat) {r : Bool × Service} (h : s.strictKillSwitchEnabled = true)
    (hr : exec env wfp depth .disableKillSwitch s = some r) : Settles env wfp s := by
  induction depth using Nat.strongRecOn generalizing s r with
  | ind depth ih =>
    rcases handler_cases h hr with ⟨result, s', ho, -⟩ | ⟨s', r', deeper, ho, hdeeper, hr', -⟩
    · exact .returns ho
    · exact .fails ho (ih deeper hdeeper ((strict_of_fails ho).trans h) hr')

theorem exec_of_settles (h : s.strictKillSwitchEnabled = true) (hs : Settles env wfp s) :
    ∃ depth r, exec env wfp depth .disableKillSwitch s = some r := by
  induction hs with
  | returns ho => exact ⟨4, _, by rw [exec_handler_of_strict h, ho]; rfl⟩
  | @fails s s' ho hs ih =>
    obtain ⟨depth, r, hr⟩ := ih ((strict_of_fails ho).trans h)
    exact ⟨depth + 4, _, by rw [exec_handler_of_strict h, ho, Call.body.finish, hr]; rfl⟩

theorem exec_handler_iff (h : s.strictKillSwitchEnabled = true) :
    (∃ depth r, exec env wfp depth .disableKillSwitch s = some r) ↔ Settles env wfp s :=
  ⟨fun ⟨depth, _, hr⟩ => settles_of_exec depth h hr, exec_of_settles h⟩

theorem finish_iff {o : Outcome} (h : s.strictKillSwitchEnabled = true) (ho : o.Grows s) :
    (∃ depth r, Call.body.finish (exec env wfp depth) o = some r) ↔ o.Settled env wfp := by
  cases o with
  | returns result s' => exact iff_of_true ⟨0, _, rfl⟩ trivial
  | fails s' =>
    rw [Outcome.Settled, ← exec_handler_iff (ho.strict.trans h)]
    simp only [Call.body.finish, Option.map_eq_some_iff]
    constructor
    · rintro ⟨depth, -, r, hr, -⟩
      exact ⟨depth, r, hr⟩
    · rintro ⟨depth, r, hr⟩
      exact ⟨depth, _, r, hr, rfl⟩

theorem exists_exec_iff (c : Call) :
    (∃ depth r, exec env wfp depth c s = some r) ↔ ∃ depth r, c.body env wfp (exec env wfp depth) s = some r := by
  constructor
  · rintro ⟨depth, r, hr⟩
    cases depth with
    | zero => cases hr
    | succ depth => exact ⟨depth, r, hr⟩
  · rintro ⟨depth, r, hr⟩
    exact ⟨depth + 1, r, hr⟩

theorem exec_iff_of_strict (h : s.strictKillSwitchEnabled = true) (c : Call) :
    (∃ depth r, exec env wfp depth c s = some r) ↔ c.Settled env wfp s := by
  have hhandler : (∃ depth r, exec env wfp depth .disableKillSwitch s = some r) ↔ Settles env wfp s := exec_handler_iff h
  cases c with
  | enableInterface index => exact (exists_exec_iff _).trans (finish_iff h (Service.enableInterface_grows index s))
  | enableLanBypass ranges => exact (exists_exec_iff _).trans (finish_iff h (Service.enableLanBypass_grows ranges s))
  | allowTrafficRange ranges => exact (exists_exec_iff _).trans (finish_iff h (Service.allowTrafficRange_grows ranges s))
  | enablePeerTraffic config => exact (exists_exec_iff _).trans (finish_iff h (Service.enablePeerTraffic_grows config s))
  | disablePeerTraffic pubkey => exact iff_of_true ⟨1, _, rfl⟩ trivial
  | allowAllTraffic => exact iff_of_true ⟨1, _, rfl⟩ trivial
  | disableKillSwitch => exact hhandler
  | killSwitchDisableKillSwitch =>
    -- the handler does nothing but call this function
    exact (exists_exec_iff _).symm.trans hhandler
  | killSwitchDisableAllTraffic =>
    have hinner : (∃ depth r, exec env wfp depth .killSwitchDisableKillSwitch s = some r) ↔ Settles env wfp s :=
      (exists_exec_iff _).symm.trans hhandler
    refine Iff.trans ?_ hinner
    rw [exists_exec_iff .killSwitchDisableKillSwitch]
    change _ ↔ ∃ depth r, (if s.strictKillSwitchEnabled then _ else _) = some r
    rw [h]
    rfl

end Strict

section Stubborn

variable {env : Env}

theorem enableFilters_stubborn (filters : List Filter) (peer : String) (s : Service) :
    (Service.enableFilters stubborn filters peer s).1 = true := by
  induction filters generalizing s with
  | nil => rfl
  | cons f filters ih => exact ih _

theorem enableInterface_stubborn (env : Env) (index : Int) (s : Service) :
    ∃ s', s.enableInterface env stubborn index = .fails s' := by
  simp only [Service.enableInterface]
  split
  · have hblocked : ((Service.blockTrafficTo stubborn allv4 medWeight "killswitch").andThen
        (Service.blockTrafficTo stubborn allv6 medWeight "killswitch") s).1 = true := by
      rw [Action.andThen, Service.blockTrafficTo, if_pos (enableFilters_stubborn ..), Service.blockTrafficTo]
      exact enableFilters_stubborn ..
    rw [if_pos hblocked]
    exact ⟨_, rfl⟩
  · exact ⟨_, rfl⟩

theorem not_settles_stubborn (s : Service) : ¬Settles env stubborn s := by
  intro hs
  induction hs with
  | @returns s s' result ho =>
    obtain ⟨s'', ho'⟩ := enableInterface_stubborn env (-1) s
    rw [ho] at ho'
    cases ho'
  | fails ho hs ih => exact ih

theorem not_settled_stubborn {c : Call} (hc : c.HasHandler) (s : Service) : ¬c.Settled env stubborn s := by
  cases c with
  | enableInterface index =>
    obtain ⟨s', ho⟩ := enableInterface_stubborn env index s
    rw [Call.Settled, ho]
    exact not_settles_stubborn s'
  | enableLanBypass ranges => exact not_settles_stubborn _
  | allowTrafficRange ranges => exact not_settles_stubborn _
  | enablePeerTraffic config => exact not_settles_stubborn _
  | disablePeerTraffic pubkey => exact hc.elim
  | allowAllTraffic => exact hc.elim
  | disableKillSwitch => exact not_settles_stubborn s
  | killSwitchDisableKillSwitch => exact not_settles_stubborn s
  | killSwitchDisableAllTraffic => exact not_settles_stubborn s

end Stubborn

/-- Whatever the platform does, the calls return within a fixed depth, if and only if strict mode is off. In strict mode a
call returns if and only if it does not reach its handler or the attempts of the handler settle. -/
theorem calls_return_iff (env : Env) (strict : Bool) :
    (∀ c : Call, c.HasHandler →
        ((∃ depth, ∀ (wfp : Platform) (s : Service), s.strictKillSwitchEnabled = strict →
          ∃ r, exec env wfp depth c s = some r) ↔ strict = false)) ∧
      ∀ (wfp : Platform) (s : Service) (c : Call), s.strictKillSwitchEnabled = strict →
        ((∃ depth r, exec env wfp depth c s = some r) ↔ strict = false ∨ c.Settled env wfp s) := by
  constructor
  · intro c hc
    constructor
    · rintro ⟨depth, hall⟩
      by_contra hstrict
      rw [Bool.not_eq_false] at hstrict
      obtain ⟨r, hr⟩ := hall stubborn ⟨⟨{}, strict, []⟩, 0⟩ rfl
      exact not_settled_stubborn hc _ ((exec_iff_of_strict hstrict c).mp ⟨depth, r, hr⟩)
    · rintro rfl
      exact ⟨0 + 5, fun wfp s hs => exec_of_relaxed hs 0 c⟩
  · intro wfp s c hs
    cases strict with
    | false => exact iff_of_true ⟨0 + 5, exec_of_relaxed hs 0 c⟩ (.inl rfl)
    | true => simpa using exec_iff_of_strict hs c

section Samples

def sampleService (strict : Bool) : Service := ⟨⟨{}, strict, []⟩, 0⟩

def sampleEnv : Env := ⟨⟨fun _ => .null, fun _ => (.null, -1)⟩, ⟨"TunnelCore-service.exe", [1]⟩⟩

/-- In strict mode, blocking all traffic while no transaction can be begun calls itself for ever. -/
theorem enableInterface_never_returns :
    (sampleService true).strictKillSwitchEnabled = true ∧
      ∀ depth, exec sampleEnv stubborn depth (.enableInterface (-1)) (sampleService true) = none := by
  refine ⟨rfl, fun depth => ?_⟩
  have hhandler : (Call.enableInterface (-1)).HasHandler := trivial
  cases hr : exec sampleEnv stubborn depth (.enableInterface (-1)) (sampleService true) with
  | none => rfl
  | some r => exact (not_settled_stubborn hhandler _ ((exec_iff_of_strict rfl _).mp ⟨depth, r, hr⟩)).elim

end Samples

end TunnelCore.WindowsFirewall
