import TunnelCore.Android.VpnService
import TunnelCore.Library.Runs

namespace TunnelCore.Android.VpnService

open Jobs

def Completed (s : Service) (id : Nat) : Prop := phaseOf s.disconnections id = some .completed

instance (s : Service) (id : Nat) : Decidable (Completed s id) := inferInstanceAs (Decidable (_ = _))

/-- The disconnection job waits for a state that the service has left: it goes on to its time limit, where it
stops the service. -/
def Overdue (s : Service) (d : Nat) : Prop :=
  s.disconnections[d]? = some ⟨.waiting, false⟩ ∧ s.protocolState ≠ .disconnected

instance (s : Service) (d : Nat) : Decidable (Overdue s d) := inferInstanceAs (Decidable (_ ∧ _))

structure Idle (s : Service) : Prop where
  connections : ∀ c phase, phaseOf s.connections c = some phase → phase = .completed
  disconnections : ∀ d phase, phaseOf s.disconnections d = some phase → phase = .completed

def Single (d : Nat) (s : Service) : Step → Prop
  | .disconnect => s.AcceptsDisconnect → Completed s d
  | _ => True

instance (d : Nat) (s : Service) : (step : Step) → Decidable (Single d s step)
  | .disconnect => inferInstanceAs (Decidable (_ → _))
  | .connect _ | .connection _ _ | .disconnection _ | .timeout _ | .status _ => isTrue trivial

/-- No connect is accepted between the job's `stopVpn` and its look at the state. -/
def Unhurried (d : Nat) (s : Service) : Step → Prop
  | .connect request => s.AcceptsConnect request → phaseOf s.disconnections d ≠ some .waiting
  | _ => True

instance (d : Nat) (s : Service) : (step : Step) → Decidable (Unhurried d s step)
  | .connect _ => inferInstanceAs (Decidable (_ → _))
  | .disconnect | .connection _ _ | .disconnection _ | .timeout _ | .status _ => isTrue trivial

/-- The job is under way, and whatever was connected since waits for it. While it waits, `told` is the state of the
service. -/
structure Holding (s : Service) (d : Nat) (phase : DisconnectionPhase) (told : ProtocolState := .disconnected) :
    Prop where
  job : s.disconnections[d]? = some ⟨phase, false⟩
  alone : ∀ e, e ≠ d → ∀ p, phaseOf s.disconnections e = some p → p = .completed
  field : s.disconnectionJob = some d
  blocked : ∀ c p, phaseOf s.connections c = some p → p = .launched ∨ p = .joining d ∨ p = .completed
  opened : phase ≠ .waiting → s.tunnelHandle ≠ -1
  stopped : phase = .waiting → s.protocolState = told ∧ s.statusJob = false

section Steps

variable {s : Service} {d id : Nat}

theorem connectToVpn_of_not_accepts {request : Request} (h : ¬s.AcceptsConnect request) :
    s.connectToVpn request = s ∨ s.connectToVpn request = { s with protocolState := .disconnected } := by
  rw [Service.connectToVpn]
  split
  · exact .inl rfl
  next hstate =>
    split
    · exact .inr rfl
    · exact .inr rfl
    next hconfig =>
      simp only
      split
      next hpermission =>
        obtain ⟨hconnected, hconnecting⟩ := not_or.mp hstate
        exact absurd ⟨hconnected, hconnecting, hconfig, hpermission⟩ h
      · exact .inr rfl

theorem connectToVpn_of_accepts {request : Request} (h : s.AcceptsConnect request) :
    s.connectToVpn request = { s with
      protocolState := .connecting
      connectionJob := some s.connections.length
      connections := launch .launched s.connections } := by
  obtain ⟨hconnected, hconnecting, hconfig, hpermission⟩ := h
  rw [Service.connectToVpn, if_neg (not_or.mpr ⟨hconnected, hconnecting⟩), hconfig]
  simp only [hpermission, if_true]

theorem disconnect_of_accepts (hcall : s.AcceptsDisconnect) : s.disconnect = { s with
    protocolState := .disconnecting
    disconnectionJob := some s.disconnections.length
    disconnections := launch .launched s.disconnections } :=
  if_pos hcall

theorem stepStatus_eq (reported : Int) (s : Service) : ∃ state status,
    s.stepStatus reported = { s with protocolState := state, statusJob := status } := by
  rw [Service.stepStatus]
  split
  · exact ⟨_, _, rfl⟩
  · split
    · exact ⟨_, _, rfl⟩
    · split
      · exact ⟨_, _, rfl⟩
      · exact ⟨_, _, rfl⟩

theorem stopVpn_disconnections (s : Service) : s.stopVpn.disconnections = s.disconnections := by
  rw [Service.stopVpn]
  split
  · rfl
  · rfl

theorem startVpn_disconnections (backend : Backend) (s : Service) :
    (s.startVpn backend).1.disconnections = s.disconnections := by
  simp only [Service.startVpn, Service.start, Service.turnOffVpn]
  repeat' split
  all_goals rfl

theorem phaseOf_endConnection (s : Service) (id d : Nat) (succeeded : Bool) :
    phaseOf (s.endConnection id succeeded).disconnections d = phaseOf s.disconnections d := by
  cases succeeded with
  | true => rfl
  | false =>
    change phaseOf (s.disconnectionJob.elim s.disconnections (cancel · s.disconnections)) d = _
    cases s.disconnectionJob with
    | none => rfl
    | some other => exact phaseOf_cancel

theorem phaseOf_stepConnection (s : Service) (id d : Nat) (backend : Backend) (job : Job ConnectionPhase) :
    phaseOf (s.stepConnection id backend job).disconnections d = phaseOf s.disconnections d := by
  rw [Service.stepConnection]
  split
  · split <;> rfl
  · split
    · rfl
    · split <;> rfl
  · simp only [Service.internalInit]
    split
    next hinit =>
      split at hinit
      · cases hinit
        rfl
      · cases hinit
    · rw [phaseOf_endConnection]
  · rw [phaseOf_endConnection, startVpn_disconnections]
  · rfl

theorem Completed.moveDisconnection (h : Completed s d) (hid : id ≠ d) (phase : DisconnectionPhase) :
    Completed (s.moveDisconnection id phase) d :=
  (phaseOf_moveTo_of_ne hid).trans h

theorem Completed.disconnection (h : Completed s d) (id : Nat) : Completed (Step.run s (.disconnection id)) d := by
  rw [Step.run]
  cases hjob : s.disconnections[id]? with
  | none => exact h
  | some job =>
    rw [Option.elim_some, Service.stepDisconnection]
    by_cases hid : id = d
    · subst hid
      rw [Option.some.inj ((phaseOf_eq_some hjob).symm.trans h)]
      exact h
    have hstop : Completed ({ s with connectionJob := none } : Service).stopVpn d := by
      rw [Completed, stopVpn_disconnections]
      exact h
    split
    · split
      · exact h.moveDisconnection hid _
      · split
        · exact h.moveDisconnection hid _
        · exact Completed.moveDisconnection (s := { s with connections := _ }) h hid _
    · split
      · exact h.moveDisconnection hid _
      · split
        · exact h.moveDisconnection hid _
        · exact h
    · exact hstop.moveDisconnection hid _
    · split
      · exact h.moveDisconnection hid _
      · exact h
    · exact h

theorem Completed.timeout (h : Completed s d) (id : Nat) : Completed (Step.run s (.timeout id)) d := by
  rw [Step.run]
  cases hjob : s.disconnections[id]? with
  | none => exact h
  | some job =>
    rw [Option.elim_some, Service.timeoutDisconnection]
    split
    next hwaiting =>
      refine Completed.moveDisconnection (s := { s with stopService := true }) h ?_ _
      rintro rfl
      have hphase := (phaseOf_eq_some hjob).symm.trans h
      rw [hwaiting] at hphase
      cases hphase
    · exact h

theorem Completed.step (h : Completed s d) (step : Step) : Completed (step.run s) d := by
  cases step with
  | connect request =>
    rw [Step.run]
    by_cases hcall : s.AcceptsConnect request
    · rw [connectToVpn_of_accepts hcall]
      exact h
    · rcases connectToVpn_of_not_accepts hcall with heq | heq
      · rwa [heq]
      · rw [heq]
        exact h
  | disconnect =>
    rw [Step.run]
    by_cases hcall : s.AcceptsDisconnect
    · rw [disconnect_of_accepts hcall, Completed, phaseOf_launch, if_neg]
      · exact h
      · rintro rfl
        simp [Completed, phaseOf] at h
    · rwa [Service.disconnect, if_neg hcall]
  | connection id backend =>
    rw [Step.run]
    cases s.connections[id]? with
    | none => exact h
    | some job => exact (phaseOf_stepConnection s id d backend job).trans h
  | disconnection id => exact h.disconnection id
  | timeout id => exact h.timeout id
  | status reported =>
    obtain ⟨state, status, heq⟩ := stepStatus_eq reported s
    rw [Step.run, heq]
    exact h

end Steps

section Holding

variable {s : Service} {d id : Nat} {phase : DisconnectionPhase} {told : ProtocolState}

theorem Holding.not_overdue (h : Holding s d phase) : ¬Overdue s d := by
  rintro ⟨hjob, hstate⟩
  rw [h.job] at hjob
  cases hjob
  exact hstate (h.stopped rfl).1

theorem Holding.status (h : Holding s d phase told) (reported : Int) : Holding (s.stepStatus reported) d phase told := by
  by_cases hwaiting : phase = .waiting
  · have hsame : s.stepStatus reported = s := by simp [Service.stepStatus, (h.stopped hwaiting).2]
    rwa [hsame]
  · obtain ⟨state, status, heq⟩ := stepStatus_eq reported s
    rw [heq]
    exact { h with stopped := fun hw => absurd hw hwaiting }

theorem Holding.connect (h : Holding s d phase) {request : Request} (hcall : s.AcceptsConnect request)
    (hwaiting : phase ≠ .waiting) : Holding (s.connectToVpn request) d phase := by
  rw [connectToVpn_of_accepts hcall]
  refine { h with blocked := fun c p hp => ?_, stopped := fun hw => absurd hw hwaiting }
  rw [phaseOf_launch] at hp
  split at hp
  · exact .inl (Option.some.inj hp).symm
  · exact h.blocked c p hp

theorem Holding.refused (h : Holding s d phase) {request : Request} (hcall : ¬s.AcceptsConnect request) :
    Holding (s.connectToVpn request) d phase := by
  rcases connectToVpn_of_not_accepts hcall with heq | heq
  · rwa [heq]
  · rw [heq]
    exact { h with stopped := fun hw => ⟨rfl, (h.stopped hw).2⟩ }

theorem Holding.connection (h : Holding s d phase told) (hrunning : phase ≠ .completed) (id : Nat) (backend : Backend) :
    Holding (Step.run s (.connection id backend)) d phase told := by
  rw [Step.run]
  cases hjob : s.connections[id]? with
  | none => exact h
  | some job =>
    have hphase := phaseOf_eq_some hjob
    have hmove : ∀ next, next = .joining d ∨ next = .completed → Holding (s.moveConnection id next) d phase told := by
      intro next hnext
      refine { h with blocked := fun c p hp => ?_ }
      by_cases hc : id = c
      · subst hc
        rw [Service.moveConnection, phaseOf_moveTo_self hphase] at hp
        rw [← Option.some.inj hp]
        exact .inr hnext
      · rw [Service.moveConnection, phaseOf_moveTo_of_ne hc] at hp
        exact h.blocked c p hp
    rw [Option.elim_some, Service.stepConnection]
    rcases h.blocked id job.phase hphase with hp | hp | hp
    · rw [hp]
      dsimp only
      split
      · exact hmove _ (.inr rfl)
      · rw [h.field]
        exact hmove _ (.inl rfl)
    · rw [hp]
      dsimp only
      split
      · exact hmove _ (.inr rfl)
      · rw [phaseOf_eq_some h.job, Option.getD_some, if_neg hrunning]
        exact h
    · rw [hp]
      exact h

theorem Holding.moveDisconnection (h : Holding s d phase) {next : DisconnectionPhase} (hphase : phase ≠ .waiting)
    (hnext : next ≠ .waiting) : Holding (s.moveDisconnection d next) d next where
  job := getElem?_moveTo_self h.job
  alone e he p hp := by
    rw [Service.moveDisconnection, phaseOf_moveTo_of_ne (Ne.symm he)] at hp
    exact h.alone e he p hp
  field := h.field
  blocked := h.blocked
  opened _ := h.opened hphase
  stopped hw := absurd hw hnext

theorem Holding.cancel (h : Holding s d phase) (c : Nat) :
    Holding { s with connections := cancel c s.connections } d phase :=
  { h with blocked := fun c' p hp => h.blocked c' p (by rwa [phaseOf_cancel] at hp) }

theorem Holding.stop (h : Holding s d .stopping) :
    Holding (({ s with connectionJob := none } : Service).stopVpn.moveDisconnection d .waiting) d .waiting := by
  have hopen := h.opened (by simp)
  have hstop : ({ s with connectionJob := none } : Service).stopVpn = { s with
      connectionJob := none, statusJob := false, tunnelHandle := -1, protocolState := .disconnected } := if_neg hopen
  rw [hstop]
  exact {
    job := getElem?_moveTo_self h.job
    alone := fun e he p hp => h.alone e he p (by rwa [← phaseOf_moveTo_of_ne (Ne.symm he)])
    field := h.field
    blocked := h.blocked
    opened := fun hw => absurd rfl hw
    stopped := fun _ => ⟨rfl, rfl⟩ }

theorem run_disconnection {job : Job DisconnectionPhase} (hjob : s.disconnections[d]? = some job) :
    Step.run s (.disconnection d) = s.stepDisconnection d job := by
  rw [Step.run, hjob, Option.elim_some]

theorem Holding.own_step (h : Holding s d phase) :
    Completed (Step.run s (.disconnection d)) d ∨ ∃ next, Holding (Step.run s (.disconnection d)) d next := by
  rw [run_disconnection h.job, Service.stepDisconnection]
  cases phase with
  | launched =>
    dsimp only
    rw [if_neg Bool.false_ne_true]
    split
    · exact .inr ⟨_, h.moveDisconnection (by simp) (by simp)⟩
    · exact .inr ⟨_, (h.cancel _).moveDisconnection (by simp) (by simp)⟩
  | joining c =>
    dsimp only
    rw [if_neg Bool.false_ne_true]
    split
    · exact .inr ⟨_, h.moveDisconnection (by simp) (by simp)⟩
    · exact .inr ⟨_, h⟩
  | stopping => exact .inr ⟨_, h.stop⟩
  | waiting =>
    dsimp only
    rw [if_pos (.inr (h.stopped rfl).1)]
    exact .inl (phaseOf_moveTo_self (phaseOf_eq_some h.job))
  | completed => exact .inl (phaseOf_eq_some h.job)

theorem Holding.other_step (h : Holding s d phase told) {e : Nat} (he : e ≠ d) :
    Step.run s (.disconnection e) = s ∧ Step.run s (.timeout e) = s := by
  rw [Step.run, Step.run]
  cases hjob : s.disconnections[e]? with
  | none => exact ⟨rfl, rfl⟩
  | some job =>
    have hphase := h.alone e he _ (phaseOf_eq_some hjob)
    simp [Service.stepDisconnection, Service.timeoutDisconnection, hphase]

theorem Holding.own_timeout (h : Holding s d phase) :
    Completed (Step.run s (.timeout d)) d ∨ Step.run s (.timeout d) = s := by
  rw [Step.run, h.job, Option.elim_some, Service.timeoutDisconnection]
  split
  · exact .inl (phaseOf_moveTo_self (phaseOf_eq_some h.job))
  · exact .inr rfl

end Holding

def Attended (d : Nat) (s : Service) : Prop := Completed s d ∨ ∃ phase, Holding s d phase

variable {s : Service}

theorem Attended.step {d : Nat} {step : Step} (h : Attended d s) (hsingle : Single d s step)
    (hcalm : Unhurried d s step) : Attended d (step.run s) := by
  by_cases hover : Completed s d
  · exact .inl (hover.step step)
  obtain ⟨phase, h⟩ := h.resolve_left hover
  have hphase := phaseOf_eq_some h.job
  have hrunning : phase ≠ .completed := by
    rintro rfl
    exact hover hphase
  cases step with
  | connect request =>
    by_cases hcall : s.AcceptsConnect request
    · refine .inr ⟨phase, h.connect hcall fun hw => ?_⟩
      exact hcalm hcall (hw ▸ hphase)
    · exact .inr ⟨phase, h.refused hcall⟩
  | disconnect =>
    have hcall : ¬s.AcceptsDisconnect := fun hcall => hover (hsingle hcall)
    rw [Step.run, Service.disconnect, if_neg hcall]
    exact .inr ⟨phase, h⟩
  | connection id backend => exact .inr ⟨phase, h.connection hrunning id backend⟩
  | disconnection e =>
    by_cases he : e = d
    · exact he ▸ h.own_step
    · rw [(h.other_step he).1]
      exact .inr ⟨phase, h⟩
  | timeout e =>
    by_cases he : e = d
    · subst he
      rcases h.own_timeout with hdone | hsame
      · exact .inl hdone
      · rw [hsame]
        exact .inr ⟨phase, h⟩
    · rw [(h.other_step he).2]
      exact .inr ⟨phase, h⟩
  | status reported => exact .inr ⟨phase, h.status reported⟩

theorem Attended.not_overdue {d : Nat} (h : Attended d s) : ¬Overdue s d := by
  rcases h with h | ⟨phase, h⟩
  · rintro ⟨hjob, -⟩
    rw [Completed, phaseOf_eq_some hjob] at h
    cases h
  · exact h.not_overdue

theorem Attended.holding_connecting {d : Nat} {step : Step} (h : Attended d s) (hhurried : ¬Unhurried d s step) :
    Holding (step.run s) d .waiting .connecting := by
  cases step with
  | disconnect | connection | disconnection | timeout | status => exact absurd trivial hhurried
  | connect request =>
    obtain ⟨hcall, hwaiting⟩ : s.AcceptsConnect request ∧ phaseOf s.disconnections d = some .waiting := by
      simpa [Unhurried] using hhurried
    rcases h with h | ⟨phase, h⟩
    · rw [Completed, hwaiting] at h
      cases h
    · have hphase := phaseOf_eq_some h.job
      rw [hwaiting] at hphase
      obtain rfl := Option.some.inj hphase
      rw [Step.run, connectToVpn_of_accepts hcall]
      refine { h with blocked := fun c p hp => ?_, stopped := fun hw => ⟨rfl, (h.stopped hw).2⟩ }
      rw [phaseOf_launch] at hp
      split at hp
      · exact .inl (Option.some.inj hp).symm
      · exact h.blocked c p hp

theorem Holding.overdue {d : Nat} (h : Holding s d .waiting .connecting) : Overdue s d :=
  ⟨h.job, by simp [(h.stopped rfl).1]⟩

/-- The new connection waits for the job and the job for the connection, and only its time limit ends that. -/
theorem Holding.step_connecting {d : Nat} {step : Step} (h : Holding s d .waiting .connecting)
    (hsingle : Single d s step) (hstep : step ≠ .timeout d) : Holding (step.run s) d .waiting .connecting := by
  have hstate := (h.stopped rfl).1
  cases step with
  | connect request => rwa [Step.run, Service.connectToVpn, if_pos (.inr hstate)]
  | disconnect =>
    have hdone := hsingle (by simp [Service.AcceptsDisconnect, hstate])
    rw [Completed, phaseOf_eq_some h.job] at hdone
    cases hdone
  | connection id backend => exact h.connection (by simp) id backend
  | disconnection e =>
    by_cases he : e = d
    · subst he
      rw [run_disconnection h.job, Service.stepDisconnection]
      simpa [hstate] using h
    · rwa [(h.other_step he).1]
  | timeout e => rwa [(h.other_step fun he => hstep (he ▸ rfl)).2]
  | status reported => exact h.status reported

/-- After a connect in that gap the job stays overdue up to its timeout, which stops the service. -/
theorem Attended.overdue_until_timeout {d : Nat} {step : Step} {later : List Step} (h : Attended d s)
    (hhurried : ¬Unhurried d s step) (hsingle : Along Step.run (Single d) (step.run s) later)
    (hlater : .timeout d ∉ later) : Overdue (later.foldl Step.run (step.run s)) d ∧
      (Step.run (later.foldl Step.run (step.run s)) (.timeout d)).stopService = true := by
  suffices hrun : Holding (later.foldl Step.run (step.run s)) d .waiting .connecting by
    refine ⟨hrun.overdue, ?_⟩
    rw [Step.run, hrun.job]
    rfl
  have hstart := h.holding_connecting hhurried
  generalize step.run s = s at hstart hsingle
  induction later generalizing s with
  | nil => exact hstart
  | cons next later ih =>
    obtain ⟨hnext, hlater⟩ := List.ne_and_not_mem_of_not_mem_cons hlater
    exact ih hlater _ (hstart.step_connecting hsingle.1 hnext.symm) hsingle.2

theorem Idle.holding_disconnect (h : Idle s) (hcall : s.AcceptsDisconnect) (hopen : s.tunnelHandle ≠ -1) :
    Holding s.disconnect s.disconnections.length .launched := by
  rw [disconnect_of_accepts hcall]
  exact {
    job := getElem?_launch_length
    alone := fun e he p hp => h.disconnections e p (by rwa [phaseOf_launch, if_neg he] at hp)
    field := rfl
    blocked := fun c p hp => .inr (.inr (h.connections c p hp))
    opened := fun _ => hopen
    stopped := fun hw => by cases hw }

/-- A disconnect of an open tunnel, made while no job is running and with no second one before it is through: its job
is left waiting for a state that has gone exactly if a connect is accepted between its `stopVpn` and its look at the
state. Connects that are accepted earlier wait for the job. -/
theorem overdue_iff_hurried (past steps : List Step) (hcall : (run past).AcceptsDisconnect) (hidle : Idle (run past))
    (hopen : (run past).tunnelHandle ≠ -1)
    (hsingle : Along Step.run (Single (run past).disconnections.length) (run past).disconnect steps) :
    (∀ part, part <+: steps →
      ¬Overdue (part.foldl Step.run (run past).disconnect) (run past).disconnections.length) ↔
    Along Step.run (Unhurried (run past).disconnections.length) (run past).disconnect steps := by
  have hstart : Attended (run past).disconnections.length (run past).disconnect :=
    .inr ⟨_, hidle.holding_disconnect hcall hopen⟩
  exact forall_prefix_not_iff_along (B := (Overdue · _)) (fun _ => Attended.not_overdue) (fun _ _ h => h.step)
    (fun _ _ h _ hhurried => (h.holding_connecting hhurried).overdue) hstart hsingle

theorem Idle.of_lists (hc : ∀ job ∈ s.connections, job.phase = .completed)
    (hd : ∀ job ∈ s.disconnections, job.phase = .completed) : Idle s := by
  constructor
  · intro c phase hphase
    obtain ⟨job, hjob, rfl⟩ := Option.map_eq_some_iff.mp hphase
    exact hc job (List.mem_of_getElem? hjob)
  · intro d phase hphase
    obtain ⟨job, hjob, rfl⟩ := Option.map_eq_some_iff.mp hphase
    exact hd job (List.mem_of_getElem? hjob)

def permitted : Request := ⟨.wireguard, true⟩

def workingBackend : Backend := ⟨true, true, true, some 0, true⟩

def connects : List Step :=
  [.connect permitted, .connection 0 workingBackend, .connection 0 workingBackend, .connection 0 workingBackend]

def patient : List Step :=
  [.connect permitted, .connection 1 workingBackend, .disconnection 0, .connection 1 workingBackend, .disconnection 0,
    .disconnection 0, .disconnection 0]

theorem overdue_iff_hurried_patient :
    (run connects).AcceptsDisconnect ∧ Idle (run connects) ∧ (run connects).tunnelHandle ≠ -1 ∧
      (∀ part, part <+: patient → ¬Overdue (part.foldl Step.run (run connects).disconnect) 0) ∧
      Completed (patient.foldl Step.run (run connects).disconnect) 0 := by
  have hidle : Idle (run connects) := .of_lists (by decide) (by decide)
  have hsingle : Along Step.run (Single 0) (run connects).disconnect patient := by decide
  have hcalm : Along Step.run (Unhurried 0) (run connects).disconnect patient := by decide
  have hnever := (overdue_iff_hurried connects patient (by decide) hidle (by decide) hsingle).mpr hcalm
  exact ⟨by decide, hidle, by decide, hnever, by decide⟩

/-- The connect comes after `stopVpn` has told the disconnected state and before the job looks: the job of the old
disconnect waits on while the new connection job waits for it. -/
theorem stale_disconnect_stops_service :
    ((run connects).AcceptsDisconnect ∧ Idle (run connects) ∧ (run connects).tunnelHandle ≠ -1) ∧
      (run (connects ++ [.disconnect, .disconnection 0, .disconnection 0, .disconnection 0])).protocolState =
        .disconnected ∧
      (run (connects ++ [.disconnect, .disconnection 0, .disconnection 0, .disconnection 0])).AcceptsConnect permitted ∧
      Overdue (run (connects ++ [.disconnect, .disconnection 0, .disconnection 0, .disconnection 0, .connect permitted,
        .connection 1 workingBackend, .disconnection 0, .connection 1 workingBackend])) 0 ∧
      (run (connects ++ [.disconnect, .disconnection 0, .disconnection 0, .disconnection 0, .connect permitted,
        .connection 1 workingBackend, .disconnection 0, .connection 1 workingBackend, .timeout 0])).stopService = true :=
  ⟨⟨by decide, .of_lists (by decide) (by decide), by decide⟩, by decide, by decide, by decide, by decide⟩

end TunnelCore.Android.VpnService
