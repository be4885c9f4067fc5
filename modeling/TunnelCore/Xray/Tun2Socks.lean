import TunnelCore.Connection.VpnConnection
import TunnelCore.Library.Runs

namespace TunnelCore.XrayProtocol

open Connection (ConnectionState)

inductive ErrorCode
  | noError
  | internalError
  | amneziaServiceConnectionFailed
  | xrayExecutableCrashed
  | tun2SockExecutableCrashed
deriving DecidableEq

/-- What happens on the way, as an onlooker sees it. A stop and a failure say whose signal their caller handles, and the
process that they meet; calls from outside and timers handle nobody's. -/
inductive Action
  | start
  | stop (handled process : Option Nat)
  | fail (handled process : Option Nat)
  | launch (process : Nat)
  | exit (processes : List Nat)
  | connected
deriving DecidableEq

namespace Action

def launches : Action → Bool
  | .launch _ => true
  | _ => false

def handled : Action → Option Nat
  | .stop handled _ => handled
  | .fail handled _ => handled
  | _ => none

def ends : Action → Option Nat
  | .stop _ process => process
  | .fail _ process => process
  | _ => none

/-- The processes that run afterwards. -/
def alive (running : List Nat) : Action → List Nat
  | .stop _ process => running.filter (some · ≠ process)
  | .launch process => running ++ [process]
  | .exit processes => running.filter (· ∉ processes)
  | _ => running

end Action

structure Observer where
  stopped : Bool := false
  launched : List Nat := []
  running : List Nat := []
  discarded : List Nat := []

/-- Handling the signal of a process that was discarded ends no other one that was launched. -/
def Observer.spares (o : Observer) (handled process : Option Nat) : Bool :=
  !(handled.any (· ∈ o.discarded) && process.any (· ∈ o.launched) && process ≠ handled)

def Observer.step (o : Observer) (a : Action) : Observer :=
  let o := { o with running := a.alive o.running }
  match a with
  | .start => { o with stopped := false }
  | .stop _ process => { o with stopped := true, discarded := o.discarded ++ process.toList }
  | .launch process => { o with launched := o.launched ++ [process] }
  | _ => o

/-- After a `stop` nothing is launched and nothing connects until the next `start`, at most one process runs, and a
signal of a process that a `stop` has discarded does not end a later one. -/
structure Observer.Allows (o : Observer) (a : Action) : Prop where
  quiet : o.stopped = true → a.launches = false ∧ a ≠ .connected
  single : (a.alive o.running).length ≤ 1
  own : o.spares a.handled a.ends = true

instance (o : Observer) (a : Action) : Decidable (o.Allows a) :=
  decidable_of_iff
    ((o.stopped = true → a.launches = false ∧ a ≠ .connected) ∧ (a.alive o.running).length ≤ 1 ∧
      o.spares a.handled a.ends = true)
    ⟨fun h => ⟨h.1, h.2.1, h.2.2⟩, fun h => ⟨h.quiet, h.single, h.own⟩⟩

inductive Signal
  | readyReadStandardError
  | finished
deriving DecidableEq

structure Delivery where
  signal : Signal
  process : Nat
deriving DecidableEq

/-- Who calls `stop`: the process whose signal it handles, and the error it sets afterwards, `noError` for none. -/
structure Caller where
  handled : Option Nat
  code : ErrorCode
deriving DecidableEq

/-- Where a call or a slot waits for an answer of the service. Waiting runs the event loop, so that others are called
meanwhile; the last one called is the first to go on. Waits with nothing between them count as one. -/
inductive Frame
  | creating (retry : Bool)
  | awaitingSource (retry : Bool) (process : Nat)
  | reading (process : Nat)
  | routing (process : Nat)
  | exiting (process : Nat)
  | stopping (caller : Caller)
  | terminating (caller : Caller)
  | failing (caller : Caller)
deriving DecidableEq

namespace Frame

/-- What can still launch a process or connect. -/
def isActive : Frame → Bool
  | .creating _ => true
  | .awaitingSource _ _ => true
  | .reading _ => true
  | .routing _ => true
  | _ => false

def stops : Frame → Bool
  | .stopping _ => true
  | .terminating _ => true
  | _ => false

end Frame

structure State where
  tun2socksProcess : Option Nat := none
  tun2socksRetryCount : Nat := 0
  connectionState : ConnectionState := .unknown
  lastError : ErrorCode := .noError
  /-- The retry timers that have not fired. -/
  timers : Nat := 0
  deliveries : List Delivery := []
  /-- The processes whose signals are blocked; those that are queued stay. -/
  blocked : List Nat := []
  running : List Nat := []
  nextProcess : Nat := 0
  frames : List Frame := []
  crashed : Bool := false
  log : List Action := []

def maxTun2SocksRetries : Nat := 5

/-- What a wait ends with; each reads its own part. -/
structure Answer where
  prepared : Bool := true
  created : Bool := true
  hasSource : Bool := true
  /-- The service tries to kill the processes of the same name before it starts one. -/
  killsOthers : Bool := false
  text : Option String := none
  routing : ErrorCode := .noError

namespace State

def note (a : Action) (s : State) : State := { s with log := s.log ++ [a], running := a.alive s.running }

def wait (f : Frame) (s : State) : State := { s with frames := f :: s.frames }

def setConnectionState (state : ConnectionState) (s : State) : State :=
  if s.connectionState = state then s
  else if state = .connected then { s.note .connected with connectionState := state }
  else { s with connectionState := state }

def setLastError (lastError : ErrorCode) (s : State) : State :=
  if lastError ≠ .noError then { s with lastError := lastError }.setConnectionState .error
  else { s with lastError := lastError }

/-- `stop` up to its first wait. -/
def stop (caller : Caller) (s : State) : State := (s.note (.stop none none)).wait (.stopping caller)

def discard (handled : Option Nat) (s : State) : State := s.note (.stop handled s.tun2socksProcess)

/-- The end of `stop`. The receivers of its signal wait for the service, and a slot that has called it fails only then. -/
def stopped (caller : Caller) (s : State) : State :=
  let s := { s.discard caller.handled with tun2socksProcess := none }.setConnectionState .disconnected
  if caller.code = .noError then s else s.wait (.failing caller)

def launch (killsOthers : Bool) (process : Nat) (s : State) : State :=
  (s.note (.exit (if killsOthers then s.running else []))).note (.launch process)

def isUp (line : String) : Bool :=
  "[STACK] tun://".toList <:+: line.toList ∧ "<-> socks5://".toList <:+: line.toList

def isBusy (output : String) : Bool := "resource busy".toList <:+: output.toList

/-- What the slot of `finished` does with the output it has read. -/
def exited (process : Nat) (output : Option String) (s : State) : State :=
  if output.any isBusy ∧ s.tun2socksRetryCount < maxTun2SocksRetries then
    { s with tun2socksRetryCount := s.tun2socksRetryCount + 1, timers := s.timers + 1 }
  else { s with tun2socksRetryCount := 0 }.stop ⟨some process, .tun2SockExecutableCrashed⟩

/-- A call or slot goes on after a wait; `none` where a null pointer is followed or a replica is used that has been
deleted. -/
def resume (a : Answer) (s : State) : Frame → Option State
  | .creating retry =>
    if !retry && !a.prepared then some s
    else if !a.created then none
    else
      some ({ s with tun2socksProcess := some s.nextProcess, nextProcess := s.nextProcess + 1 }.wait
        (.awaitingSource retry s.nextProcess))
  | .awaitingSource retry process =>
    if s.tun2socksProcess ≠ some process then none
    else if a.hasSource then some (s.launch a.killsOthers process)
    else some (if retry then s.stop ⟨none, .amneziaServiceConnectionFailed⟩ else s)
  | .reading process => some (if a.text.any isUp then s.wait (.routing process) else s)
  | .routing process =>
    some (if a.routing ≠ .noError then s.stop ⟨some process, a.routing⟩ else s.setConnectionState .connected)
  | .exiting process => some (s.exited process a.text)
  | .stopping caller =>
    match s.tun2socksProcess with
    | none => some (s.stopped caller)
    | some process =>
      some ({ s.discard caller.handled with blocked := process :: s.blocked }.wait (.terminating caller))
  | .terminating caller => if s.tun2socksProcess.isNone then none else some (s.stopped caller)
  | .failing caller => some ((s.note (.fail caller.handled s.tun2socksProcess)).setLastError caller.code)

end State

inductive Event
  | start
  | stop
  /-- The process has written an output line. -/
  | writes
  | exits (process : Nat)
  /-- The next queued slot is called. -/
  | delivers
  | timeout
  /-- The innermost wait ends. -/
  | resumes (answer : Answer)

open State

def handle (s : State) : Event → Option State
  | .start => some ((s.note .start).wait (.creating false))
  | .stop => some (s.stop ⟨none, .noError⟩)
  | .writes =>
    match s.tun2socksProcess with
    | none => some s
    | some process =>
      some (if process ∈ s.running ∧ process ∉ s.blocked then
          { s with deliveries := s.deliveries ++ [⟨.readyReadStandardError, process⟩] }
        else s)
  | .exits process =>
    some (if process ∈ s.running then
        { s.note (.exit [process]) with
          deliveries := s.deliveries ++
            if s.tun2socksProcess = some process ∧ process ∉ s.blocked then [⟨.finished, process⟩] else [] }
      else s)
  | .delivers =>
    match s.deliveries with
    | [] => some s
    | ⟨.readyReadStandardError, process⟩ :: deliveries =>
      if s.tun2socksProcess.isNone then none else some ({ s with deliveries }.wait (.reading process))
    | ⟨.finished, process⟩ :: deliveries =>
      some (if s.tun2socksProcess.isNone then { s with deliveries }.exited process none
        else { s with deliveries }.wait (.exiting process))
  | .timeout => some (if s.timers = 0 then s else { s with timers := s.timers - 1 }.wait (.creating true))
  | .resumes answer =>
    match s.frames with
    | [] => some s
    | f :: frames => { s with frames }.resume answer f

def step (s : State) (e : Event) : State :=
  if s.crashed then s else (handle s e).getD { s with crashed := true }

def run (events : List Event) : State := events.foldl step {}

namespace State

def observer (s : State) : Observer := s.log.foldl Observer.step {}

def Safe (s : State) : Prop := Along Observer.step Observer.Allows {} s.log

instance (s : State) : Decidable s.Safe := inferInstanceAs (Decidable (Along ..))

/-- No `start`, no retry and no output slot waits. -/
def isIdle (s : State) : Bool := s.frames.all fun f => !f.isActive

def spares (s : State) (handled : Option Nat) : Bool := s.observer.spares handled s.tun2socksProcess

end State

def Frame.plain (a : Answer) (s : State) : Frame → Bool
  | .awaitingSource retry _ => if a.hasSource then a.killsOthers || s.running = [] else !retry || s.isIdle
  | .routing _ => a.routing = .noError || s.isIdle
  | .exiting _ => a.text.any isBusy && s.tun2socksRetryCount < maxTun2SocksRetries || s.isIdle
  | .stopping caller => s.spares caller.handled
  | .terminating caller => s.spares caller.handled
  | .failing caller => s.spares caller.handled
  | _ => true

/-- `stop` is not called while a `start`, a retry or an output slot waits; a retry begins and an output line is read only
in a session; no other process runs at a launch; and the slot of a discarded process ends no other that was launched. -/
def Event.plain (s : State) : Event → Bool
  | .stop => s.isIdle
  | .timeout => s.timers = 0 || !s.observer.stopped
  | .delivers =>
    match s.deliveries with
    | [] => true
    | ⟨.readyReadStandardError, _⟩ :: _ => s.tun2socksProcess.isNone || !s.observer.stopped
    | ⟨.finished, _⟩ :: _ => s.tun2socksProcess.isSome || s.isIdle
  | .resumes answer =>
    match s.frames with
    | [] => true
    | f :: frames => f.plain answer { s with frames }
  | _ => true

def Plain (s : State) (e : Event) : Prop := s.crashed = false → e.plain s = true

instance (s : State) (e : Event) : Decidable (Plain s e) := inferInstanceAs (Decidable (_ → _))

theorem Action.alive_length {a : Action} (h : a.launches = false) (running : List Nat) :
    (a.alive running).length ≤ running.length := by
  cases a with
  | launch process => cases h
  | stop | exit => exact List.length_filter_le ..
  | start | fail | connected => exact le_rfl

/-- An action that neither launches nor connects is allowed if it is nobody's or spares the later processes. -/
theorem Observer.Allows.of_quiet {o : Observer} {a : Action} (h : o.running.length ≤ 1) (ha : a.launches = false)
    (hc : a ≠ .connected)
    (hown : o.spares a.handled a.ends = true) : o.Allows a :=
  ⟨fun _ => ⟨ha, hc⟩, (Action.alive_length ha _).trans h, hown⟩

namespace State

variable {s t : State}

theorem observer_note (a : Action) : (s.note a).observer = s.observer.step a := by
  simp [observer, note]

theorem Safe.single (h : s.Safe) : s.observer.running.length ≤ 1 := by
  rcases List.eq_nil_or_concat s.log with hlog | ⟨log, a, hlog⟩
  · simp [observer, hlog]
  · rw [Safe, hlog, List.concat_eq_append, along_concat_iff] at h
    rw [observer, hlog, List.concat_eq_append, List.foldl_append]
    have hsingle := h.2.single
    cases a <;> exact hsingle

/-- What holds between two events: the log is in order, the onlooker knows what runs, what can still launch or connect
waits only in a session, and never below a `stop`. -/
structure Steady (s : State) : Prop where
  safe : s.Safe
  running : s.observer.running = s.running
  goes : s.observer.stopped = true → s.isIdle = true
  order : s.frames.Pairwise fun upper lower => upper.stops = true → lower.isActive = false

theorem Steady.congr (h : s.Steady) (hlog : t.log = s.log) (hrunning : t.running = s.running)
    (hframes : t.frames = s.frames) : t.Steady := by
  have hobserver : t.observer = s.observer := by rw [observer, observer, hlog]
  refine ⟨?_, by rw [hobserver, hrunning, h.running], ?_, hframes ▸ h.order⟩
  · rw [Safe, hlog]
    exact h.safe
  · rw [hobserver, isIdle, hframes]
    exact h.goes

theorem Steady.note (h : s.Steady) {a : Action} (ha : s.observer.Allows a)
    (hgoes : (s.observer.step a).stopped = true → s.isIdle = true) : (s.note a).Steady where
  safe := along_concat_iff.mpr ⟨h.safe, ha⟩
  running := by
    rw [observer_note]
    refine Eq.trans ?_ (congrArg a.alive h.running)
    cases a <;> rfl
  goes := by
    rw [observer_note]
    exact hgoes
  order := h.order

theorem isIdle_iff : s.isIdle = true ↔ ∀ f ∈ s.frames, f.isActive = false := by
  simp [isIdle]

theorem Steady.wait (h : s.Steady) {f : Frame} (hactive : f.isActive = true → s.observer.stopped = false)
    (hstops : f.stops = true → s.isIdle = true) : (s.wait f).Steady where
  safe := h.safe
  running := h.running
  goes hstopped := by
    have hf : f.isActive = false := Bool.eq_false_iff.mpr fun hf => Bool.false_ne_true ((hactive hf).symm.trans hstopped)
    exact isIdle_iff.mpr (List.forall_mem_cons.mpr ⟨hf, isIdle_iff.mp (h.goes hstopped)⟩)
  order := List.pairwise_cons.mpr ⟨fun g hg hf => isIdle_iff.mp (hstops hf) g hg, h.order⟩

theorem Steady.start (h : s.Steady) : (s.note .start).Steady :=
  h.note (.of_quiet h.safe.single rfl nofun rfl) nofun

theorem Steady.exit (h : s.Steady) (processes : List Nat) : (s.note (.exit processes)).Steady :=
  h.note (.of_quiet h.safe.single rfl nofun rfl) h.goes

theorem Steady.discard (h : s.Steady) (hidle : s.isIdle = true) {handled : Option Nat} (hown : s.spares handled = true) :
    (s.discard handled).Steady :=
  h.note (.of_quiet h.safe.single rfl nofun hown) fun _ => hidle

theorem Steady.stop (h : s.Steady) (hidle : s.isIdle = true) (caller : Caller) : (s.stop caller).Steady := by
  have hnote : (s.note (.stop none none)).Steady := h.note (.of_quiet h.safe.single rfl nofun rfl) fun _ => hidle
  exact hnote.wait (f := .stopping caller) nofun fun _ => hidle

theorem Steady.setConnectionState (h : s.Steady) {state : ConnectionState}
    (hc : state = .connected → s.observer.stopped = false) : (s.setConnectionState state).Steady := by
  rw [State.setConnectionState]
  split
  · exact h
  · split
    next hconnected =>
      have hnote : (s.note .connected).Steady := by
        refine h.note ⟨fun hstopped => ?_, h.safe.single, rfl⟩ h.goes
        exact absurd ((hc hconnected).symm.trans hstopped) Bool.false_ne_true
      exact hnote.congr rfl rfl rfl
    · exact h.congr rfl rfl rfl

theorem Steady.stopped (h : s.Steady) (hidle : s.isIdle = true) {caller : Caller}
    (hown : s.spares caller.handled = true) : (s.stopped caller).Steady := by
  have hdiscarded : { s.discard caller.handled with tun2socksProcess := none }.Steady :=
    (h.discard hidle hown).congr rfl rfl rfl
  have hstate : ({ s.discard caller.handled with tun2socksProcess := none }.setConnectionState .disconnected).Steady :=
    hdiscarded.setConnectionState nofun
  rw [State.stopped]
  dsimp only
  split
  · exact hstate
  · exact hstate.wait nofun nofun

theorem Steady.launch (h : s.Steady) (hgoes : s.observer.stopped = false) {killsOthers : Bool}
    (halone : (killsOthers || decide (s.running = [])) = true) (process : Nat) :
    (s.launch killsOthers process).Steady := by
  have hexit := h.exit (if killsOthers then s.running else [])
  have hnone : (s.note (.exit (if killsOthers then s.running else []))).running = [] := by
    cases killsOthers with
    | true => simp [State.note, Action.alive, List.filter_eq_nil_iff]
    | false => simp [State.note, Action.alive, of_decide_eq_true halone]
  refine hexit.note ⟨fun hstopped => ?_, ?_, rfl⟩ hexit.goes
  · rw [observer_note] at hstopped
    exact absurd (hgoes.symm.trans hstopped) Bool.false_ne_true
  · rw [hexit.running, hnone]
    exact le_rfl

theorem Steady.fail (h : s.Steady) {caller : Caller} (hown : s.spares caller.handled = true) :
    ((s.note (.fail caller.handled s.tun2socksProcess)).setLastError caller.code).Steady := by
  have hfail := h.note (a := .fail caller.handled s.tun2socksProcess)
    (.of_quiet h.safe.single rfl nofun hown) h.goes
  rw [setLastError]
  split
  · refine Steady.setConnectionState ?_ fun hc => ?_
    · exact hfail.congr rfl rfl rfl
    · cases hc
  · exact hfail.congr rfl rfl rfl

theorem Steady.exited (h : s.Steady) {output : Option String} (process : Nat)
    (hidle : ¬(output.any isBusy = true ∧ s.tun2socksRetryCount < maxTun2SocksRetries) → s.isIdle = true) :
    (s.exited process output).Steady := by
  rw [State.exited]
  split
  · exact h.congr rfl rfl rfl
  next hfails => exact Steady.stop (s := { s with tun2socksRetryCount := 0 }) (h.congr rfl rfl rfl) (hidle hfails) _

theorem Steady.resume {a : Answer} {f : Frame} {frames : List Frame} (h : s.Steady) (hframes : s.frames = f :: frames)
    (hplain : f.plain a { s with frames } = true) (ht : { s with frames }.resume a f = some t) : t.Steady := by
  have horder := h.order
  rw [hframes, List.pairwise_cons] at horder
  have hrest : { s with frames }.Steady := by
    refine ⟨h.safe, h.running, fun hstopped => ?_, horder.2⟩
    have hidle := isIdle_iff.mp (h.goes hstopped)
    rw [hframes] at hidle
    exact isIdle_iff.mpr (List.forall_mem_cons.mp hidle).2
  -- what can launch or connect waits in a session, and what stops has nothing such below
  have hgoes : f.isActive = true → { s with frames }.observer.stopped = false := by
    intro hactive
    refine Bool.eq_false_iff.mpr fun hstopped => ?_
    have hidle := isIdle_iff.mp (h.goes hstopped) f (hframes ▸ List.mem_cons_self)
    exact Bool.false_ne_true (hidle.symm.trans hactive)
  have hidle : f.stops = true → { s with frames }.isIdle = true := fun hf => isIdle_iff.mpr fun g hg => horder.1 g hg hf
  generalize { s with frames } = r at hrest hgoes hidle hplain ht
  cases f with
  | creating retry =>
    rw [State.resume] at ht
    split at ht
    · exact Option.some.inj ht ▸ hrest
    · split at ht
      · cases ht
      · obtain rfl := Option.some.inj ht
        refine Steady.wait ?_ (fun _ => hgoes rfl) fun hf => ?_
        · exact hrest.congr rfl rfl rfl
        · cases hf
  | awaitingSource retry process =>
    rw [State.resume] at ht
    rw [Frame.plain] at hplain
    split at ht
    · cases ht
    · split at ht
      next hsource =>
        rw [if_pos hsource] at hplain
        exact Option.some.inj ht ▸ hrest.launch (hgoes rfl) hplain process
      next hsource =>
        rw [if_neg hsource] at hplain
        cases retry with
        | true => exact Option.some.inj ht ▸ hrest.stop hplain _
        | false => exact Option.some.inj ht ▸ hrest
  | reading process =>
    obtain rfl := Option.some.inj ht
    split
    · refine hrest.wait (fun _ => hgoes rfl) fun hf => ?_
      cases hf
    · exact hrest
  | routing process =>
    obtain rfl := Option.some.inj ht
    split
    next hfails => exact hrest.stop (by simpa [Frame.plain, hfails] using hplain) _
    · exact hrest.setConnectionState fun _ => hgoes rfl
  | exiting process =>
    obtain rfl := Option.some.inj ht
    refine hrest.exited process fun hfails => ?_
    rw [Frame.plain, Bool.or_eq_true, Bool.and_eq_true, decide_eq_true_iff] at hplain
    exact hplain.resolve_left hfails
  | stopping caller =>
    rw [State.resume] at ht
    split at ht
    · exact Option.some.inj ht ▸ hrest.stopped (hidle rfl) hplain
    · obtain rfl := Option.some.inj ht
      refine Steady.wait ?_ (fun hf => ?_) fun _ => hidle rfl
      · exact (hrest.discard (hidle rfl) hplain).congr rfl rfl rfl
      · cases hf
  | terminating caller =>
    rw [State.resume] at ht
    split at ht
    · cases ht
    · exact Option.some.inj ht ▸ hrest.stopped (hidle rfl) hplain
  | failing caller => exact Option.some.inj ht ▸ hrest.fail hplain

theorem Steady.handle {e : Event} (h : s.Steady) (hplain : e.plain s = true) (ht : handle s e = some t) : t.Steady := by
  cases e with
  | start =>
    obtain rfl := Option.some.inj ht
    refine h.start.wait (fun _ => ?_) fun hf => ?_
    · rw [observer_note]
      rfl
    · cases hf
  | stop => exact Option.some.inj ht ▸ h.stop hplain _
  | writes =>
    rw [XrayProtocol.handle] at ht
    split at ht
    · exact Option.some.inj ht ▸ h
    · obtain rfl := Option.some.inj ht
      split
      · exact h.congr rfl rfl rfl
      · exact h
  | exits process =>
    obtain rfl := Option.some.inj ht
    split
    · exact (h.exit [process]).congr rfl rfl rfl
    · exact h
  | delivers =>
    rw [XrayProtocol.handle] at ht
    rw [Event.plain] at hplain
    split at ht
    · exact Option.some.inj ht ▸ h
    next process deliveries hd =>
      rw [hd] at hplain
      split at ht
      · cases ht
      next hheld =>
        obtain rfl := Option.some.inj ht
        refine Steady.wait ?_ (fun _ => ?_) fun hf => ?_
        · exact h.congr rfl rfl rfl
        · change s.observer.stopped = false
          simpa [hheld] using hplain
        · cases hf
    next process deliveries hd =>
      rw [hd] at hplain
      obtain rfl := Option.some.inj ht
      have hrest : { s with deliveries }.Steady := h.congr rfl rfl rfl
      split
      next hnone =>
        have hidle : s.isIdle = true := by simpa [Option.isNone_iff_eq_none.mp hnone] using hplain
        exact hrest.exited process fun _ => hidle
      · refine hrest.wait (fun hf => ?_) fun hf => ?_
        · cases hf
        · cases hf
  | timeout =>
    obtain rfl := Option.some.inj ht
    split
    · exact h
    next hsome =>
      refine Steady.wait ?_ (fun _ => ?_) fun hf => ?_
      · exact h.congr rfl rfl rfl
      · change s.observer.stopped = false
        simpa [Event.plain, hsome] using hplain
      · cases hf
  | resumes answer =>
    rw [XrayProtocol.handle] at ht
    rw [Event.plain] at hplain
    split at ht
    · exact Option.some.inj ht ▸ h
    next f frames hf =>
      rw [hf] at hplain
      exact h.resume hf hplain ht

theorem Steady.step {e : Event} (h : s.Steady) (hplain : Plain s e) : (step s e).Steady := by
  rw [XrayProtocol.step]
  split
  · exact h
  next hc =>
    cases ht : XrayProtocol.handle s e with
    | none => exact h.congr rfl rfl rfl
    | some t => exact h.handle (hplain (Bool.eq_false_iff.mpr hc)) ht

end State

def up : Answer := { text := some "[STACK] tun://tun2 <-> socks5://127.0.0.1" }

def stopping : List Event := [.stop, .resumes {}, .resumes {}]

def busy : Answer := { text := some "resource busy" }

def retry : List Event := [.timeout, .resumes {}, .resumes {}]

end TunnelCore.XrayProtocol
