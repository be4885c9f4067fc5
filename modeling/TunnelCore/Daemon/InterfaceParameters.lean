import TunnelCore.Daemon.ExclusionCounts
import TunnelCore.Daemon.Hosts

namespace TunnelCore.Daemon

open TunnelCore.Action

structure InterfaceParameters where
  privateKey : String
  junkPacketCount : String
  junkPacketMinSize : String
  junkPacketMaxSize : String
  initPacketJunkSize : String
  responsePacketJunkSize : String
  cookieReplyPacketJunkSize : String
  transportPacketJunkSize : String
  initPacketMagicHeader : String
  responsePacketMagicHeader : String
  underloadPacketMagicHeader : String
  transportPacketMagicHeader : String
  specialJunk : List (String × String)
  headerProtectionKey : String
  contentPaddingAddition : String
  rekeyAfterTime : String
  rekeyTimeout : String
  rejectAfterTime : String
  keepaliveTimeout : String
  maxHandshakeAttempts : String
  randomTrailers : String
  disableCookies : String
deriving DecidableEq

def InterfaceConfig.parameters (config : InterfaceConfig) : InterfaceParameters where
  privateKey := config.privateKey
  junkPacketCount := config.junkPacketCount
  junkPacketMinSize := config.junkPacketMinSize
  junkPacketMaxSize := config.junkPacketMaxSize
  initPacketJunkSize := config.initPacketJunkSize
  responsePacketJunkSize := config.responsePacketJunkSize
  cookieReplyPacketJunkSize := config.cookieReplyPacketJunkSize
  transportPacketJunkSize := config.transportPacketJunkSize
  initPacketMagicHeader := config.initPacketMagicHeader
  responsePacketMagicHeader := config.responsePacketMagicHeader
  underloadPacketMagicHeader := config.underloadPacketMagicHeader
  transportPacketMagicHeader := config.transportPacketMagicHeader
  specialJunk := config.specialJunk
  headerProtectionKey := config.headerProtectionKey
  contentPaddingAddition := config.contentPaddingAddition
  rekeyAfterTime := config.rekeyAfterTime
  rekeyTimeout := config.rekeyTimeout
  rejectAfterTime := config.rejectAfterTime
  keepaliveTimeout := config.keepaliveTimeout
  maxHandshakeAttempts := config.maxHandshakeAttempts
  randomTrailers := config.randomTrailers
  disableCookies := config.disableCookies

/-- The tunnel process or service, with the values of the `addInterface` that configured it; there
are none when the running tunnel refused its configuration. -/
inductive Tunnel
  | stopped
  | running (configured : Option InterfaceParameters)
deriving DecidableEq

def Tunnel.isRunning : Tunnel → Bool
  | .stopped => false
  | .running _ => true

/-- How an operation ends; `failsRunning` is a failure of `addInterface` after the tunnel started. -/
inductive Outcome
  | succeeds
  | fails
  | failsRunning
deriving DecidableEq

structure Device where
  tunnel : Tunnel
  operations : Nat := 0
deriving DecidableEq

namespace Device

/-- The Linux tunnel process is started first and configured afterwards. The Windows tunnel service
starts with its configuration, and the lookup of the interface may still fail then. -/
def addInterface (host : Host) (config : InterfaceConfig) : Outcome → Tunnel → Bool × Tunnel :=
  match host with
  | .linux => fun
      | _, .running configured => (false, .running configured)
      | .succeeds, .stopped => (true, .running (some config.parameters))
      | .fails, .stopped => (false, .stopped)
      | .failsRunning, .stopped => (false, .running none)
  | .windows => fun
      | .succeeds, _ => (true, .running (some config.parameters))
      | .fails, tunnel => (false, tunnel)
      | .failsRunning, _ => (false, .running (some config.parameters))

def deleteInterface (host : Host) (tunnel : Tunnel) : Bool × Tunnel :=
  match host with
  | .linux => (tunnel.isRunning, .stopped)
  | .windows => (true, .stopped)

def operate (outcomes : Nat → Outcome) (f : Outcome → Tunnel → Bool × Tunnel) : Action Device := fun d =>
  ((f (outcomes d.operations) d.tunnel).1, ⟨(f (outcomes d.operations) d.tunnel).2, d.operations + 1⟩)

def platform (host : Host) (outcomes : Nat → Outcome) : Platform Device where
  supportIPUtils := host = .linux
  call
    | .interfaceExists => fun d => (d.tunnel.isRunning, d)
    | .addInterface config => operate outcomes (addInterface host config)
    | .deleteInterface => operate outcomes fun _ => deleteInterface host
    | _ => operate outcomes fun outcome tunnel => (outcome = .succeeds, tunnel)

end Device

section

variable {σ : Type} {qt : Qt} {pf : Platform σ} {P Q : σ → Prop}

theorem has_deactivate (h : Untouched pf P) (emitSignals : Bool)
    (hdelete : Triple (Has P) (call pf .deleteInterface) (Has Q) fun _ => True) :
    Triple (Has P) (deactivate pf emitSignals) (Has Q) fun _ => True := by
  refine triple_deactivate (Q := Has P) (fun _ => (has_call h rfl).onSuccess) (fun _ hd => hd)
    (has_call h rfl) (fun d _ => triple_forEach fun state _ => ?_) (fun _ => has_call h rfl)
    (triple_andThen (triple_update fun _ hd => hd) hdelete) emitSignals
  exact triple_andThen (triple_forEach fun _ _ => has_call h rfl) (triple_ignore (has_call h rfl))

theorem has_activateNew (h : Untouched pf P) (hQ : Untouched pf Q) (config : InterfaceConfig)
    (hinterface : Triple (Has P) ((call pf .interfaceExists).orElse (call pf (.addInterface config))) (Has Q)
      fun _ => True) :
    Triple (Has P) (activateNew qt pf config) (Has Q) fun _ => True := by
  refine triple_onFailure (M := fun _ => True) ?_ triple_top
  refine triple_andThen (triple_ignore (has_call h rfl)) ?_
  refine triple_andThen hinterface ?_
  refine triple_andThen (M := Has Q) ?_ ?_
  · split
    · exact (triple_andThen (has_call hQ rfl) (has_call hQ rfl)).onSuccess
    · exact triple_skip
  refine triple_andThen (has_addExclusionRoutes hQ _).onSuccess ?_
  refine (triple_onFailure (X := Has Q) (Y := fun _ => True) (M := fun _ => True) ?_ triple_top)
  refine triple_andThen (has_call hQ rfl).onSuccess ?_
  refine triple_andThen (has_maybeUpdateResolvers hQ _).onSuccess ?_
  refine triple_andThen (triple_forAll fun _ _ => (has_call hQ rfl).onSuccess) ?_
  exact triple_andThen (has_call hQ rfl).onSuccess (triple_update fun _ hd => hd)

end

def Request.run {σ : Type} (qt : Qt) (pf : Platform σ) : Request → Action (State σ)
  | .activate config => Daemon.activate qt pf config
  | .deactivate emitSignals => Daemon.deactivate pf emitSignals

namespace Device

def isAt (t : Tunnel) (d : Device) : Prop := d.tunnel = t

variable {qt : Qt} {host : Host} {outcomes : Nat → Outcome} {t : Tunnel} {config : InterfaceConfig}

theorem untouched_isAt : Untouched (platform host outcomes) (isAt t) := by
  intro c hc d hd
  cases c <;> first | exact hd | simp [Call.isInterface] at hc

theorem has_deleteInterface : Triple (Has (isAt t)) (call (platform host outcomes) .deleteInterface)
    (Has (isAt .stopped)) fun _ => True := by
  intro d _
  split
  · cases host <;> rfl
  · trivial

theorem has_interface_running {configured : Option InterfaceParameters} :
    Triple (Has (isAt (.running configured)))
      ((call (platform host outcomes) .interfaceExists).orElse (call (platform host outcomes) (.addInterface config)))
      (Has (isAt (.running configured))) fun _ => True := by
  refine triple_orElse (M := fun _ => False) (fun d hd => ?_) fun _ => False.elim
  have hexists : (call (platform host outcomes) .interfaceExists d).1 = true := by
    change d.platform.tunnel.isRunning = true
    rw [show d.platform.tunnel = .running configured from hd]
    rfl
  rw [if_pos hexists]
  exact hd

theorem has_interface_stopped : Triple (Has (isAt .stopped))
    ((call (platform host outcomes) .interfaceExists).orElse (call (platform host outcomes) (.addInterface config)))
    (Has (isAt (.running (some config.parameters)))) fun _ => True := by
  refine triple_orElse (M := Has (isAt .stopped)) (fun d hd => ?_) fun d hd => ?_
  · have hnone : (call (platform host outcomes) .interfaceExists d).1 = false := by
      change d.platform.tunnel.isRunning = false
      rw [show d.platform.tunnel = .stopped from hd]
      rfl
    rw [hnone]
    exact hd
  · have hstopped : d.platform.tunnel = .stopped := hd
    simp only [call, platform, operate, Has, isAt, hstopped]
    cases host <;> cases outcomes d.platform.operations <;> simp [addInterface]

/-- The interface is taken over as it is: by a server switch, or because it exists when there is
no connection for the hop. -/
def reuses (config : InterfaceConfig) (d : State Device) : Bool :=
  match d.connections config.hopType with
  | none => d.platform.tunnel.isRunning
  | some state => supportServerSwitching state.config config

theorem activate_tunnel {d : State Device} (h : (activate qt (platform host outcomes) config d).1 = true) :
    (activate qt (platform host outcomes) config d).2.platform.tunnel =
      if reuses config d then d.platform.tunnel else .running (some config.parameters) := by
  have hat : Has (isAt d.platform.tunnel) d := rfl
  have hfresh : Triple (Has (isAt .stopped)) (activateNew qt (platform host outcomes) config)
      (Has (isAt (.running (some config.parameters)))) fun _ => True :=
    has_activateNew untouched_isAt untouched_isAt config has_interface_stopped
  revert h
  rw [activate, inspect, reuses]
  cases d.connections config.hopType with
  | none =>
    intro h
    cases ht : d.platform.tunnel with
    | stopped => exact hfresh.success (ht ▸ hat) h
    | running configured =>
      exact (has_activateNew untouched_isAt untouched_isAt config has_interface_running).success (ht ▸ hat) h
  | some state =>
    dsimp only
    split
    next hs =>
      exact (triple_onFailure (M := fun _ => True)
        (has_switchActivate untouched_isAt state.config config).onSuccess triple_top).success hat
    next hs =>
      exact (triple_onFailure (M := fun _ => True)
        (triple_andThen (has_deactivate untouched_isAt false has_deleteInterface) hfresh) triple_top).success hat

def session (qt : Qt) (host : Host) (outcomes : Nat → Outcome) (requests : List Request) : State Device :=
  requests.foldl (fun d request => (request.run qt (platform host outcomes) d).2) (start { tunnel := .stopped })

/-- After a successful activation the interface runs with the parameters of the accepted
configuration exactly if it was set up by that call or already had them. -/
theorem activated_interface_parameters (qt : Qt) (host : Host) (outcomes : Nat → Outcome) (requests : List Request)
    (config : InterfaceConfig)
    (h : (activate qt (platform host outcomes) config (session qt host outcomes requests)).1 = true) :
    (activate qt (platform host outcomes) config (session qt host outcomes requests)).2.platform.tunnel =
        .running (some config.parameters) ↔
      (reuses config (session qt host outcomes requests) = true →
        (session qt host outcomes requests).platform.tunnel = .running (some config.parameters)) := by
  rw [activate_tunnel h]
  split
  next hr => exact ⟨fun ht _ => ht, fun ht => ht hr⟩
  next hr => exact ⟨fun _ hr' => absurd hr' hr, fun _ => rfl⟩

def keyConfig (privateKey junkPacketCount : String) : InterfaceConfig where
  privateKey := privateKey
  junkPacketCount := junkPacketCount

theorem activated_interface_parameters_new_key :
    (activate sampleQt (platform .linux fun _ => .succeeds) (keyConfig "new" "4")
        (session sampleQt .linux (fun _ => .succeeds) [.activate (keyConfig "old" "3")])).2.platform.tunnel =
      .running (some (keyConfig "new" "4").parameters) :=
  (activated_interface_parameters sampleQt .linux (fun _ => .succeeds) [.activate (keyConfig "old" "3")]
    (keyConfig "new" "4") (by decide)).mpr fun h => absurd h (by decide)

/-- Two activations succeed and leave the interface with other values than the accepted ones: a
server switch to another junk packet count, and a new key after an activation that failed when it
had already added the interface. -/
theorem accepted_parameters_not_applied :
    ((activate sampleQt (platform .linux fun _ => .succeeds) (keyConfig "key" "4")
        (session sampleQt .linux (fun _ => .succeeds) [.activate (keyConfig "key" "3")])).1 = true ∧
      (activate sampleQt (platform .linux fun _ => .succeeds) (keyConfig "key" "4")
        (session sampleQt .linux (fun _ => .succeeds) [.activate (keyConfig "key" "3")])).2.platform.tunnel =
          .running (some (keyConfig "key" "3").parameters)) ∧
    ((activate sampleQt (platform .linux fun n => if n = 2 then .fails else .succeeds) (keyConfig "new" "3")
        (session sampleQt .linux (fun n => if n = 2 then .fails else .succeeds)
          [.activate (keyConfig "old" "3")])).1 = true ∧
      (activate sampleQt (platform .linux fun n => if n = 2 then .fails else .succeeds) (keyConfig "new" "3")
        (session sampleQt .linux (fun n => if n = 2 then .fails else .succeeds)
          [.activate (keyConfig "old" "3")])).2.platform.tunnel =
          .running (some (keyConfig "old" "3").parameters)) := by
  decide

end Device

end TunnelCore.Daemon
