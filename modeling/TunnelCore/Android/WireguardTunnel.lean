import TunnelCore.Android.VpnService

namespace TunnelCore.Android.Wireguard

open Std.Do VpnService

set_option mvcgen.warning false

inductive Failure
  | badConfig
  | builder
  | backend
  | vpnStartException (message : String)
  | vpnException (message : String)
deriving DecidableEq

/-- The fields of the protocol object, with what it has asked of the system and of the backend so far. -/
structure Tunnel (κ : Type) where
  tunnelHandle : Int := -1
  tunFd : Option Nat := none
  config : Option κ := none
  statusJob : Bool := false
  state : ProtocolState := .unknown
  established : List Nat := []
  closed : List Nat := []
  turnedOn : List Int := []
  turnedOff : List Int := []

/-- How the outside answers during one call; where the answer is an exception it is missing. -/
structure Outside (κ : Type) where
  parseConfig : Option κ
  buildsInterface : Bool
  establish : Option Nat
  awgVersion : Option String
  awgTurnOn : Option Int
  protectsV4 : Bool
  protectsV6 : Bool

variable {κ : Type}

/-- A method of the object: it changes the fields and may throw, in which case the changes made so far stay. -/
abbrev Method (κ α : Type) := EStateM Failure (Tunnel κ) α

def turnOffBackend : Method κ Unit := do
  modify ({ · with statusJob := false })
  let handleToClose := (← get).tunnelHandle
  modify ({ · with tunnelHandle := -1 })
  modify fun t => { t with turnedOff := t.turnedOff ++ [handleToClose] }

def closeTunInterface : Method κ Unit := do
  if let some fd := (← get).tunFd then
    modify fun t => { t with closed := t.closed ++ [fd] }
  modify ({ · with tunFd := none })

def turnOffVpn : Method κ Unit := do
  turnOffBackend
  closeTunInterface

def turnOnBackend (outside : Outside κ) : Method κ Int :=
  match outside.awgTurnOn with
  | none => throw .backend
  | some handle => do
    modify fun t => { t with turnedOn := t.turnedOn ++ [handle] }
    pure handle

def establish (outside : Outside κ) : Method κ Nat :=
  match outside.establish with
  | none => throw (.vpnStartException "Create VPN interface: permission not granted or revoked")
  | some fd => do
    modify fun t => { t with established := t.established ++ [fd] }
    pure fd

def awgVersion (outside : Outside κ) : Method κ String :=
  match outside.awgVersion with
  | none => throw .backend
  | some version => pure version

def reuseInterface (outside : Outside κ) : Method κ Unit := do
  try
    turnOffBackend
    let handle ← turnOnBackend outside
    modify ({ · with tunnelHandle := handle })
  catch e =>
    closeTunInterface
    throw e

def buildInterface (outside : Outside κ) (stopExistingVpn : Bool) : Method κ Unit := do
  if !outside.buildsInterface then throw .builder
  let establishedTunFd ← establish outside
  if stopExistingVpn && (← get).tunnelHandle != -1 then
    turnOffVpn
  modify ({ · with tunFd := some establishedTunFd })
  -- the log line, outside of the `try`
  let _ ← awgVersion outside
  try
    let handle ← turnOnBackend outside
    modify ({ · with tunnelHandle := handle })
  catch e =>
    closeTunInterface
    throw e

def checkTunnel (outside : Outside κ) : Method κ Unit := do
  if (← get).tunnelHandle < 0 then
    modify ({ · with tunnelHandle := -1 })
    closeTunInterface
    throw (.vpnStartException "Wireguard tunnel creation error")
  else if !outside.protectsV4 || !outside.protectsV6 then
    turnOffVpn
    throw (.vpnStartException "Protect VPN interface: permission not granted or revoked")
  else
    modify ({ · with statusJob := true })

def start (outside : Outside κ) (stopExistingVpn : Bool) : Method κ Unit := do
  let t ← get
  if !stopExistingVpn && t.tunnelHandle != -1 then
    return
  else if stopExistingVpn && t.tunnelHandle != -1 && t.tunFd.isSome then
    reuseInterface outside
    checkTunnel outside
  else
    buildInterface outside stopExistingVpn
    checkTunnel outside

def startVpn (outside : Outside κ) : Method κ Unit := do
  match outside.parseConfig with
  | none => throw .badConfig
  | some wireguardConfig =>
    start outside false
    modify ({ · with config := some wireguardConfig })

def stopVpn : Method κ Unit := do
  if (← get).tunnelHandle == -1 then return
  turnOffVpn
  modify ({ · with state := .disconnected })

def reconnectVpn (outside : Outside κ) : Method κ Unit := do
  match (← get).config with
  | none => throw (.vpnException "Reconnect config is empty")
  | some _ => start outside true

inductive Call (κ : Type)
  | startVpn (outside : Outside κ)
  | reconnectVpn (outside : Outside κ)
  | stopVpn

def Call.method : Call κ → Method κ Unit
  | .startVpn outside => Wireguard.startVpn outside
  | .reconnectVpn outside => Wireguard.reconnectVpn outside
  | .stopVpn => Wireguard.stopVpn

def Tunnel.after (t : Tunnel κ) (call : Call κ) : Tunnel κ :=
  match call.method.run t with
  | .ok _ t' => t'
  | .error _ t' => t'

/-- What was opened and not closed is exactly what the fields hold. -/
structure Tunnel.Balanced (t : Tunnel κ) : Prop where
  handles : ∀ h, 0 ≤ h → t.turnedOn.count h = t.turnedOff.count h + if t.tunnelHandle = h then 1 else 0
  descriptors : ∀ fd, t.established.count fd = t.closed.count fd + if t.tunFd = some fd then 1 else 0

structure Tunnel.Closed (t : Tunnel κ) : Prop extends t.Balanced where
  handle : t.tunnelHandle = -1
  descriptor : t.tunFd = none

structure Tunnel.Detached (t : Tunnel κ) : Prop extends t.Balanced where
  handle : t.tunnelHandle = -1
  descriptor : t.tunFd.isSome

structure Tunnel.Open (t : Tunnel κ) : Prop extends t.Balanced where
  handle : 0 ≤ t.tunnelHandle
  descriptor : t.tunFd.isSome

namespace Tunnel

variable {t : Tunnel κ}

theorem Open.turnOff (h : t.Open) :
    { t with statusJob := false, tunnelHandle := -1, turnedOff := t.turnedOff ++ [t.tunnelHandle] }.Detached where
  handles x hx := by
    have := h.handles x hx
    have hne : (-1 : Int) ≠ x := by omega
    simp only [List.count_append, List.count_singleton, beq_iff_eq, if_neg hne]
    omega
  descriptors := h.descriptors
  handle := rfl
  descriptor := h.descriptor

theorem Detached.close (h : t.Detached) {fd : Nat} (hfd : t.tunFd = some fd) :
    { t with closed := t.closed ++ [fd], tunFd := none }.Closed where
  handles := h.handles
  descriptors x := by
    have := h.descriptors x
    simp only [hfd, Option.some.injEq] at this
    simp only [List.count_append, List.count_singleton, beq_iff_eq, reduceCtorEq, if_false]
    omega
  handle := h.handle
  descriptor := rfl

/-- The backend's answer is entered in the list and kept as the handle; a negative one counts for nothing. -/
theorem Detached.turnOn (h : t.Detached) (handle : Int) :
    { t with turnedOn := t.turnedOn ++ [handle], tunnelHandle := handle }.Balanced where
  handles x hx := by
    have := h.handles x hx
    have hne : (-1 : Int) ≠ x := by omega
    rw [h.handle, if_neg hne] at this
    simp only [List.count_append, List.count_singleton, beq_iff_eq]
    omega
  descriptors := h.descriptors

theorem Balanced.reset (h : t.Balanced) (hh : t.tunnelHandle < 0) (hd : t.tunFd.isSome) :
    { t with tunnelHandle := -1 }.Detached where
  handles x hx := by
    have := h.handles x hx
    rw [if_neg (by omega)] at this
    have hne : (-1 : Int) ≠ x := by omega
    simp only [if_neg hne]
    exact this
  descriptors := h.descriptors
  handle := rfl
  descriptor := hd

theorem Closed.establish (h : t.Closed) (fd : Nat) :
    { t with established := t.established ++ [fd], tunFd := some fd }.Detached where
  handles := h.handles
  descriptors x := by
    have := h.descriptors x
    simp only [h.descriptor, reduceCtorEq, if_false] at this
    simp only [List.count_append, List.count_singleton, beq_iff_eq, Option.some.injEq]
    omega
  handle := h.handle
  descriptor := rfl

end Tunnel

theorem turnOffBackend_spec :
    ⦃fun t => ⌜t.Open⌝⦄ (turnOffBackend : Method κ Unit) ⦃⇓ _ t => ⌜t.Detached⌝⦄ := by
  mvcgen [turnOffBackend]
  case vc1 t h _ _ _ _ => exact h.turnOff

theorem closeTunInterface_spec :
    ⦃fun t => ⌜t.Detached⌝⦄ (closeTunInterface : Method κ Unit) ⦃⇓ _ t => ⌜t.Closed⌝⦄ := by
  mvcgen [closeTunInterface]
  case vc1.h_1 t h _ fd hfd _ _ => exact h.close hfd
  case vc2.h_2 t h _ _ hnone hfd _ =>
    obtain ⟨fd, hsome⟩ := Option.isSome_iff_exists.mp h.descriptor
    exact (hnone fd (hfd.symm.trans hsome)).elim

theorem turnOffVpn_spec : ⦃fun t => ⌜t.Open⌝⦄ (turnOffVpn : Method κ Unit) ⦃⇓ _ t => ⌜t.Closed⌝⦄ := by
  mvcgen [turnOffVpn, turnOffBackend_spec, closeTunInterface_spec]

structure Tunnel.Answered (t : Tunnel κ) : Prop extends t.Balanced where
  descriptor : t.tunFd.isSome

theorem turnOnBackend_spec (outside : Outside κ) :
    ⦃fun t => ⌜t.Detached⌝⦄ turnOnBackend outside
    ⦃post⟨fun handle t => ⌜{ t with tunnelHandle := handle }.Answered⌝, fun _ t => ⌜t.Detached⌝⟩⦄ := by
  mvcgen [turnOnBackend]
  case vc2.h_2 handle _ t h _ => exact ⟨h.turnOn handle, h.descriptor⟩

theorem reuseInterface_spec (outside : Outside κ) :
    ⦃fun t => ⌜t.Open⌝⦄ reuseInterface outside
    ⦃post⟨fun _ t => ⌜t.Answered⌝, fun _ t => ⌜t.Closed⌝⟩⦄ := by
  mvcgen [reuseInterface, turnOffBackend_spec, turnOnBackend_spec, closeTunInterface_spec]

variable {t : Tunnel κ}

theorem Tunnel.Closed.not_running (h : t.Closed) (stopExistingVpn : Bool) :
    ¬(stopExistingVpn && t.tunnelHandle != -1) = true := by
  simp [h.handle]

theorem buildInterface_spec (outside : Outside κ) (hv : outside.awgVersion.isSome) (stopExistingVpn : Bool) :
    ⦃fun t => ⌜t.Closed⌝⦄ buildInterface outside stopExistingVpn
    ⦃post⟨fun _ t => ⌜t.Answered⌝, fun _ t => ⌜t.Closed⌝⟩⦄ := by
  obtain ⟨version, hversion⟩ := Option.isSome_iff_exists.mp hv
  have hawg : (awgVersion outside : Method κ String) = pure version := by rw [awgVersion, hversion]
  simp only [buildInterface, hawg, pure_bind]
  mvcgen [establish, turnOffVpn_spec, turnOnBackend_spec, closeTunInterface_spec]
  -- there is nothing to stop: a closed tunnel has no handle
  case vc3.isFalse.h_2.isTrue.pre h _ _ _ hon => exact (h.not_running _ hon).elim
  case vc4.isFalse.h_2.isTrue.post.success.pre h _ _ _ hon _ _ _ _ => exact (h.not_running _ hon).elim
  case vc8.isFalse.h_2.isFalse.pre h fd _ _ _ _ => exact h.establish fd

theorem Tunnel.Answered.open (h : t.Answered) (hh : ¬t.tunnelHandle < 0) : t.Open where
  toBalanced := h.toBalanced
  handle := Int.not_lt.mp hh
  descriptor := h.descriptor

theorem checkTunnel_spec (outside : Outside κ) :
    ⦃fun t => ⌜t.Answered⌝⦄ checkTunnel outside
    ⦃post⟨fun _ t => ⌜t.Open⌝, fun _ t => ⌜t.Closed⌝⟩⦄ := by
  mvcgen [checkTunnel, turnOffVpn_spec, closeTunInterface_spec]
  case vc1.isTrue.pre h hneg _ => exact h.reset hneg h.descriptor
  case vc3.isFalse.isTrue.pre h hneg _ => exact h.open hneg
  case vc5.isFalse.isFalse h hneg _ _ =>
    have hopen := h.open hneg
    exact { hopen with }

def Tunnel.Paired (t : Tunnel κ) : Prop := t.Closed ∨ t.Open

theorem start_spec (outside : Outside κ) (hv : outside.awgVersion.isSome) (stopExistingVpn : Bool) :
    ⦃fun t => ⌜t.Paired⌝⦄ start outside stopExistingVpn
    ⦃post⟨fun _ t => ⌜t.Paired⌝, fun _ t => ⌜t.Paired⌝⟩⦄ := by
  have hbuild := buildInterface_spec outside hv
  mvcgen [start, reuseInterface_spec, hbuild, checkTunnel_spec]
  case vc2.isFalse.isTrue.pre t h _ hon =>
    rcases h with h | h
    · simp [h.handle] at hon
    · exact h
  case vc7.isFalse.isFalse.pre t h hdown hoff =>
    rcases h with h | h
    · exact h
    · have hne : t.tunnelHandle ≠ -1 := by have := h.handle; omega
      have hd := h.descriptor
      cases stopExistingVpn <;> simp_all
  case vc4.isFalse.isTrue.post.success.post.success | vc9.isFalse.isFalse.post.success.post.success => exact .inr
  case vc5.isFalse.isTrue.post.success.post.except.handle | vc6.isFalse.isTrue.post.except.handle |
      vc10.isFalse.isFalse.post.success.post.except.handle | vc11.isFalse.isFalse.post.except.handle => exact .inl

theorem startVpn_spec (outside : Outside κ) (hv : outside.awgVersion.isSome) :
    ⦃fun t => ⌜t.Paired⌝⦄ startVpn outside ⦃post⟨fun _ t => ⌜t.Paired⌝, fun _ t => ⌜t.Paired⌝⟩⦄ := by
  have hstart := start_spec outside hv
  mvcgen [startVpn, hstart]
  case vc3.h_2.post.success h _ =>
    rcases h with h | h
    · exact .inl { h with }
    · exact .inr { h with }

theorem stopVpn_spec :
    ⦃fun t => ⌜t.Paired⌝⦄ (stopVpn : Method κ Unit) ⦃post⟨fun _ t => ⌜t.Paired⌝, fun _ t => ⌜t.Paired⌝⟩⦄ := by
  mvcgen [stopVpn, turnOffVpn_spec]
  case vc2.isFalse.pre h hup =>
    rcases h with h | h
    · simp [h.handle] at hup
    · exact h
  case vc3.isFalse.post.success h _ => exact .inl { h with }

theorem reconnectVpn_spec (outside : Outside κ) (hv : outside.awgVersion.isSome) :
    ⦃fun t => ⌜t.Paired⌝⦄ reconnectVpn outside ⦃post⟨fun _ t => ⌜t.Paired⌝, fun _ t => ⌜t.Paired⌝⟩⦄ := by
  have hstart := start_spec outside hv
  mvcgen [reconnectVpn, hstart]

/-- The backend says its version whenever a start asks for it. -/
def Call.HasVersion : Call κ → Prop
  | .startVpn outside => outside.awgVersion.isSome
  | .reconnectVpn outside => outside.awgVersion.isSome
  | .stopVpn => True

theorem Call.method_spec (call : Call κ) (hv : call.HasVersion) :
    ⦃fun t => ⌜t.Paired⌝⦄ call.method ⦃post⟨fun _ t => ⌜t.Paired⌝, fun _ t => ⌜t.Paired⌝⟩⦄ := by
  cases call with
  | startVpn outside => exact startVpn_spec outside hv
  | reconnectVpn outside => exact reconnectVpn_spec outside hv
  | stopVpn => exact stopVpn_spec

theorem Tunnel.Paired.after (h : t.Paired) {call : Call κ} (hv : call.HasVersion) : (t.after call).Paired := by
  have hwp := call.method_spec hv t h
  simp only [wp, PredTrans.apply] at hwp
  rw [Tunnel.after]
  cases hr : call.method.run t with
  | ok _ t' | error _ t' =>
    rw [hr] at hwp
    exact hwp

end TunnelCore.Android.Wireguard
