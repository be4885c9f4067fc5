import TunnelCore.Daemon.ExclusionCounts
import Mathlib.Data.Finset.Basic
import Mathlib.Data.Finset.Lattice.Lemmas

namespace TunnelCore.RouteMonitor

open TunnelCore.Daemon TunnelCore.Action

/-- The part of `WireguardUtilsWindows` and the system that route prefixes concern: the route
monitor with its `m_defaultRouteCapture`, and the routes into the tunnel. -/
structure Utils where
  monitor : Option Bool
  routes : Finset IPAddress
deriving DecidableEq

namespace Utils

def setDetaultRouteCapture (enable : Bool) (u : Utils) : Utils := { u with monitor := u.monitor.map fun _ => enable }

/-- The system's answer decides whether the route is there; the capture is switched before it. -/
def updateRoutePrefix (ip : IPAddress) (created : Bool) (u : Utils) : Utils :=
  let u := if ip.prefixLength = 0 then u.setDetaultRouteCapture true else u
  if created then { u with routes := insert ip u.routes } else u

def deleteRoutePrefix (ip : IPAddress) (deleted : Bool) (u : Utils) : Utils :=
  let u := if ip.prefixLength = 0 then u.setDetaultRouteCapture false else u
  if deleted then { u with routes := u.routes.erase ip } else u

def capturing (u : Utils) : Prop := u.monitor = some true

instance (u : Utils) : Decidable u.capturing := inferInstanceAs (Decidable (_ = _))

/-- What a call of the daemon does here. A new interface comes with a new monitor, and neither the
monitor nor the routes outlive the interface. -/
def apply : Call → Bool → Utils → Utils
  | .addInterface _, true, _ => ⟨some false, ∅⟩
  | .deleteInterface, _, _ => ⟨none, ∅⟩
  | .updateRoutePrefix ip, ok, u => u.updateRoutePrefix ip ok
  | .deleteRoutePrefix ip, ok, u => u.deleteRoutePrefix ip ok
  | _, _, u => u

/-- The state after the calls of a history, the last of which stands first. -/
def after : History → Utils
  | [] => ⟨none, ∅⟩
  | (c, ok) :: h => apply c ok (after h)

end Utils

open Utils (after)

/-- Route and interface calls succeed, and the interface is seen where it is. -/
structure OsSucceeds (answer : History → Call → Bool) : Prop where
  interfaceExists : ∀ h, answer h .interfaceExists = (after h).monitor.isSome
  addInterface : ∀ h config, answer h (.addInterface config) = true
  updateRoutePrefix : ∀ h ip, answer h (.updateRoutePrefix ip) = true
  deleteRoutePrefix : ∀ h ip, answer h (.deleteRoutePrefix ip) = true

def CaptureMatches (u : Utils) : Prop := u.capturing ↔ ∃ ip ∈ u.routes, ip.prefixLength = 0

instance (u : Utils) : Decidable (CaptureMatches u) := inferInstanceAs (Decidable (_ ↔ _))

def Throughout (p : Utils → Call → Bool → Prop) : History → Prop
  | [] => True
  | (c, ok) :: h => p (after h) c ok ∧ Throughout p h

instance Throughout.decidable {p : Utils → Call → Bool → Prop} [∀ u c ok, Decidable (p u c ok)] :
    DecidablePred (Throughout p)
  | [] => isTrue trivial
  | (_, _) :: h => @instDecidableAnd _ _ inferInstance (Throughout.decidable h)

def DeletesLast (u : Utils) : Call → Prop
  | .deleteRoutePrefix ip => ip.prefixLength = 0 → ∀ q ∈ u.routes, q.prefixLength = 0 → q = ip
  | _ => True

instance (u : Utils) (c : Call) : Decidable (DeletesLast u c) := by
  cases c <;> first | exact isTrue trivial | exact inferInstanceAs (Decidable (_ → ∀ q ∈ u.routes, _))

/-- How the daemon makes the calls: routes are set only with an interface, and route calls succeed. -/
def Proper (u : Utils) : Call → Bool → Prop
  | .updateRoutePrefix _, ok => u.monitor.isSome ∧ ok = true
  | .deleteRoutePrefix _, ok => ok = true
  | _, _ => True

theorem captureMatches_update {u : Utils} {ip : IPAddress} (hu : u.monitor.isSome) (hm : CaptureMatches u) :
    CaptureMatches (u.updateRoutePrefix ip true) := by
  obtain ⟨b, hb⟩ := Option.isSome_iff_exists.mp hu
  by_cases hip : ip.prefixLength = 0
  · simp [CaptureMatches, Utils.updateRoutePrefix, Utils.setDetaultRouteCapture, Utils.capturing, hip, hb]
  · simpa [CaptureMatches, Utils.updateRoutePrefix, Utils.capturing, hip] using hm

theorem captureMatches_delete {u : Utils} {ip : IPAddress} (hm : CaptureMatches u) :
    CaptureMatches (u.deleteRoutePrefix ip true) ↔ DeletesLast u (.deleteRoutePrefix ip) := by
  by_cases hip : ip.prefixLength = 0
  · have hoff : ¬(u.deleteRoutePrefix ip true).capturing := by
      simp [Utils.capturing, Utils.deleteRoutePrefix, Utils.setDetaultRouteCapture, hip]
    rw [CaptureMatches, iff_false_left hoff]
    simp only [Utils.deleteRoutePrefix, hip, if_true, DeletesLast, Finset.mem_erase, not_exists, not_and]
    refine ⟨fun h _ q hq hdefault => ?_, fun h q hq hdefault => hq.1 (h trivial q hq.2 hdefault)⟩
    by_contra hne
    exact h q ⟨hne, hq⟩ hdefault
  · have hrest : (∃ q ∈ u.routes.erase ip, q.prefixLength = 0) ↔ ∃ q ∈ u.routes, q.prefixLength = 0 := by
      refine exists_congr fun q => and_congr_left fun hdefault => ?_
      rw [Finset.mem_erase, and_iff_right]
      rintro rfl
      exact hip hdefault
    refine iff_of_true ?_ fun h => absurd h hip
    have heq : u.deleteRoutePrefix ip true = { u with routes := u.routes.erase ip } := by
      simp [Utils.deleteRoutePrefix, hip]
    rw [heq]
    exact hm.trans hrest.symm

theorem captureMatches_apply {u : Utils} {c : Call} {ok : Bool} (hp : Proper u c ok) (hm : CaptureMatches u) :
    CaptureMatches (u.apply c ok) ↔ DeletesLast u c := by
  cases c with
  | updateRoutePrefix ip =>
    obtain ⟨hu, rfl⟩ := hp
    exact iff_of_true (captureMatches_update hu hm) trivial
  | deleteRoutePrefix ip =>
    cases hp
    exact captureMatches_delete hm
  | addInterface config =>
    refine iff_of_true ?_ trivial
    cases ok with
    | false => exact hm
    | true => exact iff_of_false (by simp [Utils.apply, Utils.capturing]) (by simp [Utils.apply])
  | deleteInterface =>
    exact iff_of_true (iff_of_false (by simp [Utils.apply, Utils.capturing]) (by simp [Utils.apply])) trivial
  | prepareActivation | interfaceExists | addInterfaceIPs | setMTUAndUp | updatePeer | deletePeer | addExclusionRoutes
  | deleteExclusionRoute | updateResolvers | restoreResolvers | run => exact iff_of_true hm trivial

theorem captureMatches_iff {h : History} (hp : Throughout Proper h) :
    (∀ h', h' <:+ h → CaptureMatches (after h')) ↔ Throughout (fun u c _ => DeletesLast u c) h := by
  induction h with
  | nil =>
    refine iff_of_true (fun h' hh => ?_) trivial
    rw [List.suffix_nil.mp hh]
    decide
  | cons x h ih =>
    obtain ⟨c, ok⟩ := x
    have hstep := captureMatches_apply hp.1
    rw [Throughout, ← ih hp.2]
    constructor
    · intro hall
      have hrest : ∀ h', h' <:+ h → CaptureMatches (after h') := fun h' hh => hall h' (hh.trans (List.suffix_cons _ h))
      exact ⟨(hstep (hrest h (List.suffix_refl h))).mp (hall _ (List.suffix_refl _)), hrest⟩
    · rintro ⟨hlast, hrest⟩ h' hh
      rcases List.suffix_cons_iff.mp hh with rfl | hh
      · exact (hstep (hrest h (List.suffix_refl h))).mpr hlast
      · exact hrest h' hh

section Steps

variable {qt : Qt} {answer : History → Call → Bool} {d : State History}

theorem isSome_setDetaultRouteCapture (u : Utils) (enable : Bool) :
    (u.setDetaultRouteCapture enable).monitor.isSome = u.monitor.isSome := Option.isSome_map

theorem isSome_apply {u : Utils} {c : Call} (hc : c ≠ .deleteInterface) (ok : Bool) (hu : u.monitor.isSome) :
    (u.apply c ok).monitor.isSome := by
  cases c with
  | deleteInterface => exact absurd rfl hc
  | addInterface config =>
    cases ok with
    | false => exact hu
    | true => rfl
  | updateRoutePrefix ip =>
    rw [Utils.apply, Utils.updateRoutePrefix]
    split <;> split <;> first | exact hu | exact (isSome_setDetaultRouteCapture u true).trans hu
  | deleteRoutePrefix ip =>
    rw [Utils.apply, Utils.deleteRoutePrefix]
    split <;> split <;> first | exact hu | exact (isSome_setDetaultRouteCapture u false).trans hu
  | prepareActivation | interfaceExists | addInterfaceIPs | setMTUAndUp | updatePeer | deletePeer | addExclusionRoutes
  | deleteExclusionRoute | updateResolvers | restoreResolvers | run => exact hu

/-- The calls were proper ones, and the interface is there. -/
def Up (h : History) : Prop := Throughout Proper h ∧ (after h).monitor.isSome

/-- Between the daemon's operations: the interface is there while there is a connection. -/
def Tracked (d : State History) : Prop :=
  Throughout Proper d.platform ∧ ((∃ hop, d.connections hop ≠ none) → (after d.platform).monitor.isSome)

theorem tracked_of_up (hd : Has Up d) : Tracked d := ⟨hd.1, fun _ => hd.2⟩

theorem proper_call (hos : OsSucceeds answer) {c : Call} {h : History}
    (hup : ∀ ip, c = .updateRoutePrefix ip → (after h).monitor.isSome) : Proper (after h) c (answer h c) := by
  cases c with
  | updateRoutePrefix ip => exact ⟨hup ip rfl, hos.updateRoutePrefix h ip⟩
  | deleteRoutePrefix ip => exact hos.deleteRoutePrefix h ip
  | _ => trivial

theorem tracked_emit (signal : Signal) : Triple Tracked (update (State.emit signal)) Tracked Tracked :=
  triple_update fun _ hd => hd

variable (hos : OsSucceeds answer)
include hos

theorem untouched_up : Untouched (oracle answer false) Up :=
  fun c hc h hh => ⟨⟨proper_call hos fun _ _ => hh.2, hh.1⟩, isSome_apply (by rintro rfl; cases hc) _ hh.2⟩

theorem tracked_call {c : Call} (hc : c ≠ .deleteInterface) (hup : ∀ ip, c ≠ .updateRoutePrefix ip) :
    Keeps (oracle answer false) Tracked c := by
  intro d hd
  rw [ite_self]
  exact ⟨⟨proper_call hos fun ip h => absurd h (hup ip), hd.1⟩, fun hsome => isSome_apply hc _ (hd.2 hsome)⟩

theorem up_interface (config : InterfaceConfig) :
    Triple Tracked
      ((call (oracle answer false) .interfaceExists).orElse (call (oracle answer false) (.addInterface config)))
      (Has Up) Tracked := by
  refine triple_orElse (M := Tracked) (fun d hd => ?_) fun d hd => ?_
  · have hkeep := (tracked_call hos (c := .interfaceExists) (by simp) (by simp)).final hd
    change if answer d.platform .interfaceExists then _ else _
    split
    next hexists =>
      rw [hos.interfaceExists] at hexists
      exact ⟨hkeep.1, hexists⟩
    · exact hkeep
  · have hkeep := (tracked_call hos (c := .addInterface config) (by simp) (by simp)).final hd
    change if answer d.platform (.addInterface config) then _ else _
    rw [if_pos (hos.addInterface d.platform config)]
    refine ⟨hkeep.1, ?_⟩
    change ((after d.platform).apply (.addInterface config) (answer d.platform (.addInterface config))).monitor.isSome
    rw [hos.addInterface]
    rfl

theorem tracked_activateNew (config : InterfaceConfig) :
    Triple Tracked (activateNew qt (oracle answer false) config) Tracked Tracked := by
  have hcall {c : Call} (hc : c.isInterface = false) : Keeps (oracle answer false) (Has Up) c :=
    has_call (untouched_up hos) hc
  refine triple_onFailure ?_ (tracked_emit _)
  refine triple_andThen (triple_ignore (tracked_call hos (by simp) (by simp))) (triple_andThen (up_interface hos config) ?_)
  refine Triple.weaken (X := Has Up) (Y := Has Up) ?_ (fun _ => id) (fun _ => tracked_of_up) fun _ => tracked_of_up
  refine triple_andThen triple_skip (triple_andThen (has_addExclusionRoutes (untouched_up hos) _) ?_)
  refine triple_onFailure (triple_andThen (hcall rfl) ?_) (has_exclusionRoutesGuard (untouched_up hos) _)
  exact triple_andThen (has_maybeUpdateResolvers (untouched_up hos) config) <|
    triple_andThen (triple_forAll fun ip _ => hcall rfl) <| triple_andThen (hcall rfl) (triple_update fun _ hd => hd)

theorem tracked_deactivate (emitSignals : Bool) :
    Triple Tracked (deactivate (oracle answer false) emitSignals) Tracked Tracked := by
  refine triple_deactivate (fun _ => tracked_call hos (by simp) (by simp)) (fun _ hd => hd)
    (tracked_call hos (by simp) (by simp)) (fun d _ => triple_forEach fun state _ => ?_)
    (fun _ => tracked_call hos (by simp) (by simp)) (triple_andThen (M := fun d => Throughout Proper d.platform ∧
      d.connections = fun _ => none) (triple_update fun d hd => ⟨hd.1, rfl⟩) fun d hd => ?_) emitSignals
  · exact triple_andThen (triple_forEach fun ip _ => tracked_call hos (by simp) (by simp))
      (triple_ignore (tracked_call hos (by simp) (by simp)))
  · rw [ite_self]
    exact ⟨⟨trivial, hd.1⟩, fun hsome => hsome.elim fun hop hne => absurd (congrFun hd.2 hop) hne⟩

theorem tracked_step {request : Request} (hd : Tracked d) : Tracked ((⟨request, answer⟩ : Step).run qt false d).2 := by
  cases request with
  | deactivate emitSignals => exact (tracked_deactivate hos emitSignals).final hd
  | activate config =>
    change Tracked (activate qt (oracle answer false) config d).2
    rw [activate, inspect]
    cases hc : d.connections config.hopType with
    | none => exact (tracked_activateNew hos config).final hd
    | some state =>
      have hup : Has Up d := ⟨hd.1, hd.2 ⟨config.hopType, by simp [hc]⟩⟩
      refine (triple_onFailure (P := Has Up) ?_ (tracked_emit _)).final hup
      by_cases hswitch : supportServerSwitching state.config config
      · rw [if_pos hswitch]
        exact (has_switchActivate (untouched_up hos) _ _).weaken (fun _ => id) (fun _ => tracked_of_up)
          fun _ => tracked_of_up
      · rw [if_neg hswitch]
        exact (triple_andThen (tracked_deactivate hos false) (tracked_activateNew hos config)).weaken
          (fun _ => tracked_of_up) (fun _ => id) fun _ => id

end Steps

def runDaemon (qt : Qt) (steps : List Step) : State History :=
  steps.foldl (fun d s => (s.run qt false d).2) (start [])

theorem tracked_run (qt : Qt) {steps : List Step} (hos : ∀ s ∈ steps, OsSucceeds s.answer) :
    Tracked (runDaemon qt steps) := by
  induction steps using List.reverseRecOn with
  | nil => exact ⟨trivial, fun h => h.elim fun _ hne => absurd rfl hne⟩
  | append_singleton steps s ih =>
    rw [runDaemon, List.foldl_concat]
    exact tracked_step (hos s (List.mem_append_right _ (.head _))) (ih fun s hs => hos s (List.mem_append_left _ hs))

/-- After every call the daemon makes, capture is on exactly while a default route is installed, if
and only if no default route is deleted while another one is installed. -/
theorem capture_follows_default_routes_iff (qt : Qt) {steps : List Step} (hos : ∀ s ∈ steps, OsSucceeds s.answer) :
    (∀ h, h <:+ (runDaemon qt steps).platform → CaptureMatches (after h)) ↔
      Throughout (fun u c _ => DeletesLast u c) (runDaemon qt steps).platform :=
  captureMatches_iff (tracked_run qt hos).1

def agreeing : History → Call → Bool
  | h, .interfaceExists => (after h).monitor.isSome
  | _, _ => true

theorem agreeing_succeeds : OsSucceeds agreeing := ⟨fun _ => rfl, fun _ _ => rfl, fun _ _ => rfl, fun _ _ => rfl⟩

def defaultIpv4 : IPAddress := ⟨.ipv4 0, 0⟩

def defaultIpv6 : IPAddress := ⟨.ipv6 0, 0⟩

def routing (ranges : List IPAddress) : Step := ⟨.activate { allowedIPAddressRanges := ranges }, agreeing⟩

theorem capture_follows_default_routes_ipv4 :
    OsSucceeds agreeing ∧
    ∀ h, h <:+ (runDaemon sampleQt [routing [defaultIpv4], routing [defaultIpv4, ⟨.ipv6 0, 64⟩],
      ⟨.deactivate true, agreeing⟩]).platform → CaptureMatches (after h) := by
  refine ⟨agreeing_succeeds, (capture_follows_default_routes_iff sampleQt fun s hs => ?_).mpr (by decide)⟩
  simp only [List.mem_cons, List.not_mem_nil, or_false] at hs
  rcases hs with rfl | rfl | rfl <;> exact agreeing_succeeds

/-- A switch to a server without IPv6 deletes `::/0`, and capture goes off with `0.0.0.0/0` still installed. -/
theorem switch_without_ipv6_ends_capture :
    (after (runDaemon sampleQt [routing [defaultIpv4, defaultIpv6], routing [defaultIpv4]]).platform).routes =
      {defaultIpv4} ∧
    ¬(after (runDaemon sampleQt [routing [defaultIpv4, defaultIpv6], routing [defaultIpv4]]).platform).capturing ∧
    ¬CaptureMatches (after (runDaemon sampleQt [routing [defaultIpv4, defaultIpv6], routing [defaultIpv4]]).platform) := by
  decide

end TunnelCore.RouteMonitor
