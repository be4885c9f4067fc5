import TunnelCore.Daemon.Daemon

namespace TunnelCore.Daemon

open TunnelCore.Action

variable {σ : Type} {qt : Qt} {pf : Platform σ}

section Keeps

variable {P Q X Y : State σ → Prop} {config lastConfig : InterfaceConfig}

def Keeps (pf : Platform σ) (P : State σ → Prop) (c : Call) : Prop := Triple P (call pf c) P P

theorem keeps_addExclusionRoutes (hcounts : ∀ d counts, P d → P { d with excludedAddrSet := counts })
    (hadd : ∀ ips, Keeps pf P (.addExclusionRoutes ips)) (addresses : List String) :
    Triple P (addExclusionRoutes qt pf addresses) P P :=
  triple_inspect fun _ _ => triple_andThen (hadd _) (triple_forEach fun _ _ => triple_update fun d => hcounts d _)

theorem keeps_maybeUpdateResolvers (h : Keeps pf P (.updateResolvers (resolvers qt config))) :
    Triple P (maybeUpdateResolvers qt pf config) P P := by
  rw [maybeUpdateResolvers]
  split
  · exact h
  · exact triple_skip

theorem keeps_unlessAllowed {ip : IPAddress} (h : Keeps pf P (.deleteRoutePrefix ip)) (allowed : List IPAddress) :
    Triple P (if ip ∈ allowed then skip else call pf (.deleteRoutePrefix ip)) P P := by
  split
  · exact triple_skip
  · exact h

theorem keeps_switchRoutes (hpeer : Keeps pf P (.updatePeer lastConfig))
    (hupdate : ∀ ip, Keeps pf P (.updateRoutePrefix ip)) (hdelete : ∀ ip, Keeps pf P (.deleteRoutePrefix ip))
    (ips updated : List IPAddress) : Triple P (switchRoutes pf lastConfig ips updated) P P := by
  induction ips generalizing updated with
  | nil => exact triple_skip
  | cons ip ips ih =>
    have hrestore : Triple P (restoreRoutes pf lastConfig updated) P P :=
      triple_andThen (triple_forEach fun q _ => keeps_unlessAllowed (hdelete q) _) (triple_ignore hpeer)
    exact triple_andThen (triple_onFailure (hupdate ip) hrestore) (ih _)

/-- `deactivate` with `P` up to the routes of the connections, and `Q` up to the exclusion routes. -/
theorem triple_deactivate (hrun : ∀ config, Triple P (call pf (.run .down config)) P Y)
    (hemit : ∀ d, P d → P (d.emit .disconnected)) (hresolvers : Keeps pf P .restoreResolvers)
    (hroutes : ∀ d, P d → Triple P (forEach (fun state => deactivateConnection pf state.config) d.active) Q Y)
    (hexclusion : ∀ ip, Keeps pf Q (.deleteExclusionRoute ip))
    (hrest : Triple Q ((update fun d => { d with excludedAddrSet := ∅, connections := fun _ => none }).andThen
      (call pf .deleteInterface)) X Y) (emitSignals : Bool) : Triple P (deactivate pf emitSignals) X Y := by
  refine triple_andThen (M := P) (triple_inspect fun d _ => ?_) (triple_andThen (M := P) ?_ ?_)
  · cases d.active with
    | nil => exact triple_skip
    | cons first _ => exact hrun first.config
  · split
    · exact triple_update hemit
    · exact triple_skip
  refine triple_andThen (triple_ignore hresolvers) (triple_andThen (triple_inspect hroutes) ?_)
  exact triple_andThen (triple_inspect fun d _ => triple_forEach fun ip _ => hexclusion ip) hrest

end Keeps

def Call.isInterface : Call → Bool
  | .interfaceExists | .addInterface _ | .deleteInterface => true
  | _ => false

/-- A fact about the platform that only the three calls on the interface may change. -/
def Untouched (pf : Platform σ) (P : σ → Prop) : Prop :=
  ∀ c : Call, c.isInterface = false → ∀ s, P s → P (pf.call c s).2

def Has (P : σ → Prop) (d : State σ) : Prop := P d.platform

variable {P : σ → Prop} {Y : State σ → Prop}

theorem has_call (h : Untouched pf P) {c : Call} (hc : c.isInterface = false) :
    Triple (Has P) (call pf c) (Has P) (Has P) := by
  intro d hd
  rw [ite_self]
  exact h c hc d.platform hd

theorem has_addExclusionRoutes (h : Untouched pf P) (addresses : List String) :
    Triple (Has P) (addExclusionRoutes qt pf addresses) (Has P) (Has P) :=
  keeps_addExclusionRoutes (fun _ _ hd => hd) (fun _ => has_call h rfl) addresses

theorem has_delExclusionRoute (h : Untouched pf P) (ip : IPAddress) :
    Triple (Has P) (delExclusionRoute pf ip) (Has P) (Has P) := by
  have htouch (d : State σ) (hd : Has P d) : Has P (d.touch ip) := by rwa [Has, State.touch_platform]
  refine triple_andThen (triple_update htouch) (triple_branch_either (triple_update fun _ hd => hd) ?_)
  exact triple_andThen (has_call h rfl) (triple_update fun _ hd => hd)

theorem has_exclusionRoutesGuard (h : Untouched pf P) (addresses : List String) :
    Triple (Has P) (exclusionRoutesGuard qt pf addresses) (Has P) Y :=
  triple_forEach fun ip _ => has_delExclusionRoute h ip

theorem has_maybeUpdateResolvers (h : Untouched pf P) (config : InterfaceConfig) :
    Triple (Has P) (maybeUpdateResolvers qt pf config) (Has P) (Has P) := keeps_maybeUpdateResolvers (has_call h rfl)

theorem has_switchServer (h : Untouched pf P) (lastConfig config : InterfaceConfig) :
    Triple (Has P) (switchServer qt pf lastConfig config) (Has P) (Has P) := by
  have hroutes : Triple (Has P) (switchRoutes pf lastConfig config.allowedIPAddressRanges []) (Has P) (Has P) :=
    keeps_switchRoutes (has_call h rfl) (fun _ => has_call h rfl) (fun _ => has_call h rfl) _ _
  refine triple_andThen (has_addExclusionRoutes h _) ?_
  refine triple_andThen (triple_onFailure (triple_andThen (has_call h rfl) hroutes) (has_exclusionRoutesGuard h _)) ?_
  refine triple_andThen (triple_forEach fun _ _ => has_delExclusionRoute h _) ?_
  refine triple_andThen (triple_forEach fun ip _ => keeps_unlessAllowed (has_call h rfl) _) ?_
  refine triple_andThen ?_ (triple_update fun _ hd => hd)
  split
  · exact has_call h rfl
  · exact triple_skip

theorem has_switchActivate (h : Untouched pf P) (lastConfig config : InterfaceConfig) :
    Triple (Has P) (switchActivate qt pf lastConfig config) (Has P) (Has P) :=
  triple_andThen (has_switchServer h _ _) <|
  triple_andThen (has_call h rfl) <|
  triple_andThen (has_maybeUpdateResolvers h _) <|
  triple_andThen (has_call h rfl) (triple_update fun _ hd => hd)

end TunnelCore.Daemon
