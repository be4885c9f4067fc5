import TunnelCore.Sites.Controller
import TunnelCore.Library.Runs

namespace TunnelCore.Sites

open Connection KillSwitch

def Mirrors (s : State) : Prop := Assoc.read s.sites = s.settings.siteView s.currentRouteMode

structure WellFormed (s : State) : Prop where
  distinct : (Assoc.keys s.sites).Nodup
  ordered : s.settings.AllOrdered

/-- What keeps memory and storage together: only clean addresses come with sites that are new to
the list, and addresses that were looked up come while their site is in it. -/
def Event.Fits (s : State) : Event → Prop
  | .addSites new false => ∀ site ∈ new.entries, Assoc.read s.sites site.1 = none → Settings.Clean site.2
  | .resolved hostname addresses =>
    hostname ∈ s.lookups → State.allIpv4 addresses ≠ [] → hostname ∈ Assoc.keys s.sites
  | _ => True

def Event.Adds (host : String) : Event → Prop
  | .addSite hostname => normalizeHostname hostname = host
  | .addSites new _ => host ∈ Assoc.keys new.entries
  | _ => False

/-- A host that is new to a stored map was added by the user, in the current mode. -/
def AddsOnlyAdded (s : State) (e : Event) : Prop :=
  ∀ key host, host ∈ Assoc.keys ((step s e).settings.storedSites key) →
    host ∈ Assoc.keys (s.settings.storedSites key) ∨ key = Settings.sitesKey s.currentRouteMode ∧ e.Adds host

section Mirror

variable {s : State}

theorem mirrors_fillSites (s : State) : Mirrors s.fillSites := Assoc.read_map _ _

theorem mirrors_start (settings : Settings) : Mirrors (.start settings) := mirrors_fillSites _

theorem mirrors_setRouteMode (routeMode : RouteMode) (s : State) : Mirrors (s.setRouteMode routeMode) :=
  mirrors_fillSites { s with currentRouteMode := routeMode }

theorem read_adjust_eq_merge (h : Mirrors s) {hostname : String} {ips : List String}
    (hmem : hostname ∈ Assoc.keys s.sites) :
    Assoc.read (Assoc.adjust hostname (appendRanges · ips) s.sites) =
      Settings.merge (s.settings.siteView s.currentRouteMode) (hostname, ips) := by
  rw [Assoc.read_adjust, h, Settings.merge]
  cases hread : s.settings.siteView s.currentRouteMode hostname with
  | none =>
    rw [← h, Assoc.read_eq_none_iff] at hread
    exact absurd hmem hread
  | some known => rfl

theorem addSiteInternal_nil (h : Mirrors s) (hostname : String) :
    State.addSiteInternal hostname [] s =
      if hostname ∈ Assoc.keys s.sites then (false, s)
      else (true, { s with
        sites := s.sites ++ [(hostname, [])]
        settings := s.settings.addVpnSite s.currentRouteMode hostname [] }) := by
  have hstored : (s.settings.vpnSites s.currentRouteMode).lookup hostname = none ↔ s.sites.lookup hostname = none := by
    have hread := congrFun h hostname
    rw [Settings.siteView, Settings.viewOf] at hread
    rw [show s.sites.lookup hostname = _ from hread, Option.map_eq_none_iff]
    rfl
  rw [State.addSiteInternal]
  by_cases hmem : hostname ∈ Assoc.keys s.sites
  · have hread : s.sites.lookup hostname ≠ none := fun hnone => Assoc.read_eq_none_iff.mp hnone hmem
    rw [if_pos hmem, if_pos]
    simpa [Option.isSome_iff_ne_none] using mt hstored.mp hread
  · have hread : s.sites.lookup hostname = none := Assoc.read_eq_none_iff.mpr hmem
    simp [hmem, hread, hstored.mpr hread]

theorem mirrors_addSiteInternal (h : Mirrors s) (hostname : String) :
    Mirrors (State.addSiteInternal hostname [] s).2 := by
  rw [addSiteInternal_nil h]
  split
  · exact h
  next hmem =>
    have hread : Assoc.read s.sites hostname = none := Assoc.read_eq_none_iff.mpr hmem
    change Assoc.read (s.sites ++ [(hostname, [])]) = _
    rw [Assoc.read_concat hread, Settings.siteView_addVpnSite, Settings.merge, ← h, hread]
    rfl

theorem mirrors_addSite (h : Mirrors s) (hostname : String) : Mirrors (s.addSite hostname).2 := by
  rw [State.addSite]
  repeat' split
  · exact h
  · exact mirrors_addSiteInternal h _
  all_goals
    rename_i heq
    have hadded := mirrors_addSiteInternal h (normalizeHostname hostname)
    rw [heq] at hadded
    exact hadded

theorem mirrors_removeSite (h : Mirrors s) (hw : WellFormed s) (hostname : String) :
    Mirrors (s.removeSite hostname).2 := by
  rw [State.removeSite]
  split
  · change Assoc.read (Assoc.eraseFirst hostname s.sites) = _
    rw [Assoc.eraseFirst_eq_eraseAll hw.distinct, Assoc.read_eraseAll, Settings.siteView_removeVpnSite, h]
  · exact h

theorem mirrors_removeSites (s : State) : Mirrors s.removeSites :=
  (Settings.siteView_setVpnSites s.settings s.currentRouteMode []).symm

theorem mirrors_replace (s : State) (new : SiteMap) : Mirrors (s.addSites new true) := by
  change Assoc.read (new.entries.map fun site => (site.1, Settings.siteIpList site.2)) = _
  rw [Assoc.read_map]
  exact (Settings.siteView_replaceVpnSites ..).symm

/-- What the loop in memory makes of a site; the addresses of a new one are taken as they are. -/
def takeIn (memory : String → Option (List String)) (site : String × List String) : String → Option (List String) :=
  Function.update memory site.1 (some (((memory site.1).map (appendRanges · site.2)).getD site.2))

theorem read_mergeSites (new sites : List (String × List String)) :
    Assoc.read (State.mergeSites new sites) = new.foldl takeIn (Assoc.read sites) := by
  refine (List.foldl_hom Assoc.read fun sites site => ?_).symm
  rw [takeIn]
  cases hread : Assoc.read sites site.1 with
  | some known =>
    rw [show sites.lookup site.1 = some known from hread, if_pos Option.isSome_some, Assoc.read_adjust, hread]
    rfl
  | none =>
    rw [show sites.lookup site.1 = none from hread, if_neg (by simp), Assoc.read_concat hread]
    rfl

theorem mirrors_merge_iff (h : Mirrors s) (new : SiteMap) :
    Mirrors (s.addSites new false) ↔ (Event.addSites new false).Fits s := by
  have hnodup := new.ordered.nodup_keys
  have hmemory (host : String) : new.entries.foldl takeIn (Assoc.read s.sites) host =
      (Assoc.read new.entries host).elim (Assoc.read s.sites host) fun ips =>
        some (((Assoc.read s.sites host).map (appendRanges · ips)).getD ips) :=
    Assoc.foldl_update_apply (fun known ips => some ((known.map (appendRanges · ips)).getD ips)) hnodup
      (Assoc.read s.sites) host
  have hstore (host : String) : new.entries.foldl Settings.merge (Assoc.read s.sites) host =
      (Assoc.read new.entries host).elim (Assoc.read s.sites host) fun ips =>
        some (appendRanges ((Assoc.read s.sites host).getD []) ips) :=
    Assoc.foldl_update_apply (fun known ips => some (appendRanges (known.getD []) ips)) hnodup
      (Assoc.read s.sites) host
  change Assoc.read (State.mergeSites new.entries s.sites) =
    (s.settings.addVpnSites s.currentRouteMode new.entries).siteView s.currentRouteMode ↔ _
  rw [read_mergeSites, Settings.siteView_addVpnSites, ← h, funext_iff]
  constructor
  · intro heq site hsite hnew
    have hread : Assoc.read new.entries site.1 = some site.2 := Assoc.read_of_mem hnodup hsite
    have hhost := heq site.1
    rw [hmemory, hstore, hread, hnew] at hhost
    exact (Settings.appendRanges_nil site.2).symm.trans (Option.some.inj hhost).symm
  · intro hfits host
    rw [hmemory, hstore]
    cases hread : Assoc.read new.entries host with
    | none => rfl
    | some ips =>
      cases hknown : Assoc.read s.sites host with
      | some known => rfl
      | none =>
        have hclean : Settings.siteIpList ips = ips := hfits (host, ips) (Assoc.mem_of_read hread) hknown
        exact congrArg some (hclean.symm.trans (Settings.appendRanges_nil ips).symm)

theorem mirrors_resolved_iff (h : Mirrors s) {hostname : String} {ips : List String} :
    Mirrors (s.processSiteAfterResolve hostname ips) ↔ hostname ∈ Assoc.keys s.sites := by
  have hstore : (s.processSiteAfterResolve hostname ips).settings.siteView s.currentRouteMode =
      Settings.merge (s.settings.siteView s.currentRouteMode) (hostname, ips) := Settings.siteView_addVpnSite ..
  constructor
  · intro hm
    -- the site is stored now, so that it has to be in the list, where no site was added
    have hsome : Assoc.read (Assoc.adjust hostname (appendRanges · ips) s.sites) hostname ≠ none := by
      rw [show Assoc.read (Assoc.adjust hostname (appendRanges · ips) s.sites) = _ from hm.trans hstore, Settings.merge]
      simp
    rwa [Ne, Assoc.read_eq_none_iff, not_not, Assoc.keys_adjust] at hsome
  · intro hmem
    exact (read_adjust_eq_merge h hmem).trans hstore.symm

theorem Mirrors.step_iff (h : Mirrors s) (hw : WellFormed s) (e : Event) : Mirrors (step s e) ↔ e.Fits s := by
  cases e with
  | addSite hostname => exact iff_of_true (mirrors_addSite h hostname) trivial
  | addSites new replaceExisting =>
    cases replaceExisting with
    | true => exact iff_of_true (mirrors_replace s new) trivial
    | false => exact mirrors_merge_iff h new
  | removeSite hostname => exact iff_of_true (mirrors_removeSite h hw hostname) trivial
  | removeSites => exact iff_of_true (mirrors_removeSites s) trivial
  | setRouteMode routeMode => exact iff_of_true (mirrors_setRouteMode routeMode s) trivial
  | resolved hostname addresses =>
    rw [step, Event.Fits]
    split
    next hlookup =>
      rw [State.onHostResolved]
      split
      next hnone => exact iff_of_true h fun _ hips => absurd hnone hips
      next hips =>
        have hresolved : Mirrors (State.processSiteAfterResolve hostname (State.allIpv4 addresses)
            { s with lookups := s.lookups.erase hostname }) ↔ hostname ∈ Assoc.keys s.sites :=
          mirrors_resolved_iff (s := { s with lookups := s.lookups.erase hostname }) h
        rw [hresolved]
        exact ⟨fun hmem _ _ => hmem, fun hfits => hfits hlookup hips⟩
    next hlookup => exact iff_of_true h fun hmem => absurd hmem hlookup

end Mirror

section WellFormed

variable {s : State}

theorem addSiteInternal_cases (hostname : String) (s : State) :
    (State.addSiteInternal hostname [] s).2 = s ∨
    Assoc.read s.sites hostname = none ∧ (State.addSiteInternal hostname [] s).2 = { s with
      sites := s.sites ++ [(hostname, [])]
      settings := s.settings.addVpnSite s.currentRouteMode hostname [] } := by
  rw [State.addSiteInternal]
  split
  · exact .inl rfl
  · split
    next known hknown => exact .inl (by rw [if_pos (show appendRanges known [] = known from rfl)])
    next hnone => exact .inr ⟨hnone, rfl⟩

theorem addSite_cases (hostname : String) (s : State) :
    (s.addSite hostname).2.sites = s.sites ∧ (s.addSite hostname).2.settings = s.settings ∨
    Assoc.read s.sites (normalizeHostname hostname) = none ∧
      (s.addSite hostname).2.sites = s.sites ++ [(normalizeHostname hostname, [])] ∧
      (s.addSite hostname).2.settings =
        s.settings.addVpnSite s.currentRouteMode (normalizeHostname hostname) [] := by
  have hfields : (s.addSite hostname).2.sites = s.sites ∧ (s.addSite hostname).2.settings = s.settings ∨
      (s.addSite hostname).2.sites = (State.addSiteInternal (normalizeHostname hostname) [] s).2.sites ∧
        (s.addSite hostname).2.settings = (State.addSiteInternal (normalizeHostname hostname) [] s).2.settings := by
    rw [State.addSite]
    repeat' split
    · exact .inl ⟨rfl, rfl⟩
    · exact .inr ⟨rfl, rfl⟩
    all_goals
      rename_i heq
      rw [heq]
      exact .inr ⟨rfl, rfl⟩
  rcases hfields with h | ⟨hsites, hsettings⟩
  · exact .inl h
  · rw [hsites, hsettings]
    rcases addSiteInternal_cases (normalizeHostname hostname) s with h | ⟨hnone, h⟩
    · rw [h]
      exact .inl ⟨rfl, rfl⟩
    · rw [h]
      exact .inr ⟨hnone, rfl, rfl⟩

theorem changesSites_step (s : State) (e : Event) :
    s.settings.ChangesSites s.currentRouteMode (step s e).settings := by
  cases e with
  | addSite hostname =>
    rw [step]
    rcases addSite_cases hostname s with ⟨-, h⟩ | ⟨-, -, h⟩
    · rw [h]
      exact .refl _ _
    · rw [h]
      exact Settings.changesSites_addVpnSite ..
  | addSites new replaceExisting =>
    cases replaceExisting with
    | true => exact Settings.changesSites_replaceVpnSites _ _ new.ordered
    | false => exact Settings.changesSites_addVpnSites ..
  | removeSite hostname =>
    rw [step, State.removeSite]
    split
    · exact Settings.changesSites_removeVpnSite ..
    · exact .refl _ _
  | removeSites => exact Settings.changesSites_removeAllVpnSites ..
  | setRouteMode routeMode => exact ⟨fun _ _ => rfl, id⟩
  | resolved hostname addresses =>
    rw [step]
    split
    · rw [State.onHostResolved]
      split
      · exact .refl _ _
      · exact Settings.changesSites_addVpnSite ..
    · exact .refl _ _

theorem nodup_fillSites (h : s.settings.AllOrdered) : (Assoc.keys s.fillSites.sites).Nodup := by
  rw [State.fillSites, Assoc.keys_map]
  exact (h _).nodup_keys

theorem nodup_mergeSites (new : List (String × List String)) {sites : List (String × List String)}
    (h : (Assoc.keys sites).Nodup) : (Assoc.keys (State.mergeSites new sites)).Nodup := by
  induction new generalizing sites with
  | nil => exact h
  | cons site new ih =>
    rw [State.mergeSites, List.foldl_cons, ← State.mergeSites]
    apply ih
    split
    · rwa [Assoc.keys_adjust]
    next hnone => exact Assoc.nodup_keys_concat h (Option.not_isSome_iff_eq_none.mp hnone) site.2

theorem WellFormed.start {settings : Settings} (h : settings.AllOrdered) : WellFormed (.start settings) := by
  rw [State.start]
  split
  · exact ⟨nodup_fillSites h, h⟩
  · exact ⟨nodup_fillSites h, h⟩

theorem WellFormed.step (h : WellFormed s) (e : Event) : WellFormed (step s e) := by
  refine ⟨?_, (changesSites_step s e).ordered h.ordered⟩
  cases e with
  | addSite hostname =>
    rw [Sites.step]
    rcases addSite_cases hostname s with ⟨hs, -⟩ | ⟨hnone, hs, -⟩
    · rw [hs]
      exact h.distinct
    · rw [hs]
      exact Assoc.nodup_keys_concat h.distinct hnone []
  | addSites new replaceExisting =>
    cases replaceExisting with
    | true =>
      change (Assoc.keys (new.entries.map fun site => (site.1, Settings.siteIpList site.2))).Nodup
      rw [Assoc.keys_map]
      exact new.ordered.nodup_keys
    | false => exact nodup_mergeSites new.entries h.distinct
  | removeSite hostname =>
    rw [Sites.step, State.removeSite]
    split
    · rw [Assoc.eraseFirst_eq_eraseAll h.distinct]
      exact Assoc.nodup_keys_eraseAll h.distinct hostname
    · exact h.distinct
  | removeSites => exact List.nodup_nil
  | setRouteMode routeMode => exact nodup_fillSites h.ordered
  | resolved hostname addresses =>
    rw [Sites.step]
    split
    · rw [State.onHostResolved]
      split
      · exact h.distinct
      · rw [State.processSiteAfterResolve, Assoc.keys_adjust]
        exact h.distinct
    · exact h.distinct

end WellFormed

section Additions

variable {s : State}

theorem merge_ne_none {view : String → Option (List String)} {site host : String} {ips : List String}
    (h : Settings.merge view (site, ips) host ≠ none) : view host ≠ none ∨ site = host := by
  by_cases hhost : host = site
  · exact .inr hhost.symm
  · rw [Settings.merge, Function.update_of_ne hhost] at h
    exact .inl h

theorem foldl_merge_ne_none {view : String → Option (List String)} {sites : List (String × List String)}
    {host : String} (h : sites.foldl Settings.merge view host ≠ none) : view host ≠ none ∨ host ∈ Assoc.keys sites := by
  induction sites generalizing view with
  | nil => exact .inl h
  | cons site sites ih =>
    rcases ih h with h | h
    · rcases merge_ne_none h with h | rfl
      · exact .inl h
      · exact .inr (.head _)
    · exact .inr (.tail _ h)

theorem siteView_step (h : Mirrors s) {e : Event} (hfits : e.Fits s) {host : String}
    (hhost : (step s e).settings.siteView s.currentRouteMode host ≠ none) :
    s.settings.siteView s.currentRouteMode host ≠ none ∨ e.Adds host := by
  cases e with
  | addSite hostname =>
    rw [step] at hhost
    rcases addSite_cases hostname s with ⟨-, hs⟩ | ⟨-, -, hs⟩
    · rw [hs] at hhost
      exact .inl hhost
    · rw [hs, Settings.siteView_addVpnSite] at hhost
      rw [Event.Adds]
      exact merge_ne_none hhost
  | addSites new replaceExisting =>
    cases replaceExisting with
    | true =>
      have hview : (s.settings.replaceVpnSites s.currentRouteMode new.entries).siteView s.currentRouteMode host ≠
        none := hhost
      rw [Settings.siteView_replaceVpnSites] at hview
      exact .inr (Settings.mem_keys_iff.mpr hview)
    | false =>
      have hview : (s.settings.addVpnSites s.currentRouteMode new.entries).siteView s.currentRouteMode host ≠
        none := hhost
      rw [Settings.siteView_addVpnSites] at hview
      exact foldl_merge_ne_none hview
  | removeSite hostname =>
    rw [step, State.removeSite] at hhost
    split at hhost
    · refine .inl fun hnone => hhost ?_
      rw [Settings.siteView_removeVpnSite, Function.update_apply, hnone, ite_self]
    · exact .inl hhost
  | removeSites => exact absurd (congrFun (Settings.siteView_setVpnSites ..) host) hhost
  | setRouteMode routeMode => exact .inl hhost
  | resolved hostname addresses =>
    rw [step] at hhost
    split at hhost
    next hlookup =>
      rw [State.onHostResolved] at hhost
      split at hhost
      · exact .inl hhost
      next hips =>
        rw [State.processSiteAfterResolve, Settings.siteView_addVpnSite] at hhost
        rcases merge_ne_none hhost with hhost | hhost
        · exact .inl hhost
        -- the site whose addresses come is in the list, and so in the storage
        · have hmem : host ∈ Assoc.keys s.sites := hhost ▸ hfits hlookup hips
          exact .inl fun hnone => Assoc.read_eq_none_iff.mp ((congrFun h host).trans hnone) hmem
    · exact .inl hhost

theorem addsOnlyAdded_step (h : Mirrors s) {e : Event} (hfits : e.Fits s) : AddsOnlyAdded s e := by
  intro key host hhost
  by_cases hkey : key = Settings.sitesKey s.currentRouteMode
  · subst hkey
    have hview := siteView_step h hfits (Settings.mem_keys_iff.mp hhost)
    exact hview.imp Settings.mem_keys_iff.mpr fun hadds => ⟨rfl, hadds⟩
  · rw [(changesSites_step s e).frame key hkey] at hhost
    exact .inl hhost

end Additions

theorem wellFormed_run {settings : Settings} (h : settings.AllOrdered) (events : List Event) :
    WellFormed (run settings events) := by
  induction events using List.reverseRecOn with
  | nil => exact .start h
  | append_singleton events e ih =>
    rw [run, List.foldl_append]
    exact ih.step e

/-- Memory and storage agree in every state, and no site is stored that the user has not added in
that mode, exactly when each lookup ends while its site is in the list and imported sites that are
new come with clean addresses. -/
theorem sites_mirror_store_iff (settings : Settings) (h : settings.AllOrdered) (events : List Event) :
    ((∀ past, past <+: events → Mirrors (run settings past)) ∧ Along step AddsOnlyAdded (.start settings) events) ↔
      Along step (fun s e => e.Fits s) (.start settings) events := by
  have hmirrors : (∀ past, past <+: events → Mirrors (run settings past)) ↔
      Along step (fun s e => e.Fits s) (.start settings) events :=
    forall_prefix_iff_along (mirrors_start settings)
      (fun past e hm => hm.step_iff (wellFormed_run h past) e) events
  rw [hmirrors, and_iff_left_iff_imp]
  intro hfits
  refine hfits.of_invariant (I := fun s => Mirrors s ∧ WellFormed s) (fun s e hs he => ?_)
    ⟨mirrors_start settings, .start h⟩
  exact ⟨⟨(hs.1.step_iff hs.2 e).mpr he, hs.2.step e⟩, addsOnlyAdded_step hs.1 he⟩

section Samples

def noSites : Settings := ⟨true, .vpnOnlyForwardSites, 0, fun _ => [], fun _ => []⟩

theorem noSites_allOrdered : noSites.AllOrdered := fun _ => List.Pairwise.nil

def resolvedHost : Event := .resolved "example.com" [⟨true, "192.0.2.1"⟩]

theorem sites_mirror_store_resolved :
    (∀ past, past <+: [.addSite "https://example.com/page", resolvedHost, .removeSite "example.com"] →
      Mirrors (run noSites past)) ∧
    Along step AddsOnlyAdded (.start noSites)
      [.addSite "https://example.com/page", resolvedHost, .removeSite "example.com"] :=
  (sites_mirror_store_iff noSites noSites_allOrdered _).mpr
    ⟨trivial, fun _ _ => by decide +kernel, trivial, trivial⟩

/-- A lookup that ends after its site was removed, or after the mode was changed, puts the site into
the storage and not into the list. -/
theorem late_lookup_stores_site :
    (run noSites [.addSite "example.com", .removeSite "example.com", resolvedHost]).sites = [] ∧
    (run noSites [.addSite "example.com", .removeSite "example.com", resolvedHost]).settings.vpnSites
      .vpnOnlyForwardSites = [("example.com", ["192.0.2.1"])] ∧
    ¬Mirrors (run noSites [.addSite "example.com", .removeSite "example.com", resolvedHost]) ∧
    (run noSites [.addSite "example.com", .setRouteMode .vpnAllExceptSites, resolvedHost]).sites = [] ∧
    (run noSites [.addSite "example.com", .setRouteMode .vpnAllExceptSites, resolvedHost]).settings.vpnSites
      .vpnAllExceptSites = [("example.com", ["192.0.2.1"])] := by
  refine ⟨by decide +kernel, by decide +kernel, fun h => ?_, by decide +kernel, by decide +kernel⟩
  have hhost := congrFun h "example.com"
  exact absurd hhost (by decide +kernel)

end Samples

end TunnelCore.Sites
