import TunnelCore.Account.RoutingPolicy
import TunnelCore.Sites.Mirror

namespace TunnelCore.Account

open Connection KillSwitch Sites

section Model

/-- The map that the loop over the rules fills: their values, without addresses. -/
def ruleSites (values : List String) : SiteMap where
  entries := values.foldl (fun sites value => Settings.insertSite value [] sites) []
  ordered := by
    have hfold (sites : List (String × List String)) (h : Settings.Ordered sites) :
        Settings.Ordered (values.foldl (fun sites value => Settings.insertSite value [] sites) sites) := by
      induction values generalizing sites with
      | nil => exact h
      | cons value values ih => exact ih _ (h.insertSite value [])
    exact hfold [] .nil

def sameSites (storedSites : List (String × List String)) (sites : SiteMap) : Bool :=
  storedSites.length = sites.entries.length && sites.entries.all fun site =>
    (storedSites.lookup site.1).any fun ips => Settings.siteIpList ips = site.2

/-- What the callback does with the sites of a policy that has some; nothing is written that is so already. -/
def applySites (mode : RouteMode) (sites : SiteMap) (s : Sites.State) : Sites.State :=
  let same := sameSites (s.settings.vpnSites mode) sites
  let sameMode : Bool := s.currentRouteMode = mode
  let alreadyEnabled := s.settings.sitesSplitTunnelingEnabled
  if sameMode && same && alreadyEnabled then s
  else
    let s := if sameMode then s else s.setRouteMode mode
    let s := if same then s else s.addSites sites true
    if alreadyEnabled then s else s.toggleSplitTunneling true

/-- The part of the `applyRouting` callback of `CoreController` that follows on the checks. -/
def writeRouting (rules : List (Bool × String)) (s : Sites.State) : Sites.State :=
  let directSites := ruleSites ((rules.filter (·.1)).map Prod.snd)
  let vpnSites := ruleSites ((rules.filter (!·.1)).map Prod.snd)
  if directSites.entries = [] ∧ vpnSites.entries = [] then
    if s.settings.sitesSplitTunnelingEnabled then s.toggleSplitTunneling false else s
  else if directSites.entries ≠ [] then applySites .vpnAllExceptSites directSites s
  else applySites .vpnOnlyForwardSites vpnSites s

def routingApp (qt : Qt) (platform : Platform) : App Sites.State := coreApp qt platform writeRouting

structure RoutingCall where
  cacheKey : String
  routing : JsonObject
  reportError : Bool

def RoutingCall.run (qt : Qt) (platform : Platform) (w : World Sites.State) (c : RoutingCall) :
    Bool × World Sites.State :=
  applyRouting qt (routingApp qt platform) c.cacheKey c.routing c.reportError w

/-- The calls of one session, in which the last applied policy is forgotten first. What happens between them leaves the
settings and the last applied policy alone. -/
inductive RoutingSession (qt : Qt) (platform : Platform) (s₀ : Sites.State) :
    List RoutingCall → World Sites.State → Prop
  | start {w : World Sites.State} (hs : w.store.routing = s₀) (hkey : w.controller.lastAppliedRoutingCacheKey = "")
      (hrevision : w.controller.lastAppliedRoutingRevision = "") : RoutingSession qt platform s₀ [] w
  | other {calls : List RoutingCall} {w w' : World Sites.State} (h : RoutingSession qt platform s₀ calls w)
      (hs : w'.store.routing = w.store.routing)
      (hkey : w'.controller.lastAppliedRoutingCacheKey = w.controller.lastAppliedRoutingCacheKey)
      (hrevision : w'.controller.lastAppliedRoutingRevision = w.controller.lastAppliedRoutingRevision) :
      RoutingSession qt platform s₀ calls w'
  | call {calls : List RoutingCall} {w : World Sites.State} (h : RoutingSession qt platform s₀ calls w)
      (c : RoutingCall) : RoutingSession qt platform s₀ (calls ++ [c]) (c.run qt platform w).2

end Model

section Policy

variable (qt : Qt)

def ruleText (name : String) (rule : Json) : String := qt.toLower (qt.trimmed (rule.toObject.value name).toString)

structure Supported (rule : Json) : Prop where
  object : rule.isObject = true
  type : ruleText qt "type" rule = "domain" ∨ ruleText qt "type" rule = "ip"
  route : ruleText qt "route" rule = "direct" ∨ ruleText qt "route" rule = "vpn"
  value : ruleText qt "value" rule ≠ ""

def policyRules (routing : JsonObject) : List Json := (routing.value "rules").toArray

/-- The policy has rules of one route only, and each of them is supported. -/
structure Acceptable (routing : JsonObject) : Prop where
  array : (routing.value "rules").isArray = true
  supported : ∀ rule ∈ policyRules routing, Supported qt rule
  uniform : (∀ rule ∈ policyRules routing, ruleText qt "route" rule = "direct") ∨
    ∀ rule ∈ policyRules routing, ruleText qt "route" rule = "vpn"

structure Stores (s : Settings) (mode : RouteMode) (values : List String) : Prop where
  distinct : (Assoc.keys (s.vpnSites mode)).Nodup
  view : ∀ host, s.siteView mode host = if host ∈ values then some [] else none

structure Applied (routing : JsonObject) (s : Settings) : Prop where
  off : policyRules routing = [] → s.sitesSplitTunnelingEnabled = false
  direct : policyRules routing ≠ [] → (∀ rule ∈ policyRules routing, ruleText qt "route" rule = "direct") →
    s.sitesSplitTunnelingEnabled = true ∧ s.routeMode = .vpnAllExceptSites ∧
      Stores s .vpnAllExceptSites ((policyRules routing).map (ruleText qt "value"))
  vpn : policyRules routing ≠ [] → (∀ rule ∈ policyRules routing, ruleText qt "route" rule = "vpn") →
    s.sitesSplitTunnelingEnabled = true ∧ s.routeMode = .vpnOnlyForwardSites ∧
      Stores s .vpnOnlyForwardSites ((policyRules routing).map (ruleText qt "value"))

def ruleSite (rule : Json) : Bool × String := (ruleText qt "route" rule = "direct", ruleText qt "value" rule)

theorem readRule_eq_ok_iff {rule : Json} {site : Bool × String} :
    readRule qt rule = .ok site ↔ Supported qt rule ∧ site = ruleSite qt rule := by
  simp only [readRule]
  split
  case isTrue hobject =>
    refine iff_of_false (fun h => by cases h) fun h => ?_
    simp [h.1.object] at hobject
  case isFalse hobject =>
    split
    case isTrue hbad =>
      refine iff_of_false (fun h => by cases h) fun h => ?_
      obtain ⟨⟨-, htype, hroute, hvalue⟩, -⟩ := h
      simp only [ruleText] at htype hroute hvalue
      rcases htype with htype | htype <;> rcases hroute with hroute | hroute <;> simp [htype, hroute, hvalue] at hbad
    case isFalse hgood =>
      simp only [Bool.or_eq_true, Bool.and_eq_true, decide_eq_true_eq, not_or, not_and_or, not_not, ne_eq] at hgood
      constructor
      · intro h
        exact ⟨⟨by simpa using hobject, hgood.1.1, hgood.1.2, hgood.2⟩, (Except.ok.inj h).symm⟩
      · rintro ⟨-, rfl⟩
        rfl

theorem mapM_readRule_eq_ok_iff {rules : List Json} {sites : List (Bool × String)} :
    rules.mapM (readRule qt) = .ok sites ↔ (∀ rule ∈ rules, Supported qt rule) ∧ sites = rules.map (ruleSite qt) := by
  induction rules generalizing sites with
  | nil =>
    constructor
    · intro h
      cases h
      exact ⟨by simp, rfl⟩
    · rintro ⟨-, rfl⟩
      rfl
  | cons rule rules ih =>
    rw [List.mapM_cons, List.forall_mem_cons]
    cases hrule : readRule qt rule with
    | error message =>
      refine iff_of_false (fun h => by cases h) fun h => ?_
      have hok := (readRule_eq_ok_iff qt).mpr ⟨h.1.1, rfl⟩
      rw [hrule] at hok
      cases hok
    | ok site =>
      obtain ⟨hsupported, rfl⟩ := (readRule_eq_ok_iff qt).mp hrule
      cases hrest : rules.mapM (readRule qt) with
      | error message =>
        refine iff_of_false (fun h => by cases h) fun h => ?_
        have hok := ih.mpr ⟨h.1.2, rfl⟩
        rw [hrest] at hok
        cases hok
      | ok rest =>
        obtain ⟨hall, rfl⟩ := ih.mp hrest
        constructor
        · intro h
          cases h
          exact ⟨⟨hsupported, hall⟩, rfl⟩
        · rintro ⟨-, rfl⟩
          rfl

theorem readPolicy_eq_ok_iff {routing : JsonObject} {sites : List (Bool × String)} :
    readPolicy qt routing = .ok sites ↔ Acceptable qt routing ∧ sites = (policyRules routing).map (ruleSite qt) := by
  simp only [readPolicy]
  split
  case isTrue harray =>
    refine iff_of_false (fun h => by cases h) fun h => ?_
    simp [h.1.array] at harray
  case isFalse harray =>
    have harray : (routing.value "rules").isArray = true := by simpa using harray
    rw [show (routing.value "rules").toArray = policyRules routing from rfl]
    cases hrules : (policyRules routing).mapM (readRule qt) with
    | error message =>
      refine iff_of_false (fun h => by cases h) fun h => ?_
      have hok := (mapM_readRule_eq_ok_iff qt).mpr ⟨h.1.supported, rfl⟩
      rw [hrules] at hok
      cases hok
    | ok read =>
      obtain ⟨hsupported, rfl⟩ := (mapM_readRule_eq_ok_iff qt).mp hrules
      simp only
      split
      case isTrue hmixed =>
        refine iff_of_false (fun h => by cases h) fun h => ?_
        simp only [Bool.and_eq_true, List.any_map, List.any_eq_true, Function.comp_apply, ruleSite, decide_eq_true_eq,
          Bool.not_eq_true', decide_eq_false_iff_not] at hmixed
        obtain ⟨⟨rule, hmem, hdirect⟩, other, hother, hvpn⟩ := hmixed
        rcases h.1.uniform with huniform | huniform
        · exact hvpn (huniform other hother)
        · rw [huniform rule hmem] at hdirect
          exact absurd hdirect (by decide)
      case isFalse hmixed =>
        simp only [Bool.and_eq_true, List.any_map, List.any_eq_true, Function.comp_apply, ruleSite, decide_eq_true_eq,
          Bool.not_eq_true', decide_eq_false_iff_not, not_and_or] at hmixed
        constructor
        · intro h
          refine ⟨⟨harray, hsupported, ?_⟩, (Except.ok.inj h).symm⟩
          refine hmixed.symm.imp (fun hnone rule hmem => ?_) fun hnone rule hmem => ?_
          · by_contra hroute
            exact hnone ⟨rule, hmem, hroute⟩
          · exact (hsupported rule hmem).route.resolve_left fun hroute => hnone ⟨rule, hmem, hroute⟩
        · rintro ⟨-, rfl⟩
          rfl

end Policy

section Settings

theorem read_ruleSites (values : List String) (sites : List (String × List String)) (host : String) :
    Assoc.read (values.foldl (fun sites value => Settings.insertSite value [] sites) sites) host =
      if host ∈ values then some [] else Assoc.read sites host := by
  induction values generalizing sites with
  | nil => simp
  | cons value values ih =>
    rw [List.foldl_cons, ih, Settings.read_insertSite]
    by_cases hmem : host ∈ values
    · simp [hmem]
    · by_cases hhost : host = value <;> simp [hmem, hhost]

theorem viewOf_ruleSites (values : List String) (host : String) :
    Settings.viewOf (ruleSites values).entries host = if host ∈ values then some [] else none := by
  have hread := read_ruleSites values [] host
  rw [Settings.viewOf, ruleSites, hread]
  split <;> rfl

variable {values : List String} {s : Sites.State} {rules : List Json}

theorem mem_ruleSites_iff {host : String} :
    host ∈ Assoc.keys (ruleSites values).entries ↔ host ∈ values := by
  rw [Settings.mem_keys_iff, viewOf_ruleSites]
  split <;> simp [*]

theorem ruleSites_eq_nil_iff : (ruleSites values).entries = [] ↔ values = [] := by
  constructor
  · intro h
    rw [List.eq_nil_iff_forall_not_mem]
    intro host hhost
    have hmem := mem_ruleSites_iff.mpr hhost
    simp [h, Assoc.keys] at hmem
  · rintro rfl
    rfl

theorem viewOf_of_sameSites {storedSites : List (String × List String)}
    (h : sameSites storedSites (ruleSites values) = true) (host : String) :
    Settings.viewOf storedSites host = if host ∈ values then some [] else none := by
  simp only [sameSites, Bool.and_eq_true, decide_eq_true_eq, List.all_eq_true, Option.any_eq_true] at h
  obtain ⟨hlength, hall⟩ := h
  split
  case isTrue hmem =>
    have hread : Assoc.read (ruleSites values).entries host = some [] := by
      have hread := read_ruleSites values [] host
      rwa [if_pos hmem] at hread
    obtain ⟨ips, hips, hsame⟩ := hall (host, []) (Assoc.mem_of_read hread)
    rw [Settings.viewOf, show Assoc.read storedSites host = some ips from hips, Option.map_some, hsame]
  case isFalse hmem =>
    have hkeys := Assoc.keys_perm (ruleSites values).ordered.nodup_keys (fun site hsite => by
      obtain ⟨ips, hips, -⟩ := hall site hsite
      by_contra hnone
      rw [show storedSites.lookup site.1 = none from Assoc.read_eq_none_iff.mpr hnone] at hips
      cases hips) hlength
    by_contra hview
    exact hmem (mem_ruleSites_iff.mp (hkeys.mem_iff.mpr (Settings.mem_keys_iff.mpr hview)))

/-- The controller holds the stored mode, and the stored maps are maps. -/
structure InStep (s : Sites.State) : Prop where
  mode : s.settings.routeMode = s.currentRouteMode
  ordered : s.settings.AllOrdered

theorem routeMode_replaceVpnSites (s : Settings) (mode : RouteMode) (sites : List (String × List String)) :
    (s.replaceVpnSites mode sites).routeMode = s.routeMode ∧
      (s.replaceVpnSites mode sites).sitesSplitTunnelingEnabled = s.sitesSplitTunnelingEnabled := by
  simp only [Settings.replaceVpnSites]
  split
  · exact ⟨rfl, rfl⟩
  · exact ⟨rfl, rfl⟩

theorem setMode_spec (h : InStep s) (mode : RouteMode) {s₁ : Sites.State}
    (h₁ : s₁ = if decide (s.currentRouteMode = mode) then s else s.setRouteMode mode) :
    InStep s₁ ∧ s₁.currentRouteMode = mode ∧ s₁.settings.storedSites = s.settings.storedSites ∧
      s₁.settings.sitesSplitTunnelingEnabled = s.settings.sitesSplitTunnelingEnabled := by
  subst h₁
  split
  case isTrue hmode => exact ⟨h, of_decide_eq_true hmode, rfl, rfl⟩
  case isFalse => exact ⟨⟨rfl, h.ordered⟩, rfl, rfl, rfl⟩

theorem replaceSites_spec (h : InStep s) (values : List String) {s₂ : Sites.State}
    (h₂ : s₂ = if sameSites (s.settings.vpnSites s.currentRouteMode) (ruleSites values) then s
      else s.addSites (ruleSites values) true) :
    InStep s₂ ∧ s₂.currentRouteMode = s.currentRouteMode ∧ Stores s₂.settings s.currentRouteMode values ∧
      s₂.settings.sitesSplitTunnelingEnabled = s.settings.sitesSplitTunnelingEnabled := by
  subst h₂
  split
  case isTrue hsame => exact ⟨h, rfl, ⟨(h.ordered _).nodup_keys, viewOf_of_sameSites hsame⟩, rfl⟩
  case isFalse =>
    obtain ⟨hmode, henabled⟩ := routeMode_replaceVpnSites s.settings s.currentRouteMode (ruleSites values).entries
    have hordered : (s.settings.replaceVpnSites s.currentRouteMode (ruleSites values).entries).AllOrdered :=
      (Settings.changesSites_replaceVpnSites s.settings s.currentRouteMode (ruleSites values).ordered).ordered h.ordered
    refine ⟨⟨hmode.trans h.mode, hordered⟩, rfl, ⟨(hordered _).nodup_keys, fun host => ?_⟩, henabled⟩
    exact (congrFun (Settings.siteView_replaceVpnSites ..) host).trans (viewOf_ruleSites values host)

theorem applySites_spec (h : InStep s) (mode : RouteMode) (values : List String) :
    InStep (applySites mode (ruleSites values) s) ∧
      (applySites mode (ruleSites values) s).settings.sitesSplitTunnelingEnabled = true ∧
      (applySites mode (ruleSites values) s).settings.routeMode = mode ∧
      Stores (applySites mode (ruleSites values) s).settings mode values := by
  simp only [applySites]
  split
  case isTrue hskip =>
    simp only [Bool.and_eq_true, decide_eq_true_eq] at hskip
    obtain ⟨⟨rfl, hsame⟩, henabled⟩ := hskip
    exact ⟨h, henabled, h.mode, (h.ordered _).nodup_keys, viewOf_of_sameSites hsame⟩
  case isFalse =>
    generalize h₁ : (if decide (s.currentRouteMode = mode) = true then s else s.setRouteMode mode) = s₁
    obtain ⟨hstep₁, rfl, hstored, henabled₁⟩ := setMode_spec h mode h₁.symm
    have hsites : s.settings.vpnSites s₁.currentRouteMode = s₁.settings.vpnSites s₁.currentRouteMode := by
      rw [Settings.vpnSites, Settings.vpnSites, hstored]
    rw [hsites, ← henabled₁]
    generalize h₂ : (if sameSites (s₁.settings.vpnSites s₁.currentRouteMode) (ruleSites values) = true then s₁
      else s₁.addSites (ruleSites values) true) = s₂
    obtain ⟨hstep₂, hmode, hstores, henabled₂⟩ := replaceSites_spec hstep₁ values h₂.symm
    split
    case isTrue henabled => exact ⟨hstep₂, henabled₂.trans henabled, hstep₂.mode.trans hmode, hstores⟩
    case isFalse => exact ⟨⟨hstep₂.mode, hstep₂.ordered⟩, rfl, hstep₂.mode.trans hmode, hstores.distinct, hstores.view⟩

variable {qt : Qt}

theorem values_of_route {p : Bool × String → Bool} {route : Bool}
    (h : ∀ rule ∈ rules, p (ruleSite qt rule) = route) :
    ((rules.map (ruleSite qt)).filter p).map Prod.snd = if route then rules.map (ruleText qt "value") else [] := by
  have hkeep (site : Bool × String) (hsite : site ∈ rules.map (ruleSite qt)) : p site = route := by
    obtain ⟨rule, hrule, rfl⟩ := List.mem_map.mp hsite
    exact h rule hrule
  cases route with
  | true =>
    rw [List.filter_eq_self.mpr hkeep, List.map_map]
    rfl
  | false =>
    rw [List.filter_eq_nil_iff.mpr fun site hsite => by simp [hkeep site hsite]]
    rfl

theorem not_direct_and_vpn (hne : rules ≠ []) (hdirect : ∀ rule ∈ rules, ruleText qt "route" rule = "direct")
    (hvpn : ∀ rule ∈ rules, ruleText qt "route" rule = "vpn") : False := by
  obtain ⟨rule, hmem⟩ := List.exists_mem_of_ne_nil rules hne
  exact absurd ((hdirect rule hmem).symm.trans (hvpn rule hmem)) (by decide)

theorem writeRouting_spec (h : InStep s) {routing : JsonObject} (ha : Acceptable qt routing) :
    InStep (writeRouting ((policyRules routing).map (ruleSite qt)) s) ∧
      Applied qt routing (writeRouting ((policyRules routing).map (ruleSite qt)) s).settings := by
  by_cases hempty : policyRules routing = []
  · have hwrite : writeRouting ((policyRules routing).map (ruleSite qt)) s =
        if s.settings.sitesSplitTunnelingEnabled then s.toggleSplitTunneling false else s := by
      rw [hempty]
      rfl
    rw [hwrite]
    split
    case isTrue => exact ⟨⟨h.mode, h.ordered⟩, fun _ => rfl, fun hne => (hne hempty).elim, fun hne => (hne hempty).elim⟩
    case isFalse hoff =>
      exact ⟨h, fun _ => by simpa using hoff, fun hne => (hne hempty).elim, fun hne => (hne hempty).elim⟩
  · rcases ha.uniform with hdirect | hvpn
    · have hwrite : writeRouting ((policyRules routing).map (ruleSite qt)) s =
          applySites .vpnAllExceptSites (ruleSites ((policyRules routing).map (ruleText qt "value"))) s := by
        have hvalues := values_of_route (p := (·.1)) fun rule hrule => decide_eq_true (hdirect rule hrule)
        simp [writeRouting, hvalues, ruleSites_eq_nil_iff, hempty]
      rw [hwrite]
      obtain ⟨hstep, hspec⟩ := applySites_spec h .vpnAllExceptSites ((policyRules routing).map (ruleText qt "value"))
      exact ⟨hstep, fun he => (hempty he).elim, fun _ _ => hspec,
        fun hne hvpn => (not_direct_and_vpn hne hdirect hvpn).elim⟩
    · have hwrite : writeRouting ((policyRules routing).map (ruleSite qt)) s =
          applySites .vpnOnlyForwardSites (ruleSites ((policyRules routing).map (ruleText qt "value"))) s := by
        have hroute (rule : Json) (hrule : rule ∈ policyRules routing) : (ruleSite qt rule).1 = false := by
          simp [ruleSite, hvpn rule hrule]
        have hnone := values_of_route (p := (·.1)) hroute
        have hvalues := values_of_route (p := (!·.1)) fun rule hrule => congrArg (!·) (hroute rule hrule)
        simp [writeRouting, hvalues, hnone, ruleSites_eq_nil_iff, hempty]
      rw [hwrite]
      obtain ⟨hstep, hspec⟩ := applySites_spec h .vpnOnlyForwardSites ((policyRules routing).map (ruleText qt "value"))
      exact ⟨hstep, fun he => (hempty he).elim, fun hne hdirect => (not_direct_and_vpn hne hdirect hvpn).elim,
        fun _ _ => hspec⟩

theorem inStep_start {settings : Settings} (h : settings.AllOrdered) : InStep (.start settings) := by
  rw [Sites.State.start]
  split
  · exact ⟨rfl, h⟩
  · exact ⟨rfl, h⟩

theorem routeMode_addVpnSite (s : Settings) (mode : RouteMode) (site : String) (ips : List String) :
    (s.addVpnSite mode site ips).routeMode = s.routeMode := by
  simp only [Settings.addVpnSite]
  split <;> rfl

theorem modes_addSiteInternal (hostname : String) (ips : List String) (s : Sites.State) :
    (s.addSiteInternal hostname ips).2.settings.routeMode = s.settings.routeMode ∧
      (s.addSiteInternal hostname ips).2.currentRouteMode = s.currentRouteMode := by
  simp only [Sites.State.addSiteInternal]
  repeat' split
  · exact ⟨rfl, rfl⟩
  · exact ⟨rfl, rfl⟩
  · exact ⟨routeMode_addVpnSite .., rfl⟩
  · exact ⟨routeMode_addVpnSite .., rfl⟩

theorem modes_addSite (hostname : String) (s : Sites.State) :
    (s.addSite hostname).2.settings.routeMode = s.settings.routeMode ∧
      (s.addSite hostname).2.currentRouteMode = s.currentRouteMode := by
  have hadded := modes_addSiteInternal (normalizeHostname hostname) [] s
  simp only [Sites.State.addSite]
  repeat' split
  · exact ⟨rfl, rfl⟩
  · exact hadded
  all_goals
    rename_i heq
    rw [heq] at hadded
    exact hadded

theorem inStep_step (h : InStep s) (e : Sites.Event) : InStep (Sites.step s e) := by
  refine ⟨?_, (changesSites_step s e).ordered h.ordered⟩
  cases e with
  | addSite hostname =>
    obtain ⟨hstored, hcurrent⟩ := modes_addSite hostname s
    rw [Sites.step, hstored, hcurrent]
    exact h.mode
  | addSites new replaceExisting =>
    cases replaceExisting with
    | true => exact (routeMode_replaceVpnSites ..).1.trans h.mode
    | false => exact h.mode
  | removeSite hostname =>
    rw [Sites.step, Sites.State.removeSite]
    split
    · simp only [Settings.removeVpnSite]
      split <;> exact h.mode
    · exact h.mode
  | removeSites => exact h.mode
  | setRouteMode routeMode => rfl
  | resolved hostname addresses =>
    rw [Sites.step]
    split
    · rw [Sites.State.onHostResolved]
      split
      · exact h.mode
      · exact (routeMode_addVpnSite ..).trans h.mode
    · exact h.mode

theorem inStep_run {settings : Settings} (h : settings.AllOrdered) (events : List Sites.Event) :
    InStep (Sites.run settings events) := by
  rw [Sites.run]
  induction events using List.reverseRecOn with
  | nil => exact inStep_start h
  | append_singleton events e ih =>
    rw [List.foldl_append]
    exact inStep_step ih e

end Settings

section Session

variable {qt : Qt} {platform : Platform} {s₀ : Sites.State}

def RoutingCall.revision (qt : Qt) (c : RoutingCall) : String := routingRevision qt c.routing

def Revised (qt : Qt) (calls : List RoutingCall) : Prop :=
  ∀ c ∈ calls, ∀ c' ∈ calls, c.cacheKey = c'.cacheKey → c.revision qt = c'.revision qt →
    c.routing.value "rules" = c'.routing.value "rules"

theorem acceptable_congr {routing routing' : JsonObject} (h : routing.value "rules" = routing'.value "rules")
    (ha : Acceptable qt routing) : Acceptable qt routing' := by
  have hrules : policyRules routing = policyRules routing' := congrArg Json.toArray h
  exact ⟨h ▸ ha.array, hrules ▸ ha.supported, hrules ▸ ha.uniform⟩

theorem applied_congr {routing routing' : JsonObject} (h : routing.value "rules" = routing'.value "rules")
    {s : Settings} (ha : Applied qt routing s) : Applied qt routing' s := by
  have hrules : policyRules routing = policyRules routing' := congrArg Json.toArray h
  exact ⟨hrules ▸ ha.off, hrules ▸ ha.direct, hrules ▸ ha.vpn⟩

/-- What holds between the calls: the policy that was applied last, if any, is one of the calls', and the settings are
as it wants them. -/
structure Current (qt : Qt) (calls : List RoutingCall) (w : World Sites.State) : Prop where
  inStep : InStep w.store.routing
  last : w.controller.lastAppliedRoutingRevision = "" ∨
    ∃ c ∈ calls, w.controller.lastAppliedRoutingCacheKey = c.cacheKey ∧
      w.controller.lastAppliedRoutingRevision = c.revision qt ∧ Acceptable qt c.routing ∧
      Applied qt c.routing w.store.routing.settings

theorem revision_ne_empty (hqt : ∀ routing, qt.digest routing ≠ "") (routing : JsonObject) :
    routingRevision qt routing ≠ "" := by
  simp only [routingRevision]
  split
  case isTrue h => exact h
  case isFalse => exact hqt _

/-- The settings and the policy that was applied last. -/
def World.inForce (w : World Sites.State) : Sites.State × String × String :=
  (w.store.routing, w.controller.lastAppliedRoutingCacheKey, w.controller.lastAppliedRoutingRevision)

/-- A call is refused with the settings as they were, finds its policy applied already, or writes it. -/
inductive RoutingCall.Ends (qt : Qt) (c : RoutingCall) (w : World Sites.State) : Bool × World Sites.State → Prop
  | refused {w' : World Sites.State} (h : w'.inForce = w.inForce) : Ends qt c w (false, w')
  | applied (hkey : c.cacheKey = w.controller.lastAppliedRoutingCacheKey)
      (hrevision : c.revision qt = w.controller.lastAppliedRoutingRevision) : Ends qt c w (true, w)
  | written {w' : World Sites.State} (ha : Acceptable qt c.routing)
      (h : w'.inForce = (writeRouting ((policyRules c.routing).map (ruleSite qt)) w.store.routing, c.cacheKey,
        c.revision qt)) : Ends qt c w (true, w')

theorem RoutingCall.run_ends (w : World Sites.State) (c : RoutingCall) : c.Ends qt w (c.run qt platform w) := by
  have hfailed (message : String) : (if c.reportError then fail message w else w).inForce = w.inForce := by
    split <;> rfl
  cases hrules : hasRules c.routing with
  | false =>
    rw [RoutingCall.run, applyRouting, hrules]
    exact .refused (hfailed _)
  | true =>
    cases happlied : alreadyApplied qt c.cacheKey c.routing w.controller with
    | true =>
      rw [RoutingCall.run, applyRouting, hrules, happlied]
      simp only [alreadyApplied, Bool.and_eq_true, decide_eq_true_eq] at happlied
      exact .applied happlied.1 happlied.2
    | false =>
      cases hpolicy : readPolicy qt c.routing with
      | error message =>
        have hcallback : (routingApp qt platform).applyRouting c.routing w.store.routing =
            (some message, w.store.routing) := by
          simp only [routingApp, coreApp, hpolicy]
        rw [RoutingCall.run, applyRouting, hrules, happlied, hcallback]
        exact .refused (hfailed _)
      | ok sites =>
        obtain ⟨hacceptable, rfl⟩ := (readPolicy_eq_ok_iff qt).mp hpolicy
        have hcallback : (routingApp qt platform).applyRouting c.routing w.store.routing =
            (none, writeRouting ((policyRules c.routing).map (ruleSite qt)) w.store.routing) := by
          simp only [routingApp, coreApp, hpolicy]
        rw [RoutingCall.run, applyRouting, hrules, happlied, hcallback]
        exact .written hacceptable rfl

variable {calls : List RoutingCall}

theorem Current.congr {w w' : World Sites.State} (h : Current qt calls w) (hw : w'.inForce = w.inForce) :
    Current qt calls w' := by
  simp only [World.inForce, Prod.mk.injEq] at hw
  obtain ⟨hs, hkey, hrevision⟩ := hw
  refine ⟨hs ▸ h.inStep, ?_⟩
  rw [hs, hkey, hrevision]
  exact h.last

theorem Current.mono {w : World Sites.State} (h : Current qt calls w) (c : RoutingCall) :
    Current qt (calls ++ [c]) w := by
  refine ⟨h.inStep, h.last.imp_right ?_⟩
  rintro ⟨c₀, hmem, hlast⟩
  exact ⟨c₀, List.mem_append_left _ hmem, hlast⟩

theorem Current.call (hqt : ∀ routing, qt.digest routing ≠ "") {w : World Sites.State}
    (h : Current qt calls w) (c : RoutingCall) (hrevised : Revised qt (calls ++ [c])) :
    Current qt (calls ++ [c]) (c.run qt platform w).2 ∧
      ((c.run qt platform w).1 = false → (c.run qt platform w).2.store.routing = w.store.routing) ∧
      ((c.run qt platform w).1 = true → Acceptable qt c.routing ∧
        Applied qt c.routing (c.run qt platform w).2.store.routing.settings) := by
  have hends : c.Ends qt w (c.run qt platform w) := c.run_ends w
  generalize c.run qt platform w = r at hends ⊢
  cases hends with
  | refused hw => exact ⟨(h.congr hw).mono c, fun _ => congrArg Prod.fst hw, nofun⟩
  | applied hkey hrevision =>
    -- the last applied policy has the call's key and revision, and so its rules
    refine ⟨h.mono c, nofun, fun _ => ?_⟩
    rcases h.last with hempty | ⟨c₀, hmem, hkey₀, hrevision₀, hacceptable, happlied⟩
    · exact (revision_ne_empty hqt c.routing (hrevision.trans hempty)).elim
    · have hrules := hrevised c₀ (List.mem_append_left _ hmem) c (by simp) (hkey₀.symm.trans hkey.symm)
        (hrevision₀.symm.trans hrevision.symm)
      exact ⟨acceptable_congr hrules hacceptable, applied_congr hrules happlied⟩
  | written hacceptable hw =>
    obtain ⟨hstep, happlied⟩ := writeRouting_spec h.inStep hacceptable
    simp only [World.inForce, Prod.mk.injEq] at hw
    obtain ⟨hs, hkey, hrevision⟩ := hw
    rw [← hs] at hstep happlied
    exact ⟨⟨hstep, .inr ⟨c, by simp, hkey, hrevision, hacceptable, happlied⟩⟩, nofun, fun _ => ⟨hacceptable, happlied⟩⟩

theorem RoutingSession.current (hqt : ∀ routing, qt.digest routing ≠ "") (hs₀ : InStep s₀)
    {w : World Sites.State} (h : RoutingSession qt platform s₀ calls w) (hrevised : Revised qt calls) :
    Current qt calls w := by
  induction h with
  | start hs _ hrevision => exact ⟨hs ▸ hs₀, .inl hrevision⟩
  | other _ hs hkey hrevision ih => exact (ih hrevised).congr (by simp only [World.inForce, hs, hkey, hrevision])
  | call _ c ih =>
    have hbefore := ih fun a ha b hb => hrevised a (List.mem_append_left _ ha) b (List.mem_append_left _ hb)
    exact (hbefore.call hqt c hrevised).1

/-- A policy that is refused changes nothing, and one that is accepted is in force: it has supported rules of one route
only, and split tunneling is off without rules and sends exactly their values past or through the tunnel otherwise. -/
theorem routing_policy_in_force (hqt : ∀ routing, qt.digest routing ≠ "") {settings : Settings}
    (hsettings : settings.AllOrdered) (events : List Sites.Event) {calls : List RoutingCall} {w : World Sites.State}
    (h : RoutingSession qt platform (Sites.run settings events) calls w) (c : RoutingCall)
    (hrevised : Revised qt (calls ++ [c])) :
    ((c.run qt platform w).1 = false → (c.run qt platform w).2.store.routing = w.store.routing) ∧
      ((c.run qt platform w).1 = true → Acceptable qt c.routing ∧
        Applied qt c.routing (c.run qt platform w).2.store.routing.settings) := by
  have hbefore := h.current hqt (inStep_run hsettings events) fun a ha b hb =>
    hrevised a (List.mem_append_left _ ha) b (List.mem_append_left _ hb)
  exact (hbefore.call hqt c hrevised).2

end Session

section Samples

def digestQt : Qt := { plainQt with digest := fun _ => "digest" }

def freshSettings : Settings := ⟨false, .vpnAllSites, .vpnAllSites, fun _ => [], fun _ => []⟩

def routingWorld : World Sites.State where
  controller := {}
  store := ⟨none, "", fun _ => [], "", Sites.run freshSettings []⟩

def ruleCall (route value : String) : RoutingCall where
  cacheKey := "default:linux"
  routing := [("version", .string value), ("rules", .array
    [.object [("type", .string "ip"), ("value", .string value), ("route", .string route)]])]
  reportError := true

/-- A policy of the one route replaces one of the other. -/
theorem routing_policy_replaced :
    ((ruleCall "vpn" "10.1.0.0/16").run digestQt .linux
        ((ruleCall "direct" "10.0.0.0/8").run digestQt .linux routingWorld).2).1 = true ∧
      Applied digestQt (ruleCall "vpn" "10.1.0.0/16").routing
        ((ruleCall "vpn" "10.1.0.0/16").run digestQt .linux
          ((ruleCall "direct" "10.0.0.0/8").run digestQt .linux routingWorld).2).2.store.routing.settings := by
  have hok : ((ruleCall "vpn" "10.1.0.0/16").run digestQt .linux
      ((ruleCall "direct" "10.0.0.0/8").run digestQt .linux routingWorld).2).1 = true := by decide +kernel
  have hsession : RoutingSession digestQt .linux routingWorld.store.routing [ruleCall "direct" "10.0.0.0/8"]
      ((ruleCall "direct" "10.0.0.0/8").run digestQt .linux routingWorld).2 := .call (.start rfl rfl rfl) _
  have hrevised : Revised digestQt [ruleCall "direct" "10.0.0.0/8", ruleCall "vpn" "10.1.0.0/16"] := by
    intro c hc c' hc' _ hrevision
    rcases List.mem_pair.mp hc with rfl | rfl <;> rcases List.mem_pair.mp hc' with rfl | rfl
    · rfl
    · exact absurd hrevision (by decide)
    · exact absurd hrevision (by decide)
    · rfl
  have hdigest (routing : JsonObject) : digestQt.digest routing ≠ "" := by simp [digestQt]
  have hordered : freshSettings.AllOrdered := fun _ => .nil
  exact ⟨hok, ((routing_policy_in_force hdigest hordered [] hsession _ hrevised).2 hok).2⟩

end Samples

end TunnelCore.Account
