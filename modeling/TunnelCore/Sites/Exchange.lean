import TunnelCore.Account.RoutingSettings
import TunnelCore.Library.Scan

namespace TunnelCore.Sites

open Connection KillSwitch Text

section Model

/-- One site of an exported list; the first address stands in it a second time, under the name older versions read. -/
def siteJson (site : String × List String) : Json :=
  .object [("hostname", .string site.1), ("ips", .array (site.2.map .string)), ("ip", .string (site.2.headD ""))]

def exportSitesToJson (s : State) : Json := .array (s.sites.map siteJson)

def importedIps (jsonObject : JsonObject) : List String :=
  let ips := (jsonObject.value "ips").toArray.map Json.toString
  let singleIp := (jsonObject.value "ip").toString
  Settings.siteIpList (if singleIp ≠ "" then ips ++ [singleIp] else ips)

def takeSite (sites : List (String × List String)) (jsonValue : Json) : List (String × List String) :=
  let hostname := normalizeHostname (jsonValue.toObject.value "hostname").toString
  if validateHostname hostname then Settings.insertSite hostname (importedIps jsonValue.toObject) sites else sites

theorem ordered_takeSite {sites : List (String × List String)} (h : Settings.Ordered sites) (jsonValue : Json) :
    Settings.Ordered (takeSite sites jsonValue) := by
  rw [takeSite]
  split
  · exact h.insertSite ..
  · exact h

def importedSites (jsonArray : List Json) : SiteMap where
  entries := jsonArray.foldl takeSite []
  ordered := List.foldlRecOn jsonArray takeSite .nil fun _ h jsonValue _ => ordered_takeSite h jsonValue

/-- The data is a JSON document, or what the parser says of it; a failed import leaves a message. -/
def importSitesFromJson (jsonData : Except String Json) (replaceExisting : Bool) (s : State) : Except String State :=
  match jsonData with
  | .error parseError => .error ("Failed to parse JSON data: " ++ parseError)
  | .ok (.array jsonArray) => .ok (s.addSites (importedSites jsonArray) replaceExisting)
  | .ok _ => .error "The JSON data is not an array"

/-- What changes the list of sites: the calls of the controller, imports and policies of the server. -/
inductive Input
  | call (e : Event)
  | importSites (jsonData : Except String Json) (replaceExisting : Bool)
  | policy (routing : JsonObject)

variable (qt : Account.Qt)

def applyPolicy (routing : JsonObject) (s : State) : State :=
  match Account.readPolicy qt routing with
  | .error _ => s
  | .ok rules => Account.writeRouting rules s

def receive (s : State) : Input → State
  | .call e => step s e
  | .importSites jsonData replaceExisting =>
    match importSitesFromJson jsonData replaceExisting s with
    | .error _ => s
    | .ok s' => s'
  | .policy routing => applyPolicy qt routing s

def receiveAll (settings : Settings) (inputs : List Input) : State := inputs.foldl (receive qt) (.start settings)

end Model

structure Plain (host : String) : Prop where
  normal : normalizeHostname host = host
  valid : validateHostname host = true

instance (host : String) : Decidable (Plain host) :=
  decidable_of_iff (normalizeHostname host = host ∧ validateHostname host = true)
    ⟨fun h => ⟨h.1, h.2⟩, fun h => ⟨h.normal, h.valid⟩⟩

structure Importable (site : String × List String) : Prop where
  host : Plain site.1
  ips : Settings.Clean site.2

section Hostname

variable {c : Char}

theorem without_of_not_mem {part text : String} (hc : c ∈ part.toList) (h : c ∉ text.toList) :
    without part text = text := by
  have hne : part.toList ≠ [] := List.ne_nil_of_mem hc
  obtain hself | ⟨hoccurs, -⟩ := replaceAll_eq_self_or id [] hne text.toList
  · rw [without, hself, String.ofList_toList]
  · rw [List.map_id, List.map_id] at hoccurs
    exact absurd (hoccurs.subset hc) h

theorem not_mem_isNumeral {bound : Nat} {cs : List Char} (h : isNumeral bound cs) (hc : c.isDigit = false) :
    c ∉ cs := by
  obtain ⟨n, -, hn⟩ := List.any_eq_true.mp h
  have hcs : cs = Nat.toDigits 10 n := by
    rw [← of_decide_eq_true hn]
    exact String.toList_ofList
  rw [hcs]
  intro hmem
  have hdigit := Nat.isDigit_of_mem_toDigits (by decide) (by decide) hmem
  rw [hc] at hdigit
  cases hdigit

theorem not_mem_isQuad {cs : List Char} (h : isQuad cs) (hdot : c ≠ '.') (hc : c.isDigit = false) :
    c ∉ cs := by
  intro hmem
  have hall := List.all_eq_true.mp (Bool.and_eq_true_iff.mp h).2
  obtain ⟨part, hpart, hwithin⟩ := Scan.exists_part_of_mem hdot hmem
  exact not_mem_isNumeral (hall part hpart) hc hwithin

theorem not_mem_ipAddressWithSubnet {text : String} (h : ipAddressWithSubnet text) : ':' ∉ text.toList := by
  intro hmem
  obtain ⟨part, hpart, hcolon⟩ := Scan.exists_part_of_mem (show ':' ≠ '/' by decide) hmem
  rw [ipAddressWithSubnet] at h
  split at h
  next address hsplit =>
    rw [hsplit, List.mem_singleton] at hpart
    exact not_mem_isQuad (hpart ▸ h) (by decide) (by decide) hcolon
  next address length hsplit =>
    obtain ⟨haddress, hlength⟩ := Bool.and_eq_true_iff.mp h
    rw [hsplit] at hpart
    obtain rfl | rfl := List.mem_pair.mp hpart
    · exact not_mem_isQuad haddress (by decide) (by decide) hcolon
    · exact not_mem_isNumeral hlength (by decide) hcolon
  · cases h

theorem not_mem_firstSection (sep : Char) (cs : List Char) : sep ∉ firstSection sep cs := by
  rw [firstSection]
  cases hfound : (cs.splitOn sep).find? (· ≠ []) with
  | none => exact List.not_mem_nil
  | some part => exact Scan.not_mem_of_mem_splitOn (List.mem_of_find?_eq_some hfound)

theorem normalizeHostname_of_not_mem {host : String} (hc : c = ':' ∨ c = '/') (h : c ∉ host.toList) :
    normalizeHostname host = if ipAddressWithSubnet host then host else .ofList (firstSection '/' host.toList) := by
  have hscheme (part : String) (hcolon : ':' ∈ part.toList) (hslash : '/' ∈ part.toList) : without part host = host := by
    obtain rfl | rfl := hc
    · exact without_of_not_mem hcolon h
    · exact without_of_not_mem hslash h
  rw [normalizeHostname, hscheme "https://" (by decide) (by decide), hscheme "http://" (by decide) (by decide),
    hscheme "ftp://" (by decide) (by decide)]

theorem normalizeHostname_idem (host : String) : normalizeHostname (normalizeHostname host) = normalizeHostname host := by
  obtain ⟨text, htext⟩ : ∃ text, normalizeHostname host =
      if ipAddressWithSubnet text then text else .ofList (firstSection '/' text.toList) :=
    ⟨without "ftp://" (without "http://" (without "https://" host)), rfl⟩
  rw [htext]
  split
  next hip => rw [normalizeHostname_of_not_mem (.inl rfl) (not_mem_ipAddressWithSubnet hip), if_pos hip]
  · have hslash : '/' ∉ (String.ofList (firstSection '/' text.toList)).toList := by
      rw [String.toList_ofList]
      exact not_mem_firstSection '/' text.toList
    rw [normalizeHostname_of_not_mem (.inr rfl) hslash, firstSection_of_not_mem hslash, String.ofList_toList, ite_self]

theorem plain_normalizeHostname {host : String} (h : validateHostname (normalizeHostname host) = true) :
    Plain (normalizeHostname host) := ⟨normalizeHostname_idem host, h⟩

end Hostname

section RoundTrip

variable {qt : Account.Qt} {s : State}

theorem importedIps_siteJson (site : String × List String) :
    importedIps (siteJson site).toObject = Settings.siteIpList site.2 := by
  obtain ⟨host, ips⟩ := site
  have htexts : (ips.map Json.string).map Json.toString = ips := by
    rw [List.map_map]
    exact List.map_id ips
  simp only [importedIps, siteJson, Json.toObject, JsonObject.value, List.lookup_cons, String.reduceBEq, Option.getD_some,
    Json.toArray, Json.toString, htexts]
  split
  next hfirst =>
    -- the first address is among those of the list already
    cases ips with
    | nil => exact absurd rfl hfirst
    | cons ip ips =>
      have hne : ip ≠ "" := hfirst
      rw [List.headD_cons, Settings.siteIpList, Settings.siteIpList, List.filter_append, List.eraseDups_append]
      simp [hne, List.removeAll]
  · rfl

theorem read_takeSite (sites : List (String × List String)) (site : String × List String) :
    Assoc.read (takeSite sites (siteJson site)) =
      if validateHostname (normalizeHostname site.1) then
        Function.update (Assoc.read sites) (normalizeHostname site.1) (some (Settings.siteIpList site.2))
      else Assoc.read sites := by
  have hhost : ((siteJson site).toObject.value "hostname").toString = site.1 := by
    simp [siteJson, Json.toObject, JsonObject.value, Json.toString]
  rw [takeSite, hhost, importedIps_siteJson]
  split
  · exact Settings.read_insertSite ..
  · rfl

theorem mem_takeSite {sites : List (String × List String)} {jsonValue : Json} {site : String × List String}
    (h : site ∈ takeSite sites jsonValue) : Importable site ∨ site ∈ sites := by
  have hclean : Settings.Clean (importedIps jsonValue.toObject) := Settings.clean_siteIpList _
  rw [takeSite] at h
  generalize (jsonValue.toObject.value "hostname").toString = hostname at h
  generalize importedIps jsonValue.toObject = ips at h hclean
  split at h
  next hvalid =>
    obtain hnew | hold := Settings.mem_insertSite h
    · have hplain := plain_normalizeHostname hvalid
      generalize normalizeHostname hostname = host at hnew hplain
      rw [hnew]
      exact .inl ⟨hplain, hclean⟩
    · exact .inr hold
  · exact .inr h

theorem importable_of_mem_importedSites (jsonArray : List Json) :
    ∀ site ∈ (importedSites jsonArray).entries, Importable site := by
  change ∀ site ∈ jsonArray.foldl takeSite [], Importable site
  induction jsonArray using List.reverseRecOn with
  | nil => exact fun _ hsite => absurd hsite List.not_mem_nil
  | append_singleton jsonArray jsonValue ih =>
    intro site hsite
    rw [List.foldl_append, List.foldl_cons, List.foldl_nil] at hsite
    obtain himportable | hold := mem_takeSite hsite
    · exact himportable
    · exact ih site hold

theorem read_importedSites (hdistinct : (Assoc.keys s.sites).Nodup) (h : ∀ site ∈ s.sites, Plain site.1) (host : String) :
    Assoc.read (importedSites (s.sites.map siteJson)).entries host =
      (Assoc.read s.sites host).map Settings.siteIpList := by
  have hfold (sites : List (String × List String)) (acc : List (String × List String))
      (hplain : ∀ site ∈ sites, Plain site.1) :
      Assoc.read ((sites.map siteJson).foldl takeSite acc) =
        sites.foldl (fun (m : String → Option (List String)) site =>
          Function.update m site.1 (some (Settings.siteIpList site.2))) (Assoc.read acc) := by
    induction sites generalizing acc with
    | nil => rfl
    | cons site sites ih =>
      have hsite := hplain site (.head _)
      rw [List.map_cons, List.foldl_cons, List.foldl_cons, ih _ fun other hother => hplain other (.tail _ hother),
        read_takeSite, hsite.normal, if_pos hsite.valid]
  have hread := Assoc.foldl_update_apply (fun _ ips => some (Settings.siteIpList ips)) hdistinct (fun _ => none) host
  rw [importedSites, hfold s.sites [] h, Assoc.read_nil, hread]
  cases Assoc.read s.sites host <;> rfl

theorem read_reimported (s : State) (host : String) :
    Assoc.read (s.addSites (importedSites (s.sites.map siteJson)) true).sites host =
      (Assoc.read (importedSites (s.sites.map siteJson)).entries host).map Settings.siteIpList :=
  congrFun (Assoc.read_map _ _) host

theorem reimported_iff (hdistinct : (Assoc.keys s.sites).Nodup) :
    Assoc.read (s.addSites (importedSites (s.sites.map siteJson)) true).sites = Assoc.read s.sites ↔
      ∀ site ∈ s.sites, Importable site := by
  have hplainRead (hplain : ∀ site ∈ s.sites, Plain site.1) (host : String) :
      Assoc.read (s.addSites (importedSites (s.sites.map siteJson)) true).sites host =
        (Assoc.read s.sites host).map Settings.siteIpList := by
    rw [read_reimported, read_importedSites hdistinct hplain, Option.map_map]
    exact congrArg (fun f => (Assoc.read s.sites host).map f) (funext fun ips => Settings.clean_siteIpList ips)
  constructor
  · intro hsame
    have hplain : ∀ site ∈ s.sites, Plain site.1 := by
      intro site hsite
      have hhost := congrFun hsame site.1
      rw [read_reimported, Assoc.read_of_mem hdistinct hsite, Option.map_eq_some_iff] at hhost
      obtain ⟨ips, hips, -⟩ := hhost
      exact (importable_of_mem_importedSites _ _ (Assoc.mem_of_read hips)).host
    intro site hsite
    have hhost := hplainRead hplain site.1
    rw [hsame, Assoc.read_of_mem hdistinct hsite, Option.map_some] at hhost
    exact ⟨hplain site hsite, (Option.some.inj hhost).symm⟩
  · intro himportable
    funext host
    rw [hplainRead fun site hsite => (himportable site hsite).host]
    cases hread : Assoc.read s.sites host with
    | none => rfl
    | some ips =>
      have hclean : Settings.siteIpList ips = ips := (himportable _ (Assoc.mem_of_read hread)).ips
      rw [Option.map_some, hclean]

end RoundTrip

section Policies

variable {P : State → Prop}

theorem applySites_keeps {s : State} (h : P s) (mode : RouteMode) {sites : SiteMap}
    (hmode : ∀ s, P s → P (s.setRouteMode mode)) (hsites : ∀ s, P s → P (s.addSites sites true))
    (htoggle : ∀ s, P s → P (s.toggleSplitTunneling true)) : P (Account.applySites mode sites s) := by
  simp only [Account.applySites]
  split
  · exact h
  · have hset : P (if decide (s.currentRouteMode = mode) = true then s else s.setRouteMode mode) := by
      split
      · exact h
      · exact hmode s h
    generalize (if decide (s.currentRouteMode = mode) = true then s else s.setRouteMode mode) = s₁ at hset
    have hadded : P (if Account.sameSites (s.settings.vpnSites mode) sites = true then s₁
        else s₁.addSites sites true) := by
      split
      · exact hset
      · exact hsites s₁ hset
    split
    · exact hadded
    · exact htoggle _ hadded

theorem writeRouting_keeps {s : State} (h : P s) (rules : List (Bool × String))
    (hmode : ∀ s mode, P s → P (s.setRouteMode mode))
    (hsites : ∀ s values, values ⊆ rules.map Prod.snd → P s → P (s.addSites (Account.ruleSites values) true))
    (htoggle : ∀ s enabled, P s → P (s.toggleSplitTunneling enabled)) : P (Account.writeRouting rules s) := by
  have hvalues (p : Bool × String → Bool) : (rules.filter p).map Prod.snd ⊆ rules.map Prod.snd :=
    List.map_subset _ (List.filter_subset_self ..)
  simp only [Account.writeRouting]
  split
  · split
    · exact htoggle s false h
    · exact h
  · split
    · exact applySites_keeps h _ (fun s => hmode s _) (fun s => hsites s _ (hvalues _)) fun s => htoggle s true
    · exact applySites_keeps h _ (fun s => hmode s _) (fun s => hsites s _ (hvalues _)) fun s => htoggle s true

end Policies

section Runs

variable {qt : Account.Qt} {s : State}

theorem WellFormed.receive (h : WellFormed s) (input : Input) : WellFormed (receive qt s input) := by
  cases input with
  | call e => exact h.step e
  | importSites jsonData replaceExisting =>
    rw [Sites.receive]
    match jsonData with
    | .ok (.array jsonArray) => exact h.step (.addSites (importedSites jsonArray) replaceExisting)
    | .error _ | .ok .null | .ok (.bool _) | .ok (.number _) | .ok (.string _) | .ok (.object _) => exact h
  | policy routing =>
    rw [Sites.receive, applyPolicy]
    split
    · exact h
    next rules _ =>
      exact writeRouting_keeps h rules (fun s mode hs => hs.step (.setRouteMode mode))
        (fun s values _ hs => hs.step (.addSites (Account.ruleSites values) true))
        fun _ _ hs => ⟨hs.distinct, hs.ordered⟩

theorem wellFormed_receiveAll (qt : Account.Qt) {settings : Settings} (h : settings.AllOrdered) (inputs : List Input) :
    WellFormed (receiveAll qt settings inputs) := by
  rw [receiveAll]
  induction inputs using List.reverseRecOn with
  | nil => exact .start h
  | append_singleton inputs input ih =>
    rw [List.foldl_append]
    exact ih.receive input

def StoredPlain (settings : Settings) : Prop := ∀ key, ∀ site ∈ settings.storedSites key, Plain site.1

/-- The list, what can become the list, and what is on its way into it would all survive an import. -/
structure Exportable (s : State) : Prop where
  memory : ∀ site ∈ s.sites, Importable site
  stored : StoredPlain s.settings
  lookups : ∀ host ∈ s.lookups, Plain host

/-- What puts sites into the list without a check comes with sites that an import would not change. -/
def Careful (qt : Account.Qt) (s : State) : Input → Prop
  | .call (.addSites new replaceExisting) =>
    (∀ site ∈ new.entries, Plain site.1) ∧
      (replaceExisting = false → ∀ site ∈ new.entries, Assoc.read s.sites site.1 = none → Settings.Clean site.2)
  | .policy routing => ∀ rules, Account.readPolicy qt routing = .ok rules → ∀ value ∈ rules.map Prod.snd, Plain value
  | _ => True

variable {settings : Settings}

variable {sites : List (String × List String)}

theorem StoredPlain.setVpnSites (h : StoredPlain settings) (mode : RouteMode)
    (hsites : ∀ site ∈ sites, Plain site.1) : StoredPlain (settings.setVpnSites mode sites) := by
  intro key site hsite
  change site ∈ Function.update settings.storedSites (Settings.sitesKey mode) sites key at hsite
  rw [Function.update_apply] at hsite
  split at hsite
  · exact hsites site hsite
  · exact h key site hsite

theorem forall_mem_insertSite (h : ∀ site ∈ sites, Plain site.1) {host : String}
    (hhost : Plain host) (ips : List String) : ∀ site ∈ Settings.insertSite host ips sites, Plain site.1 := by
  intro site hsite
  obtain rfl | hold := Settings.mem_insertSite hsite
  · exact hhost
  · exact h site hold

theorem StoredPlain.addVpnSite (h : StoredPlain settings) (mode : RouteMode) {host : String} (hhost : Plain host)
    (ips : List String) : StoredPlain (settings.addVpnSite mode host ips) := by
  simp only [Settings.addVpnSite]
  split
  · exact h
  · exact h.setVpnSites mode (forall_mem_insertSite (h (Settings.sitesKey mode)) hhost _)

theorem StoredPlain.addVpnSites (h : StoredPlain settings) (mode : RouteMode)
    (hsites : ∀ site ∈ sites, Plain site.1) : StoredPlain (settings.addVpnSites mode sites) := by
  refine h.setVpnSites mode ?_
  have hall : ∀ site ∈ settings.vpnSites mode, Plain site.1 := h (Settings.sitesKey mode)
  generalize settings.vpnSites mode = all at hall
  induction sites generalizing all with
  | nil => exact hall
  | cons site sites ih =>
    obtain ⟨hsite, hrest⟩ := List.forall_mem_cons.mp hsites
    exact ih hrest _ (forall_mem_insertSite hall hsite _)

theorem StoredPlain.replaceVpnSites (h : StoredPlain settings) (mode : RouteMode)
    (hsites : ∀ site ∈ sites, Plain site.1) : StoredPlain (settings.replaceVpnSites mode sites) := by
  simp only [Settings.replaceVpnSites]
  split
  · exact h
  · refine h.setVpnSites mode fun site hsite => ?_
    obtain ⟨old, hold, rfl⟩ := List.mem_map.mp hsite
    exact hsites old hold

theorem StoredPlain.removeVpnSite (h : StoredPlain settings) (mode : RouteMode) (host : String) :
    StoredPlain (settings.removeVpnSite mode host) := by
  rw [Settings.removeVpnSite]
  split
  · exact h
  · exact h.setVpnSites mode fun site hsite => h (Settings.sitesKey mode) site (List.mem_filter.mp hsite).1

theorem importable_fillSites (h : StoredPlain s.settings) : ∀ site ∈ s.fillSites.sites, Importable site := by
  intro site hsite
  obtain ⟨old, hold, rfl⟩ := List.mem_map.mp hsite
  exact ⟨h _ old hold, Settings.clean_siteIpList old.2⟩

theorem importable_adjust (h : ∀ site ∈ sites, Importable site) (host : String)
    (ips : List String) : ∀ site ∈ Assoc.adjust host (appendRanges · ips) sites, Importable site :=
  Assoc.forall_mem_adjust (fun _ _ hsite => ⟨hsite.host, hsite.ips.appendRanges ips⟩) h

theorem importable_mergeSites {new sites : List (String × List String)} (h : ∀ site ∈ sites, Importable site)
    (hplain : ∀ site ∈ new, Plain site.1)
    (hclean : ∀ site ∈ new, Assoc.read sites site.1 = none → Settings.Clean site.2) :
    ∀ site ∈ State.mergeSites new sites, Importable site := by
  induction new generalizing sites with
  | nil => exact h
  | cons site new ih =>
    obtain ⟨hsite, hrest⟩ := List.forall_mem_cons.mp hplain
    rw [State.mergeSites, List.foldl_cons, ← State.mergeSites]
    split
    · refine ih (importable_adjust h site.1 site.2) hrest fun other hother hnone => ?_
      rw [Assoc.read_eq_none_iff, Assoc.keys_adjust, ← Assoc.read_eq_none_iff] at hnone
      exact hclean other (.tail _ hother) hnone
    next habsent =>
      have hnew : Assoc.read sites site.1 = none := Option.not_isSome_iff_eq_none.mp habsent
      refine ih (fun other hother => ?_) hrest fun other hother hnone => ?_
      · obtain hold | hlast := List.mem_append.mp hother
        · exact h other hold
        · rw [List.mem_singleton.mp hlast]
          exact ⟨hsite, hclean site (.head _) hnew⟩
      · rw [Assoc.read_eq_none_iff, Assoc.keys, List.map_append, List.mem_append, not_or] at hnone
        exact hclean other (.tail _ hother) (Assoc.read_eq_none_iff.mpr hnone.1)

theorem Exportable.addSites (h : Exportable s) {new : SiteMap} (replaceExisting : Bool)
    (hplain : ∀ site ∈ new.entries, Plain site.1)
    (hclean : replaceExisting = false → ∀ site ∈ new.entries, Assoc.read s.sites site.1 = none → Settings.Clean site.2) :
    Exportable (s.addSites new replaceExisting) := by
  cases replaceExisting with
  | true =>
    refine ⟨fun site hsite => ?_, h.stored.replaceVpnSites _ hplain, h.lookups⟩
    obtain ⟨old, hold, rfl⟩ := List.mem_map.mp hsite
    exact ⟨hplain old hold, Settings.clean_siteIpList old.2⟩
  | false => exact ⟨importable_mergeSites h.memory hplain (hclean rfl), h.stored.addVpnSites _ hplain, h.lookups⟩

theorem Exportable.setRouteMode (h : Exportable s) (routeMode : RouteMode) : Exportable (s.setRouteMode routeMode) := by
  have hfilled := @importable_fillSites { s with currentRouteMode := routeMode } h.stored
  exact ⟨hfilled, h.stored, h.lookups⟩

theorem Exportable.toggle (h : Exportable s) (enabled : Bool) : Exportable (s.toggleSplitTunneling enabled) :=
  ⟨h.memory, h.stored, h.lookups⟩

theorem addSite_of_not_valid {hostname : String} (h : ¬validateHostname (normalizeHostname hostname) = true) :
    (s.addSite hostname).2 = s := by
  simp [State.addSite, h]

theorem lookups_addSite (hostname : String) (s : State) :
    (s.addSite hostname).2.lookups ⊆ s.lookups ++ [normalizeHostname hostname] := by
  have hinternal : (State.addSiteInternal (normalizeHostname hostname) [] s).2.lookups = s.lookups := by
    rcases addSiteInternal_cases (normalizeHostname hostname) s with h | ⟨-, h⟩ <;> rw [h]
  have hold : s.lookups ⊆ s.lookups ++ [normalizeHostname hostname] := List.subset_append_left ..
  simp only [State.addSite]
  generalize normalizeHostname hostname = host at hinternal hold
  split
  · exact hold
  · split
    · rw [hinternal]
      exact hold
    · split
      next heq =>
        rw [heq] at hinternal
        exact hinternal ▸ List.Subset.refl _
      next heq =>
        rw [heq] at hinternal
        exact hinternal ▸ hold

theorem Exportable.addSite (h : Exportable s) (hostname : String) : Exportable (s.addSite hostname).2 := by
  by_cases hvalid : validateHostname (normalizeHostname hostname) = true
  · have hplain := plain_normalizeHostname hvalid
    have hlookups : ∀ host ∈ (s.addSite hostname).2.lookups, Plain host := by
      intro host hhost
      obtain hold | hlast := List.mem_append.mp (lookups_addSite hostname s hhost)
      · exact h.lookups host hold
      · rw [List.mem_singleton.mp hlast]
        exact hplain
    rcases addSite_cases hostname s with ⟨hsites, hsettings⟩ | ⟨-, hsites, hsettings⟩
    · refine ⟨?_, ?_, hlookups⟩
      · rw [hsites]
        exact h.memory
      · rw [hsettings]
        exact h.stored
    · refine ⟨?_, ?_, hlookups⟩
      · rw [hsites]
        generalize normalizeHostname hostname = host at hplain
        intro site hsite
        obtain hold | hlast := List.mem_append.mp hsite
        · exact h.memory site hold
        · rw [List.mem_singleton.mp hlast]
          exact ⟨hplain, rfl⟩
      · rw [hsettings]
        exact h.stored.addVpnSite _ hplain []
  · rw [addSite_of_not_valid hvalid]
    exact h

theorem Exportable.removeSite (h : Exportable s) (hostname : String) : Exportable (s.removeSite hostname).2 := by
  rw [State.removeSite]
  split
  · refine ⟨fun site hsite => ?_, h.stored.removeVpnSite _ hostname, h.lookups⟩
    exact h.memory site (List.mem_of_mem_eraseP hsite)
  · exact h

theorem Exportable.resolved (h : Exportable s) {hostname : String} (hasked : hostname ∈ s.lookups)
    (addresses : List HostAddress) :
    Exportable (State.onHostResolved hostname addresses { s with lookups := s.lookups.erase hostname }) := by
  have hlookups : ∀ host ∈ s.lookups.erase hostname, Plain host :=
    fun host hhost => h.lookups host (List.mem_of_mem_erase hhost)
  rw [State.onHostResolved]
  split
  · exact ⟨h.memory, h.stored, hlookups⟩
  · exact ⟨importable_adjust h.memory _ _, h.stored.addVpnSite _ (h.lookups hostname hasked) _, hlookups⟩

theorem Exportable.start (h : StoredPlain settings) : Exportable (.start settings) := by
  have hmode : StoredPlain (settings.setRouteMode .vpnOnlyForwardSites) := h
  rw [State.start]
  split
  · exact ⟨importable_fillSites hmode, hmode, fun _ hhost => absurd hhost List.not_mem_nil⟩
  · exact ⟨importable_fillSites h, h, fun _ hhost => absurd hhost List.not_mem_nil⟩

theorem Exportable.call (h : Exportable s) {e : Event} (hcareful : Careful qt s (.call e)) : Exportable (step s e) := by
  cases e with
  | addSite hostname => exact h.addSite hostname
  | addSites new replaceExisting => exact h.addSites replaceExisting hcareful.1 hcareful.2
  | removeSite hostname => exact h.removeSite hostname
  | removeSites => exact ⟨fun _ hsite => absurd hsite List.not_mem_nil, h.stored.setVpnSites _ nofun, h.lookups⟩
  | setRouteMode routeMode => exact h.setRouteMode routeMode
  | resolved hostname addresses =>
    rw [step]
    split
    next hasked => exact h.resolved hasked addresses
    · exact h

theorem Exportable.importSites (h : Exportable s) (jsonData : Except String Json) (replaceExisting : Bool) :
    Exportable (receive qt s (.importSites jsonData replaceExisting)) := by
  rw [receive]
  match jsonData with
  | .ok (.array jsonArray) =>
    have himportable := importable_of_mem_importedSites jsonArray
    exact h.addSites replaceExisting (fun site hsite => (himportable site hsite).host)
      fun _ site hsite _ => (himportable site hsite).ips
  | .error _ | .ok .null | .ok (.bool _) | .ok (.number _) | .ok (.string _) | .ok (.object _) => exact h

theorem Exportable.policy (h : Exportable s) {routing : JsonObject} (hcareful : Careful qt s (.policy routing)) :
    Exportable (receive qt s (.policy routing)) := by
  rw [receive, applyPolicy]
  split
  · exact h
  next rules hrules =>
    refine writeRouting_keeps h rules (fun s mode hs => hs.setRouteMode mode) (fun s values hvalues hs => ?_)
      fun s enabled hs => hs.toggle enabled
    refine hs.addSites true (fun site hsite => ?_) nofun
    have hvalue : site.1 ∈ values := Account.mem_ruleSites_iff.mp (List.mem_map_of_mem hsite)
    exact hcareful rules hrules site.1 (hvalues hvalue)

theorem exportable_receiveAll (h : StoredPlain settings) {inputs : List Input}
    (hcareful : Along (receive qt) (Careful qt) (.start settings) inputs) :
    Exportable (receiveAll qt settings inputs) := by
  refine hcareful.foldl (fun s input hs hinput => ?_) (.start h)
  cases input with
  | call e => exact hs.call hinput
  | importSites jsonData replaceExisting => exact hs.importSites jsonData replaceExisting
  | policy routing => exact hs.policy hinput

end Runs

/-- Importing an exported list with replacement succeeds, and gives the same map of hosts to addresses exactly if every
site of the list has a host that an import would store under its own name and addresses without repetition. So it is in
every state that is reached from plain sites without unchecked ones: calls of `addSite`, imports and lookups check what
they add, `addSites` and the policies of the server do not. -/
theorem import_of_export_iff (qt : Account.Qt) {settings : Settings} (h : settings.AllOrdered) (inputs : List Input) :
    ∃ s, importSitesFromJson (.ok (exportSitesToJson (receiveAll qt settings inputs))) true
        (receiveAll qt settings inputs) = .ok s ∧
      (Assoc.read s.sites = Assoc.read (receiveAll qt settings inputs).sites ↔
        ∀ site ∈ (receiveAll qt settings inputs).sites, Importable site) ∧
      (StoredPlain settings → Along (receive qt) (Careful qt) (.start settings) inputs →
        Assoc.read s.sites = Assoc.read (receiveAll qt settings inputs).sites) := by
  have hiff := reimported_iff (wellFormed_receiveAll qt h inputs).distinct
  exact ⟨_, rfl, hiff, fun hplain hcareful => hiff.mpr (exportable_receiveAll hplain hcareful).memory⟩

section Samples

def domainPolicy (host : String) : Input :=
  .policy [("rules", .array
    [.object [("type", .string "domain"), ("value", .string host), ("route", .string "vpn")]])]

def addThenPolicy : List Input := [.call (.addSite "https://example.com/page"), domainPolicy "example.org"]

theorem addThenPolicy_careful :
    Along (receive Account.plainQt) (Careful Account.plainQt) (.start noSites) addThenPolicy := by
  refine ⟨trivial, fun rules hrules value hvalue => ?_, trivial⟩
  obtain rfl : [(false, "example.org")] = rules := Except.ok.inj hrules
  rw [List.mem_singleton.mp hvalue]
  decide +kernel

theorem import_of_export_added :
    ∃ s, importSitesFromJson (.ok (exportSitesToJson (receiveAll Account.plainQt noSites addThenPolicy))) true
        (receiveAll Account.plainQt noSites addThenPolicy) = .ok s ∧
      Assoc.read s.sites = Assoc.read (receiveAll Account.plainQt noSites addThenPolicy).sites := by
  obtain ⟨s, himport, -, hsame⟩ := import_of_export_iff Account.plainQt noSites_allOrdered addThenPolicy
  exact ⟨s, himport, hsame (fun _ _ hsite => absurd hsite List.not_mem_nil) addThenPolicy_careful⟩

/-- A host without a dot that came with a policy is lost, and one with a path is renamed. -/
theorem import_of_export_loses_policy_host :
    (receiveAll Account.plainQt noSites [domainPolicy "localhost"]).sites = [("localhost", [])] ∧
    (∃ s, importSitesFromJson (.ok (exportSitesToJson (receiveAll Account.plainQt noSites [domainPolicy "localhost"])))
        true (receiveAll Account.plainQt noSites [domainPolicy "localhost"]) = .ok s ∧ s.sites = [] ∧
      Assoc.read s.sites ≠ Assoc.read (receiveAll Account.plainQt noSites [domainPolicy "localhost"]).sites) ∧
    ∃ s, importSitesFromJson (.ok (exportSitesToJson
        (receiveAll Account.plainQt noSites [domainPolicy "example.com/news"]))) true
        (receiveAll Account.plainQt noSites [domainPolicy "example.com/news"]) = .ok s ∧
      s.sites = [("example.com", [])] := by
  have hsites : (receiveAll Account.plainQt noSites [domainPolicy "localhost"]).sites = [("localhost", [])] := by
    decide +kernel
  refine ⟨hsites, ⟨_, rfl, by decide +kernel, fun hsame => ?_⟩, _, rfl, by decide +kernel⟩
  have hhost := congrFun hsame "localhost"
  rw [hsites] at hhost
  exact absurd hhost (by decide +kernel)

end Samples

end TunnelCore.Sites
