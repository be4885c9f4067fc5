import TunnelCore.Connection.SplitTunnelConfig
import TunnelCore.Library.Assoc
import Mathlib.Data.String.Basic

namespace TunnelCore.Connection.Settings

open KillSwitch

def sitesKey (mode : RouteMode) : String := "Conf/" ++ routeModeString mode

def setVpnSites (s : Settings) (mode : RouteMode) (sites : List (String × List String)) : Settings :=
  { s with storedSites := Function.update s.storedSites (sitesKey mode) sites }

def addVpnSites (s : Settings) (mode : RouteMode) (sites : List (String × List String)) : Settings :=
  s.setVpnSites mode <| sites.foldl (fun allSites site =>
    insertSite site.1 (appendRanges (siteIpList ((allSites.lookup site.1).getD [])) site.2) allSites) (s.vpnSites mode)

def replaceVpnSites (s : Settings) (mode : RouteMode) (sites : List (String × List String)) : Settings :=
  let replacement := sites.map fun site => (site.1, siteIpList site.2)
  if s.vpnSites mode = replacement then s else s.setVpnSites mode replacement

def removeVpnSite (s : Settings) (mode : RouteMode) (site : String) : Settings :=
  if ((s.vpnSites mode).lookup site).isNone then s else s.setVpnSites mode (Assoc.eraseAll site (s.vpnSites mode))

def removeAllVpnSites (s : Settings) (mode : RouteMode) : Settings := s.setVpnSites mode []

def setRouteMode (s : Settings) (mode : RouteMode) : Settings := { s with routeMode := mode }

def Ordered (entries : List (String × List String)) : Prop := entries.Pairwise fun a b => a.1 < b.1

theorem appendRanges_nil (ips : List String) : appendRanges [] ips = siteIpList ips := by
  induction ips using List.reverseRecOn with
  | nil => rfl
  | append_singleton ips ip ih =>
    have hstep : appendRanges [] (ips ++ [ip]) =
        if ip ≠ "" ∧ ip ∉ appendRanges [] ips then appendRanges [] ips ++ [ip] else appendRanges [] ips := by
      rw [appendRanges, List.foldl_append]
      rfl
    rw [hstep, siteIpList, List.filter_append, List.eraseDups_append, ← siteIpList, ← ih]
    by_cases hempty : ip = ""
    · simp [hempty, List.removeAll]
    · by_cases hmem : ip ∈ ips
      · simp [hempty, hmem, mem_appendRanges, List.removeAll]
      · simp [hempty, hmem, mem_appendRanges, List.removeAll, List.eraseDups_cons]

def Clean (ips : List String) : Prop := siteIpList ips = ips

theorem clean_iff {ips : List String} : Clean ips ↔ "" ∉ ips ∧ ips.Nodup := by
  rw [Clean, ← appendRanges_nil]
  constructor
  · intro h
    rw [← h]
    exact ⟨fun hmem => by simpa using mem_appendRanges.mp hmem, nodup_appendRanges List.nodup_nil⟩
  · rintro ⟨hempty, h⟩
    exact appendRanges_eq_append hempty h

theorem clean_siteIpList (ips : List String) : Clean (siteIpList ips) := by
  rw [clean_iff, ← appendRanges_nil]
  exact ⟨fun hmem => by simpa using mem_appendRanges.mp hmem, nodup_appendRanges List.nodup_nil⟩

theorem Clean.appendRanges {known : List String} (h : Clean known) (ips : List String) :
    Clean (appendRanges known ips) := by
  obtain ⟨hempty, hnodup⟩ := clean_iff.mp h
  refine clean_iff.mpr ⟨fun hmem => ?_, nodup_appendRanges hnodup⟩
  rcases mem_appendRanges.mp hmem with hmem | hmem
  · exact hempty hmem
  · exact hmem.2 rfl

/-- A stored map of sites, with the addresses as the repository reads them. -/
def viewOf (sites : List (String × List String)) (host : String) : Option (List String) :=
  (Assoc.read sites host).map siteIpList

/-- New addresses are merged into those of the site, which is added if it is not there. -/
def merge (view : String → Option (List String)) (site : String × List String) : String → Option (List String) :=
  Function.update view site.1 (some (appendRanges ((view site.1).getD []) site.2))

def siteView (s : Settings) (mode : RouteMode) : String → Option (List String) := viewOf (s.vpnSites mode)

variable {sites : List (String × List String)}

theorem mem_keys_iff {host : String} :
    host ∈ Assoc.keys sites ↔ viewOf sites host ≠ none := by
  rw [viewOf, Ne, Option.map_eq_none_iff, Assoc.read_eq_none_iff, not_not]

theorem siteView_setVpnSites (s : Settings) (mode : RouteMode) (sites : List (String × List String)) :
    (s.setVpnSites mode sites).siteView mode = viewOf sites := congrArg viewOf (Function.update_self ..)

theorem viewOf_update {sites sites' : List (String × List String)} {site : String} {value : Option (List String)}
    (h : Assoc.read sites' = Function.update (Assoc.read sites) site value) :
    viewOf sites' = Function.update (viewOf sites) site (value.map siteIpList) := by
  funext host
  rw [viewOf, h]
  by_cases hh : host = site
  · simp [hh]
  · simp [hh, viewOf]

theorem read_insertSite (site : String) (ips : List String) (sites : List (String × List String)) :
    Assoc.read (insertSite site ips sites) = Function.update (Assoc.read sites) site (some ips) := by
  induction sites with
  | nil => exact Assoc.read_cons site ips []
  | cons entry sites ih =>
    obtain ⟨key, value⟩ := entry
    rw [insertSite]
    split
    next h => rw [Assoc.read_cons, Assoc.read_cons, h, Function.update_idem]
    next h =>
      split
      · rw [Assoc.read_cons]
      · rw [Assoc.read_cons, ih, Assoc.read_cons, Function.update_comm h]

theorem siteIpList_lookup (sites : List (String × List String)) (site : String) :
    siteIpList ((sites.lookup site).getD []) = (viewOf sites site).getD [] := by
  rw [viewOf, Assoc.read]
  cases sites.lookup site <;> rfl

theorem viewOf_insertSite (sites : List (String × List String)) (site : String × List String) :
    viewOf (insertSite site.1 (appendRanges (siteIpList ((sites.lookup site.1).getD [])) site.2) sites) =
      merge (viewOf sites) site := by
  have hclean : Clean (appendRanges (siteIpList ((sites.lookup site.1).getD [])) site.2) :=
    (clean_siteIpList _).appendRanges site.2
  rw [viewOf_update (read_insertSite ..), Option.map_some, hclean, siteIpList_lookup, merge]

theorem siteView_addVpnSite (s : Settings) (mode : RouteMode) (site : String) (ips : List String) :
    (s.addVpnSite mode site ips).siteView mode = merge (s.siteView mode) (site, ips) := by
  simp only [addVpnSite]
  split
  next h =>
    obtain ⟨stored, hstored⟩ := Option.isSome_iff_exists.mp h.1
    rw [merge, siteView, ← siteIpList_lookup, h.2]
    refine (Function.update_eq_self_iff.mpr ?_).symm
    rw [viewOf, Assoc.read, hstored]
    rfl
  · exact (siteView_setVpnSites s mode _).trans (viewOf_insertSite _ (site, ips))

theorem siteView_addVpnSites (s : Settings) (mode : RouteMode) (sites : List (String × List String)) :
    (s.addVpnSites mode sites).siteView mode = sites.foldl merge (s.siteView mode) := by
  rw [addVpnSites, siteView_setVpnSites, siteView]
  exact (List.foldl_hom viewOf fun all site => (viewOf_insertSite all site).symm).symm

theorem siteView_replaceVpnSites (s : Settings) (mode : RouteMode) (sites : List (String × List String)) :
    (s.replaceVpnSites mode sites).siteView mode = viewOf sites := by
  have hview : viewOf (sites.map fun site => (site.1, siteIpList site.2)) = viewOf sites := by
    funext host
    rw [viewOf, Assoc.read_map, Option.map_map]
    exact congrArg (fun f => (Assoc.read sites host).map f) (funext fun ips => clean_siteIpList ips)
  simp only [replaceVpnSites]
  split
  next h => rw [siteView, h, hview]
  · rw [siteView_setVpnSites, hview]

theorem siteView_removeVpnSite (s : Settings) (mode : RouteMode) (site : String) :
    (s.removeVpnSite mode site).siteView mode = Function.update (s.siteView mode) site none := by
  rw [removeVpnSite]
  split
  next h =>
    refine (Function.update_eq_self_iff.mpr ?_).symm
    rw [siteView, viewOf, Assoc.read, Option.isNone_iff_eq_none.mp h]
    rfl
  · rw [siteView_setVpnSites, viewOf_update (Assoc.read_eraseAll ..)]
    rfl

theorem Ordered.nodup_keys (h : Ordered sites) : (Assoc.keys sites).Nodup :=
  List.pairwise_map.mpr (h.imp fun hlt => ne_of_lt hlt)

theorem mem_insertSite {site : String} {ips : List String}
    {entry : String × List String} (h : entry ∈ insertSite site ips sites) : entry = (site, ips) ∨ entry ∈ sites := by
  induction sites with
  | nil => exact .inl (List.mem_singleton.mp h)
  | cons first sites ih =>
    obtain ⟨key, value⟩ := first
    rw [insertSite] at h
    split at h
    · exact (List.mem_cons.mp h).imp_right (.tail _)
    · split at h
      · exact List.mem_cons.mp h
      · rcases List.mem_cons.mp h with rfl | h
        · exact .inr (.head _)
        · exact (ih h).imp_right (.tail _)

theorem Ordered.insertSite (h : Ordered sites) (site : String)
    (ips : List String) : Ordered (insertSite site ips sites) := by
  induction sites with
  | nil => exact List.pairwise_singleton ..
  | cons first sites ih =>
    obtain ⟨key, value⟩ := first
    obtain ⟨hfirst, hrest⟩ := List.pairwise_cons.mp h
    rw [Settings.insertSite]
    split
    next hkey => exact List.pairwise_cons.mpr ⟨hkey ▸ hfirst, hrest⟩
    next hkey =>
      split
      next hlt =>
        refine List.pairwise_cons.mpr ⟨fun entry hentry => ?_, h⟩
        rcases List.mem_cons.mp hentry with rfl | hentry
        · exact hlt
        · exact lt_trans hlt (hfirst entry hentry)
      next hlt =>
        refine List.pairwise_cons.mpr ⟨fun entry hentry => ?_, ih hrest⟩
        rcases mem_insertSite hentry with rfl | hentry
        · exact lt_of_le_of_ne (not_lt.mp hlt) hkey
        · exact hfirst entry hentry

def AllOrdered (s : Settings) : Prop := ∀ key, Ordered (s.storedSites key)

structure ChangesSites (s : Settings) (mode : RouteMode) (s' : Settings) : Prop where
  frame (key : String) : key ≠ sitesKey mode → s'.storedSites key = s.storedSites key
  ordered : AllOrdered s → AllOrdered s'

theorem ChangesSites.refl (s : Settings) (mode : RouteMode) : ChangesSites s mode s := ⟨fun _ _ => rfl, id⟩

theorem changesSites_setVpnSites (s : Settings) (mode : RouteMode)
    (h : AllOrdered s → Ordered sites) : ChangesSites s mode (s.setVpnSites mode sites) := by
  refine ⟨fun key hkey => Function.update_of_ne hkey .., fun hs key => ?_⟩
  change Ordered (Function.update s.storedSites (sitesKey mode) sites key)
  rw [Function.update_apply]
  split
  · exact h hs
  · exact hs key

theorem changesSites_addVpnSite (s : Settings) (mode : RouteMode) (site : String) (ips : List String) :
    ChangesSites s mode (s.addVpnSite mode site ips) := by
  simp only [addVpnSite]
  split
  · exact .refl s mode
  · exact changesSites_setVpnSites s mode fun hs => (hs (sitesKey mode)).insertSite site _

theorem changesSites_addVpnSites (s : Settings) (mode : RouteMode) (sites : List (String × List String)) :
    ChangesSites s mode (s.addVpnSites mode sites) := by
  refine changesSites_setVpnSites s mode fun hs => ?_
  have hall : Ordered (s.vpnSites mode) := hs (sitesKey mode)
  generalize s.vpnSites mode = all at hall
  induction sites generalizing all with
  | nil => exact hall
  | cons site sites ih => exact ih _ (hall.insertSite site.1 _)

theorem changesSites_replaceVpnSites (s : Settings) (mode : RouteMode)
    (h : Ordered sites) : ChangesSites s mode (s.replaceVpnSites mode sites) := by
  simp only [replaceVpnSites]
  split
  · exact .refl s mode
  · exact changesSites_setVpnSites s mode fun _ => List.pairwise_map.mpr h

theorem changesSites_removeVpnSite (s : Settings) (mode : RouteMode) (site : String) :
    ChangesSites s mode (s.removeVpnSite mode site) := by
  rw [removeVpnSite]
  split
  · exact .refl s mode
  · exact changesSites_setVpnSites s mode fun hs => (hs (sitesKey mode)).filter _

theorem changesSites_removeAllVpnSites (s : Settings) (mode : RouteMode) :
    ChangesSites s mode (s.removeAllVpnSites mode) := changesSites_setVpnSites s mode fun _ => List.Pairwise.nil

end TunnelCore.Connection.Settings
