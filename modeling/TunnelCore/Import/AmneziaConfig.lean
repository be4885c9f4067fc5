import TunnelCore.Library.Json
import TunnelCore.Library.Text
import Mathlib.Data.List.Forall2

namespace TunnelCore.Import.Amnezia

open Text

inductive DockerContainer
  | none
  | awg
  | awg2
  | wireGuard
  | openVpn
  | cloak
  | shadowSocks
  | ipsec
  | xray
  | ssXray
  | torWebSite
  | dns
  | sftp
  | socks5Proxy
  | mtProxy
  | telemt
  | tProxy
deriving DecidableEq

def allContainers : List DockerContainer :=
  [.none, .awg, .awg2, .wireGuard, .openVpn, .cloak, .shadowSocks, .ipsec, .xray, .ssXray, .torWebSite, .dns, .sftp,
    .socks5Proxy, .mtProxy, .telemt, .tProxy]

def containerToString : DockerContainer → String
  | .none => "none"
  | .cloak => "amnezia-openvpn-cloak"
  | .awg => "amnezia-awg"
  | .awg2 => "amnezia-awg2"
  | .wireGuard => "amnezia-wireguard"
  | .openVpn => "amnezia-openvpn"
  | .shadowSocks => "amnezia-shadowsocks"
  | .ipsec => "amnezia-ipsec"
  | .xray => "amnezia-xray"
  | .ssXray => "amnezia-ssxray"
  | .torWebSite => "amnezia-torwebsite"
  | .dns => "amnezia-dns"
  | .sftp => "amnezia-sftp"
  | .socks5Proxy => "amnezia-socks5proxy"
  | .mtProxy => "amnezia-mtproxy"
  | .telemt => "amnezia-telemt"
  | .tProxy => "amnezia-tproxy"

def containerFromString (container : String) : DockerContainer :=
  (allContainers.find? fun c => container = containerToString c).getD .none

/-- `protoToString(defaultProtocol(..))`; the containers that are no longer supported have no protocol. -/
def containerTypeToProtocolString : DockerContainer → String
  | .none => "none"
  | .openVpn => "openvpn"
  | .cloak | .shadowSocks => ""
  | .wireGuard => "wireguard"
  | .awg | .awg2 => "awg"
  | .xray => "xray"
  | .ipsec => "ikev2"
  | .ssXray => "ssxray"
  | .torWebSite => "torwebsite"
  | .dns => "dns"
  | .sftp => "sftp"
  | .socks5Proxy => "socks5proxy"
  | .mtProxy => "mtproxy"
  | .telemt => "telemt"
  | .tProxy => "tproxy"

def isAwgContainer (c : DockerContainer) : Bool := c = .awg || c = .awg2

inductive Platform
  | desktop
  | mobile

def awgDefaultMtu : Platform → String
  | .mobile => "1280"
  | .desktop => "1376"

def wireguardDefaultMtu : Platform → String
  | .mobile => "1280"
  | .desktop => "1376"

structure Qt where
  fromJson : String → Option Json
  toJson : JsonObject → String

def dockerContainer (container : Json) : DockerContainer :=
  containerFromString (container.toObject.value "container").toString

def isWireguard (container : Json) : Bool :=
  isAwgContainer (dockerContainer container) || dockerContainer container = .wireGuard

def containerConfig (container : Json) : JsonObject :=
  (container.toObject.value (containerTypeToProtocolString (dockerContainer container))).toObject

def lastConfig (container : Json) : String := ((containerConfig container).value "last_config").toString

/-- The two kinds of containers with a tunnel's MTU, when they have been configured. -/
def isConfigured (container : Json) : Bool := isWireguard container && lastConfig container ≠ ""

def isBare (container : Json) : Bool := isWireguard container && lastConfig container = ""

def isBlank (mtu : Json) : Bool := trimmed mtu.toString = ""

section

variable (qt : Qt) (platform : Platform)

def defaultMtu (c : DockerContainer) : String :=
  if isAwgContainer c then awgDefaultMtu platform else wireguardDefaultMtu platform

def jsonConfig (container : Json) : JsonObject := ((qt.fromJson (lastConfig container)).getD .null).toObject

def withMtu (container : Json) : JsonObject :=
  let config := jsonConfig qt container
  if isBlank (config.value "mtu") then config.insert "mtu" (.string (defaultMtu platform (dockerContainer container)))
  else config

def completed (container : Json) : Json :=
  .object (container.toObject.insert (containerTypeToProtocolString (dockerContainer container))
    (.object ((containerConfig container).insert "last_config" (.string (qt.toJson (withMtu qt platform container))))))

/-- The loop, with the containers it has passed and those it has still to look at. -/
def processFrom (config : JsonObject) (passed : List Json) : List Json → JsonObject
  | [] => config
  | container :: rest =>
    if isWireguard container then
      -- the source returns here; it does not go on to the next container
      if lastConfig container = "" then config
      else
        let passed := passed ++ [completed qt platform container]
        processFrom (config.insert "containers" (.array (passed ++ rest))) passed rest
    else processFrom config (passed ++ [container]) rest

def containersOf (config : JsonObject) : List Json := (config.value "containers").toArray

def processAmneziaConfig (config : JsonObject) : JsonObject := processFrom qt platform config [] (containersOf config)

/-- The MTU is there, and whatever else the container holds is as before. -/
structure Completes (before after : Json) : Prop where
  sameContainer : dockerContainer after = dockerContainer before
  mtu : (jsonConfig qt after).value "mtu" =
    if isBlank ((jsonConfig qt before).value "mtu") then .string (defaultMtu platform (dockerContainer before))
    else (jsonConfig qt before).value "mtu"
  notBlank : isBlank ((jsonConfig qt after).value "mtu") = false
  config : ∀ key ≠ "mtu", (jsonConfig qt after).lookup key = (jsonConfig qt before).lookup key
  protocol : ∀ key ≠ "last_config", (containerConfig after).lookup key = (containerConfig before).lookup key
  container : ∀ key ≠ containerTypeToProtocolString (dockerContainer before),
    after.toObject.lookup key = before.toObject.lookup key

def Finished (before after : Json) : Prop :=
  if isConfigured before then Completes qt platform before after else after = before

def ReadsBack (container : Json) : Prop :=
  qt.fromJson (qt.toJson (withMtu qt platform container)) = some (.object (withMtu qt platform container))

def finish (container : Json) : Json := if isConfigured container then completed qt platform container else container

end

variable {qt : Qt} {platform : Platform}

section Loop

theorem configured_of_not_bare {container : Json} (h : isBare container = false) :
    isConfigured container = isWireguard container := by
  cases hw : isWireguard container with
  | false => simp [isConfigured, hw]
  | true => simpa [isBare, isConfigured, hw] using h

theorem containersOf_processFrom {config : JsonObject} {passed rest : List Json}
    (h : containersOf config = passed ++ rest) :
    containersOf (processFrom qt platform config passed rest) =
      passed ++ ((rest.takeWhile (!isBare ·)).map (finish qt platform) ++ rest.dropWhile (!isBare ·)) := by
  induction rest generalizing config passed with
  | nil => simpa [processFrom] using h
  | cons container rest ih =>
    rw [processFrom]
    cases hbare : isBare container with
    | true =>
      obtain ⟨hw, hempty⟩ : isWireguard container = true ∧ lastConfig container = "" := by
        simpa [isBare] using hbare
      rw [if_pos hw, if_pos hempty, List.takeWhile_cons_of_neg (by simp [hbare]),
        List.dropWhile_cons_of_neg (by simp [hbare])]
      exact h
    | false =>
      rw [List.takeWhile_cons_of_pos (by simp [hbare]), List.dropWhile_cons_of_pos (by simp [hbare]), List.map_cons,
        finish, configured_of_not_bare hbare]
      by_cases hw : isWireguard container = true
      · have hne : lastConfig container ≠ "" := by simpa [isBare, hw] using hbare
        simp only [hw, if_true, if_neg hne]
        rw [ih (by simp [containersOf, Json.toArray])]
        simp
      · simp only [hw]
        rw [if_neg (by simp), ih (by simp [h])]
        simp

theorem lookup_processFrom {key : String} (hkey : key ≠ "containers") (config : JsonObject) (passed rest : List Json) :
    (processFrom qt platform config passed rest).lookup key = config.lookup key := by
  induction rest generalizing config passed with
  | nil => rfl
  | cons container rest ih =>
    rw [processFrom]
    split
    · split
      · rfl
      · rw [ih, JsonObject.lookup_insert_of_ne config _ hkey]
    · rw [ih]

end Loop

section Containers

variable {container : Json}

theorem protocolString_ne (h : isWireguard container = true) :
    containerTypeToProtocolString (dockerContainer container) ≠ "container" := by
  have hcases : dockerContainer container = .awg ∨ dockerContainer container = .awg2 ∨
      dockerContainer container = .wireGuard := by simpa [isWireguard, isAwgContainer, or_assoc] using h
  rcases hcases with hc | hc | hc <;> rw [hc] <;> decide

theorem dockerContainer_completed (h : isWireguard container = true) :
    dockerContainer (completed qt platform container) = dockerContainer container := by
  rw [dockerContainer, completed, Json.toObject, JsonObject.value_insert_of_ne _ _ (protocolString_ne h).symm]
  rfl

theorem containerConfig_completed (h : isWireguard container = true) :
    containerConfig (completed qt platform container) =
      (containerConfig container).insert "last_config" (.string (qt.toJson (withMtu qt platform container))) := by
  rw [containerConfig, dockerContainer_completed h, completed, Json.toObject, JsonObject.value_insert]
  rfl

theorem jsonConfig_completed (h : isWireguard container = true) (hback : ReadsBack qt platform container) :
    jsonConfig qt (completed qt platform container) = withMtu qt platform container := by
  rw [jsonConfig, lastConfig, containerConfig_completed h, JsonObject.value_insert, Json.toString, hback]
  generalize withMtu qt platform container = config
  rfl

theorem defaultMtu_not_blank (c : DockerContainer) : isBlank (.string (defaultMtu platform c)) = false := by
  rw [defaultMtu]
  cases platform <;> split <;> decide +kernel

theorem value_withMtu (container : Json) :
    (withMtu qt platform container).value "mtu" =
      if isBlank ((jsonConfig qt container).value "mtu") then .string (defaultMtu platform (dockerContainer container))
      else (jsonConfig qt container).value "mtu" := by
  rw [withMtu]
  split
  · exact JsonObject.value_insert ..
  · rfl

theorem withMtu_not_blank (container : Json) : isBlank ((withMtu qt platform container).value "mtu") = false := by
  rw [value_withMtu]
  split
  · exact defaultMtu_not_blank _
  next hblank => simpa using hblank

theorem lookup_withMtu {key : String} (hkey : key ≠ "mtu") (container : Json) :
    (withMtu qt platform container).lookup key = (jsonConfig qt container).lookup key := by
  rw [withMtu]
  split
  · exact JsonObject.lookup_insert_of_ne _ _ hkey
  · rfl

theorem completes_completed (h : isConfigured container = true) (hback : ReadsBack qt platform container) :
    Completes qt platform container (completed qt platform container) := by
  have hw : isWireguard container = true := (Bool.and_eq_true_iff.mp h).1
  have hconfig := jsonConfig_completed hw hback
  refine ⟨dockerContainer_completed hw, ?_, ?_, fun key hkey => ?_, fun key hkey => ?_, fun key hkey => ?_⟩
  · rw [hconfig, value_withMtu]
  · rw [hconfig, withMtu_not_blank]
  · rw [hconfig, lookup_withMtu hkey]
  · rw [containerConfig_completed hw, JsonObject.lookup_insert_of_ne _ _ hkey]
  · exact JsonObject.lookup_insert_of_ne _ _ hkey

theorem finished_self_iff :
    Finished qt platform container container ↔
      (isConfigured container = true → isBlank ((jsonConfig qt container).value "mtu") = false) := by
  rw [Finished]
  split
  next hconfigured =>
    refine ⟨fun h _ => h.notBlank, fun h => ?_⟩
    have hmtu := h hconfigured
    exact ⟨rfl, by simp [hmtu], hmtu, fun _ _ => rfl, fun _ _ => rfl, fun _ _ => rfl⟩
  next hother => exact iff_of_true rfl fun h => absurd h hother

theorem finished_finish (hback : isConfigured container = true → ReadsBack qt platform container) :
    Finished qt platform container (finish qt platform container) := by
  rw [Finished, finish]
  split
  next h => exact completes_completed h (hback h)
  · rfl

end Containers

theorem forall₂_append_iff {α : Type} {R : α → α → Prop} {front front' rest rest' : List α}
    (h : List.Forall₂ R front front') : List.Forall₂ R (front ++ rest) (front' ++ rest') ↔ List.Forall₂ R rest rest' := by
  induction h with
  | nil => rfl
  | cons hfirst _ ih => rw [List.cons_append, List.cons_append, List.forall₂_cons, ih, and_iff_right hfirst]

/-- The containers in front of the first bare one are finished, each on its own, and no other container is touched. So all
are as wanted exactly if none that stands behind a bare one lacks its MTU. -/
theorem processAmneziaConfig_finishes_iff {config : JsonObject}
    (hback : ∀ container ∈ containersOf config, isConfigured container = true → ReadsBack qt platform container) :
    (List.Forall₂ (Finished qt platform) (containersOf config) (containersOf (processAmneziaConfig qt platform config)) ↔
        ∀ container ∈ (containersOf config).dropWhile (!isBare ·), isConfigured container = true →
          isBlank ((jsonConfig qt container).value "mtu") = false) ∧
      containersOf (processAmneziaConfig qt platform config) =
        ((containersOf config).takeWhile (!isBare ·)).map (finish qt platform) ++
          (containersOf config).dropWhile (!isBare ·) ∧
      ∀ key ≠ "containers", (processAmneziaConfig qt platform config).lookup key = config.lookup key := by
  have hafter : containersOf (processAmneziaConfig qt platform config) =
      ((containersOf config).takeWhile (!isBare ·)).map (finish qt platform) ++
        (containersOf config).dropWhile (!isBare ·) := containersOf_processFrom (List.nil_append _).symm
  refine ⟨?_, hafter, fun key hkey => lookup_processFrom hkey config [] _⟩
  have hfront : List.Forall₂ (Finished qt platform) ((containersOf config).takeWhile (!isBare ·))
      (((containersOf config).takeWhile (!isBare ·)).map (finish qt platform)) := by
    rw [List.forall₂_map_right_iff, List.forall₂_same]
    intro container hmem
    exact finished_finish (hback container ((List.takeWhile_prefix _).subset hmem))
  have hbehind : List.Forall₂ (Finished qt platform) ((containersOf config).dropWhile (!isBare ·))
      ((containersOf config).dropWhile (!isBare ·)) ↔
      ∀ container ∈ (containersOf config).dropWhile (!isBare ·), isConfigured container = true →
        isBlank ((jsonConfig qt container).value "mtu") = false := by
    rw [List.forall₂_same]
    exact forall₂_congr fun container _ => finished_self_iff
  have hboth : List.Forall₂ (Finished qt platform)
      ((containersOf config).takeWhile (!isBare ·) ++ (containersOf config).dropWhile (!isBare ·))
      (((containersOf config).takeWhile (!isBare ·)).map (finish qt platform) ++
        (containersOf config).dropWhile (!isBare ·)) ↔ _ := forall₂_append_iff hfront
  rw [hafter, ← hbehind, ← hboth, List.takeWhile_append_dropWhile]

section Samples

def sampleQt : Qt where
  fromJson text :=
    if text = "\x7b\x7d" then some (.object [])
    else if text = "\x7b\"mtu\":\"1376\"\x7d" then some (.object [("mtu", .string "1376")])
    else none
  toJson _ := "\x7b\"mtu\":\"1376\"\x7d"

def sampleContainer (c : DockerContainer) (lastConfig : String) : Json :=
  .object [("container", .string (containerToString c)),
    (containerTypeToProtocolString c, .object [("last_config", .string lastConfig)])]

def sampleConfig (samples : List Json) : JsonObject := [("containers", .array samples)]

/-- A WireGuard container gets its MTU in front of a bare one. -/
theorem processAmneziaConfig_finishes_first :
    List.Forall₂ (Finished sampleQt .desktop)
      (containersOf (sampleConfig [sampleContainer .wireGuard "\x7b\x7d", sampleContainer .awg ""]))
      (containersOf (processAmneziaConfig sampleQt .desktop
        (sampleConfig [sampleContainer .wireGuard "\x7b\x7d", sampleContainer .awg ""]))) := by
  refine (processAmneziaConfig_finishes_iff ?_).1.mpr ?_
  · intro container hmem hconfigured
    rcases List.mem_pair.mp hmem with rfl | rfl
    · rfl
    · exact absurd hconfigured (by decide +kernel)
  · intro container hmem hconfigured
    have hrest : (containersOf (sampleConfig [sampleContainer .wireGuard "\x7b\x7d", sampleContainer .awg ""])).dropWhile
        (!isBare ·) = [sampleContainer .awg ""] := rfl
    rw [hrest, List.mem_singleton] at hmem
    subst hmem
    exact absurd hconfigured (by decide +kernel)

/-- The same container behind the bare one is left without an MTU. -/
theorem mtu_missing_behind_bare :
    isConfigured (sampleContainer .wireGuard "\x7b\x7d") = true ∧
      containersOf (processAmneziaConfig sampleQt .desktop
        (sampleConfig [sampleContainer .awg "", sampleContainer .wireGuard "\x7b\x7d"])) =
        [sampleContainer .awg "", sampleContainer .wireGuard "\x7b\x7d"] ∧
      isBlank ((jsonConfig sampleQt (sampleContainer .wireGuard "\x7b\x7d")).value "mtu") = true ∧
      ¬List.Forall₂ (Finished sampleQt .desktop) [sampleContainer .awg "", sampleContainer .wireGuard "\x7b\x7d"]
        [sampleContainer .awg "", sampleContainer .wireGuard "\x7b\x7d"] := by
  have hconfigured : isConfigured (sampleContainer .wireGuard "\x7b\x7d") = true := by decide +kernel
  have hblank : isBlank ((jsonConfig sampleQt (sampleContainer .wireGuard "\x7b\x7d")).value "mtu") = true := by
    decide +kernel
  refine ⟨hconfigured, rfl, hblank, fun hall => ?_⟩
  have hfinished := List.forall₂_same.mp hall _ (.tail _ (.head _))
  rw [finished_self_iff.mp hfinished hconfigured] at hblank
  cases hblank

end Samples

end TunnelCore.Import.Amnezia
