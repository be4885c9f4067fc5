import TunnelCore.Servers.Restart

namespace TunnelCore.Import

open Servers Text

structure NativeServerConfig where
  description : String
  managedProfileId : String

def isApiV2Subscription : ConfigType → Bool
  | .amneziaPremiumV2 | .amneziaFreeV3 | .externalPremium => true
  | _ => false

section

variable (env : Env)

def nativeOf (json : JsonObject) : Option NativeServerConfig :=
  let strippedJson := withoutStorageServerId json
  if configTypeFromJson env strippedJson = .native then
    some ⟨(strippedJson.value "description").toString, (strippedJson.value "managedProfileId").toString⟩
  else none

def nativeConfig (r : Repository) (serverId : String) : Option NativeServerConfig :=
  (r.serverJsonById serverId).bind (nativeOf env)

def apiV2Crc (r : Repository) (serverId : String) : Option Int :=
  (r.serverJsonById serverId).bind fun json =>
    let strippedJson := withoutStorageServerId json
    if isApiV2Subscription (configTypeFromJson env strippedJson) then some (strippedJson.value "crc").toInt else none

/-- `ServerCredentials::isValid` of the credentials in a configuration. -/
def credentialsValid (config : JsonObject) : Bool :=
  (config.value "hostName").toString ≠ "" && (config.value "userName").toString ≠ "" &&
    (config.value "password").toString ≠ "" && 0 < (config.value "port").toInt

def managedId (config : JsonObject) : String := (config.value "managedProfileId").toString

/-- The loop over the servers: the managed one, and the last choice of a legacy one. -/
def findManaged (r : Repository) (managedProfileId importedDescription : String) :
    List String → String → String × String
  | [], legacyServerId => ("", legacyServerId)
  | serverId :: ids, legacyServerId =>
    match nativeConfig env r serverId with
    | none => findManaged r managedProfileId importedDescription ids legacyServerId
    | some native =>
      if native.managedProfileId = managedProfileId then (serverId, legacyServerId)
      else if native.managedProfileId = "" ∧ importedDescription ≠ "" ∧ native.description = importedDescription ∧
          (legacyServerId = "" ∨ serverId = r.defaultServerId) then
        findManaged r managedProfileId importedDescription ids serverId
      else findManaged r managedProfileId importedDescription ids legacyServerId

def importTarget (config : JsonObject) (r : Repository) : String :=
  let managedProfileId := trimmed (managedId config)
  if managedProfileId ≠ "" ∧ configTypeFromJson env config = .native then
    let (managedServerId, legacyServerId) :=
      findManaged env r managedProfileId (trimmed (config.value "description").toString) r.orderedServerIds ""
    if managedServerId = "" then legacyServerId else managedServerId
  else ""

def keepDescription (previous : Option NativeServerConfig) (config : JsonObject) : JsonObject :=
  match previous with
  | some native => if native.description ≠ "" then config.insert "description" (.string native.description) else config
  | none => config

inductive ImportSignal
  | importFinished
  | apiConfigAlreadyAdded
  | importInvalidConfigError

/-- `checksum` is `qChecksum` of the configuration's text. -/
def importConfig (checksum : JsonObject → UInt16) (config : JsonObject) (r : Repository) :
    Repository × ImportSignal :=
  if credentialsValid config || config.contains "containers" then
    let kind := configTypeFromJson env config
    let serverId := importTarget env config r
    if serverId ≠ "" then
      let updatedConfig := keepDescription (nativeConfig env r serverId) config
      (setDefaultServer serverId (editServer env serverId updatedConfig kind r), .importFinished)
    else
      let (serverId, r) := addServer env "" config kind r
      (setDefaultServer serverId r, .importFinished)
  else if config.contains "config_version" then
    let crc := checksum config
    if r.orderedServerIds.any fun id => (apiV2Crc env r id).any fun stored => UInt16.ofInt stored = crc then
      (r, .apiConfigAlreadyAdded)
    else
      let configWithCrc := config.insert "crc" (.number crc.toNat)
      let (serverId, r) := addServer env "" configWithCrc (configTypeFromJson env configWithCrc) r
      (setDefaultServer serverId r, .importFinished)
  else (r, .importInvalidConfigError)

end

inductive Call
  | importConfig (config : JsonObject)
  | removeServer (serverId : String)
  | setDefaultServer (serverId : String)

def Call.run (env : Env) (checksum : JsonObject → UInt16) (r : Repository) : Call → Repository
  | .importConfig config => (Import.importConfig env checksum config r).1
  | .removeServer serverId => Servers.removeServer serverId r
  | .setDefaultServer serverId => Servers.setDefaultServer serverId r

def Carries (env : Env) (r : Repository) (serverId m : String) : Prop :=
  (nativeConfig env r serverId).map NativeServerConfig.managedProfileId = some m

def UniqueProfiles (env : Env) (r : Repository) : Prop :=
  ∀ m ≠ "", ∀ id₁ id₂, Carries env r id₁ m → Carries env r id₂ m → id₁ = id₂

/-- One server at most is put in place of an old one, or behind all others. -/
def TouchesOne (r r' : Repository) : Prop :=
  ∃ id, (∀ other, other ≠ id → r'.serverJsonById other = r.serverJsonById other) ∧
    (r'.orderedServerIds = r.orderedServerIds ∨
      id ∉ r.orderedServerIds ∧ r'.orderedServerIds = r.orderedServerIds ++ [id])

/-- The default server is the imported one, but for the description of the one it replaces. -/
structure DefaultImported (env : Env) (r : Repository) (config : JsonObject) (r' : Repository) : Prop where
  listed : r'.defaultServerId ∈ r'.orderedServerIds
  contents : r'.serverJsonById r'.defaultServerId = some (embedStorageServerId r'.defaultServerId
    (withoutStorageServerId (keepDescription (nativeConfig env r r'.defaultServerId) config)))
  carries : Carries env r' r'.defaultServerId (managedId config)

section Kinds

variable {env : Env}

def kindKeys : List String :=
  ["containers", "userName", "password", "port", "api_config", "api_endpoint", "config_version"]

theorem configTypeFromJson_congr {a b : JsonObject} (h : ∀ key ∈ kindKeys, a.value key = b.value key) :
    configTypeFromJson env a = configTypeFromJson env b := by
  have hgateway : gatewayType a = gatewayType b := by
    rw [gatewayType, gatewayType, h "api_config" (by decide)]
  have htelegram : telegramType env a = telegramType env b := by
    rw [telegramType, telegramType, h "api_endpoint" (by decide), hgateway]
  have hapi : apiType env a = apiType env b := by
    rw [apiType, apiType, h "config_version" (by decide), htelegram, hgateway]
  have hthird : hasThirdPartyConfig a = hasThirdPartyConfig b := by
    rw [hasThirdPartyConfig, hasThirdPartyConfig, h "containers" (by decide)]
  have hcredentials : hasCredentials a = hasCredentials b := by
    simp only [hasCredentials, h "userName" (by decide), h "password" (by decide), h "port" (by decide)]
  rw [configTypeFromJson, configTypeFromJson, hapi, hthird, hcredentials]

theorem configTypeFromJson_strip (json : JsonObject) :
    configTypeFromJson env (withoutStorageServerId json) = configTypeFromJson env json := by
  refine configTypeFromJson_congr fun key hkey => JsonObject.value_remove_of_ne json ?_
  rintro rfl
  exact absurd hkey (by decide)

theorem configTypeFromJson_keepDescription (previous : Option NativeServerConfig) (config : JsonObject) :
    configTypeFromJson env (keepDescription previous config) = configTypeFromJson env config := by
  cases previous with
  | none => rfl
  | some native =>
    rw [keepDescription]
    split
    · refine configTypeFromJson_congr fun key hkey => JsonObject.value_insert_of_ne config _ ?_
      rintro rfl
      exact absurd hkey (by decide)
    · rfl

theorem managedId_keepDescription (previous : Option NativeServerConfig) (config : JsonObject) :
    managedId (keepDescription previous config) = managedId config := by
  cases previous with
  | none => rfl
  | some native =>
    rw [keepDescription]
    split
    · rw [managedId, JsonObject.value_insert_of_ne config _ (by decide), managedId]
    · rfl

theorem managedProfileId_nativeOf (json : JsonObject) :
    (nativeOf env json).map NativeServerConfig.managedProfileId =
      if configTypeFromJson env json = .native then some (managedId json) else none := by
  rw [nativeOf, configTypeFromJson_strip]
  split
  · have hvalue : (withoutStorageServerId json).value "managedProfileId" = json.value "managedProfileId" :=
      JsonObject.value_remove_of_ne json (by decide)
    rw [Option.map_some, hvalue, managedId]
  · rfl

theorem nativeOf_embed (id : String) (json : JsonObject) :
    nativeOf env (embedStorageServerId id (withoutStorageServerId json)) = nativeOf env json := by
  have hstrip : withoutStorageServerId (embedStorageServerId id (withoutStorageServerId json)) =
      withoutStorageServerId json := by
    rw [withoutStorageServerId_embed, withoutStorageServerId, withoutStorageServerId, JsonObject.remove_remove]
  rw [nativeOf, hstrip, nativeOf]

theorem apiType_ne_native (json : JsonObject) : apiType env json ≠ some .native := by
  have hgateway : gatewayType json ≠ some .native := by
    rw [gatewayType]
    split <;> simp
  rw [apiType]
  split
  · rw [telegramType]
    split
    · simp
    · split
      · simp
      · exact hgateway
  · exact hgateway
  · simp

theorem toArray_containers_of_native {json : JsonObject} (h : configTypeFromJson env json = .native) :
    (json.value "containers").toArray ≠ [] := by
  intro hnil
  have hthird : hasThirdPartyConfig json = false := by rw [hasThirdPartyConfig, hnil, List.any_nil]
  rw [configTypeFromJson, hthird] at h
  cases hapi : apiType env json with
  | some kind =>
    rw [hapi] at h
    exact apiType_ne_native json (hapi.trans (congrArg some h))
  | none =>
    rw [hapi] at h
    simp only [Bool.false_eq_true, if_false, Option.getD_none] at h
    split at h <;> cases h

theorem contains_of_toArray {json : JsonObject} {key : String} (h : (json.value key).toArray ≠ []) :
    json.contains key = true := by
  rw [JsonObject.contains, List.any_eq_true]
  by_contra hnone
  have hlookup : json.lookup key = none := by
    rw [List.lookup_eq_none_iff]
    intro entry hentry
    have hne : key ≠ entry.1 := fun he => hnone ⟨entry, hentry, by simp [he]⟩
    simpa using hne
  rw [JsonObject.value, hlookup] at h
  exact h rfl

end Kinds

section Search

variable {env : Env} {r : Repository}

/-- The loop ends at a server with the profile, or finds that there is none; the other server it then
names is the one it started with or one of those it has seen. -/
inductive Found (env : Env) (r : Repository) (m : String) (ids : List String) (legacy : String) :
    String × String → Prop
  | managed (id chosen : String) (hid : id ∈ ids) (h : Carries env r id m) : Found env r m ids legacy (id, chosen)
  | absent (chosen : String) (h : ∀ id ∈ ids, ¬Carries env r id m) (hchosen : chosen = legacy ∨ chosen ∈ ids) :
      Found env r m ids legacy ("", chosen)

theorem Found.cons {m id legacy legacy' : String} {ids : List String} {found : String × String}
    (h : Found env r m ids legacy' found) (hid : ¬Carries env r id m) (hlegacy : legacy' = legacy ∨ legacy' = id) :
    Found env r m (id :: ids) legacy found := by
  cases h with
  | managed other chosen hother hc => exact .managed other chosen (.tail _ hother) hc
  | absent chosen hnone hchosen =>
    refine .absent chosen (List.forall_mem_cons.mpr ⟨hid, hnone⟩) ?_
    rcases hchosen with rfl | hchosen
    · exact hlegacy.imp_right fun hid => List.mem_cons.mpr (.inl hid)
    · exact .inr (.tail _ hchosen)

theorem found_findManaged (m description : String) (ids : List String) (legacy : String) :
    Found env r m ids legacy (findManaged env r m description ids legacy) := by
  induction ids generalizing legacy with
  | nil => exact .absent legacy (fun _ h => absurd h List.not_mem_nil) (.inl rfl)
  | cons id ids ih =>
    rw [findManaged]
    cases hnative : nativeConfig env r id with
    | none => exact (ih legacy).cons (by simp [Carries, hnative]) (.inl rfl)
    | some native =>
      by_cases hm : native.managedProfileId = m
      · simp only [hm, if_true]
        exact .managed id legacy (.head _) (by simp [Carries, hnative, hm])
      · have hid : ¬Carries env r id m := by simpa [Carries, hnative] using hm
        simp only [hm, if_false]
        split
        · exact (ih id).cons hid (.inr rfl)
        · exact (ih legacy).cons hid (.inl rfl)

theorem Carries.mem (h : Indexed r) {id m : String} (hc : Carries env r id m) : id ∈ r.orderedServerIds := by
  rw [h.keys, Option.isSome_iff_ne_none]
  intro hnone
  rw [Carries, nativeConfig, hnone] at hc
  cases hc

theorem Found.pick_mem {m : String} {ids : List String} {found : String × String} (h : Found env r m ids "" found)
    (hids : ∀ id ∈ ids, id ≠ "") :
    (if found.1 = "" then found.2 else found.1) = "" ∨ (if found.1 = "" then found.2 else found.1) ∈ ids := by
  cases h with
  | managed id chosen hid hc =>
    rw [if_neg (hids id hid)]
    exact .inr hid
  | absent chosen hnone hchosen => exact hchosen

theorem importTarget_mem (h : Indexed r) (config : JsonObject) :
    importTarget env config r = "" ∨ importTarget env config r ∈ r.orderedServerIds := by
  rw [importTarget]
  split
  · exact (found_findManaged _ _ _ _).pick_mem fun id hid => (h.named id hid).1
  · exact .inl rfl

theorem importTarget_only (h : Indexed r) (hunique : UniqueProfiles env r) {config : JsonObject}
    (htrimmed : trimmed (managedId config) = managedId config) (hm : managedId config ≠ "")
    (hkind : configTypeFromJson env config = .native) {other : String} (hother : Carries env r other (managedId config)) :
    other = importTarget env config r := by
  rw [importTarget, htrimmed, if_pos ⟨hm, hkind⟩]
  have hfound : Found env r (managedId config) r.orderedServerIds "" (findManaged env r (managedId config)
    (trimmed (config.value "description").toString) r.orderedServerIds "") := found_findManaged _ _ _ _
  generalize findManaged env r (managedId config) (trimmed (config.value "description").toString) r.orderedServerIds
    "" = found at hfound ⊢
  cases hfound with
  | managed id chosen hid hc =>
    simp only [(h.named id hid).1, if_false]
    exact hunique _ hm other id hother hc
  | absent chosen hnone hchosen => exact absurd hother (hnone other (hother.mem h))

end Search

section Effects

variable {env : Env} {r : Repository}

def Minted (env : Env) (r : Repository) : Prop := ∀ id ∈ r.orderedServerIds, ∃ n < r.drawn, id = env.uuid n

/-- The server is put in place of the one with this id, or behind all others. -/
structure Puts (env : Env) (r : Repository) (id : String) (json : JsonObject) (r' : Repository) : Prop where
  contents : r'.serverJsonById =
    Function.update r.serverJsonById id (some (embedStorageServerId id (withoutStorageServerId json)))
  order : r'.orderedServerIds = r.orderedServerIds ∧ id ∈ r.orderedServerIds ∨
    id ∉ r.orderedServerIds ∧ r'.orderedServerIds = r.orderedServerIds ++ [id]
  minted : Minted env r → Minted env r'

variable {json : JsonObject} {id : String}

theorem puts_editServer (h : Indexed r) (hid : id ∈ r.orderedServerIds)
    {kind : ConfigType} (hkind : configTypeFromJson env json = kind) :
    Puts env r id json (editServer env id json kind r) := by
  obtain ⟨oldJson, hold⟩ := Option.isSome_iff_exists.mp ((h.keys id).mp hid)
  have hvalid : kind ≠ .invalid := hkind ▸ configTypeFromJson_ne_invalid env json
  have hguard : ¬(id ∉ r.orderedServerIds ∨ kind = .invalid) := not_or.mpr ⟨not_not.mpr hid, hvalid⟩
  rw [editServer, if_neg hguard, hold]
  simp only [configTypeFromJson_strip, hkind, ne_eq, not_true_eq_false, if_false, Function.update_idem]
  exact ⟨rfl, .inl ⟨rfl, hid⟩, fun hm => hm⟩

theorem puts_addServer (hinj : Function.Injective env.uuid) (h : Indexed r) (hm : Minted env r)
    {kind : ConfigType} (hkind : configTypeFromJson env json = kind) :
    Puts env r (addServer env "" json kind r).1 json (addServer env "" json kind r).2 ∧
      (addServer env "" json kind r).1 ∉ r.orderedServerIds := by
  have hnew : env.uuid r.drawn ∉ r.orderedServerIds := by
    intro hmem
    obtain ⟨n, hn, heq⟩ := hm _ hmem
    exact absurd (hinj heq) (Nat.ne_of_gt hn)
  have hnone : r.serverJsonById (env.uuid r.drawn) = none := by
    rw [← Option.isNone_iff_eq_none, h.contains_iff]
    exact hnew
  have hvalid : kind ≠ .invalid := hkind ▸ configTypeFromJson_ne_invalid env json
  have hid : normalizedOrGeneratedServerId env "" r = (env.uuid r.drawn, { r with drawn := r.drawn + 1 }) := by
    rw [normalizedOrGeneratedServerId, if_neg]
    exact fun hc => hc.1 (by decide)
  rw [addServer, hid]
  simp only [hnone, hvalid, configTypeFromJson_strip, hkind, Option.isSome_none, ne_eq, not_true_eq_false, or_self,
    Bool.false_eq_true, if_false]
  refine ⟨⟨?_, .inr ⟨hnew, ?_⟩, fun _ => ?_⟩, hnew⟩
  · split <;> rfl
  · split <;> rfl
  · have hminted : ∀ id ∈ r.orderedServerIds ++ [env.uuid r.drawn], ∃ n < r.drawn + 1, id = env.uuid n := by
      intro id hid
      rcases List.mem_append.mp hid with hid | hid
      · obtain ⟨n, hn, heq⟩ := hm id hid
        exact ⟨n, Nat.lt_succ_of_lt hn, heq⟩
      · exact ⟨r.drawn, Nat.lt_succ_self _, List.mem_singleton.mp hid⟩
    split
    · exact hminted
    · exact hminted

theorem Puts.mem {r' : Repository} (h : Puts env r id json r') :
    id ∈ r'.orderedServerIds := by
  rcases h.order with ⟨horder, hid⟩ | ⟨-, horder⟩
  · rwa [horder]
  · rw [horder]
    exact List.mem_append_right _ (List.mem_singleton_self id)

theorem Puts.setDefaultServer {r' : Repository} (h : Puts env r id json r') :
    Puts env r id json (setDefaultServer id r') ∧ (setDefaultServer id r').defaultServerId = id := by
  have hids : r'.orderedServerIds ≠ [] := List.ne_nil_of_mem h.mem
  have hjson : (r'.serverJsonById id).isNone ≠ true := by
    rw [h.contents, Function.update_self]
    exact Bool.false_ne_true
  rw [Servers.setDefaultServer]
  split
  next hcond =>
    have hdefault : r'.defaultServerId = id := by simpa [hids, hjson, h.mem] using hcond
    exact ⟨h, hdefault⟩
  · refine ⟨⟨h.contents, h.order, h.minted⟩, ?_⟩
    change (if r'.orderedServerIds = [] then "" else if id ∉ r'.orderedServerIds then _ else id) = id
    rw [if_neg hids, if_neg (not_not.mpr h.mem)]

end Effects

section Imports

variable {env : Env} {r : Repository}

structure Imports (env : Env) (r : Repository) (config : JsonObject) (r' : Repository) : Prop where
  touchesOne : TouchesOne r r'
  default : configTypeFromJson env config = .native → DefaultImported env r config r'

variable {r' : Repository} {json : JsonObject} {id : String} {config : JsonObject}

theorem Puts.touchesOne (h : Puts env r id json r') :
    TouchesOne r r' := by
  refine ⟨id, fun other hother => ?_, h.order.imp_left And.left⟩
  rw [h.contents, Function.update_of_ne hother]

theorem Puts.nativeConfig_self (h : Puts env r id json r') :
    nativeConfig env r' id = nativeOf env json := by
  rw [nativeConfig, h.contents, Function.update_self, Option.bind_some, nativeOf_embed]

theorem Puts.carries_other {id other m : String} (h : Puts env r id json r')
    (hother : other ≠ id) : Carries env r' other m ↔ Carries env r other m := by
  rw [Carries, Carries, nativeConfig, nativeConfig, h.contents, Function.update_of_ne hother]

theorem Puts.carries_self {id m : String} (h : Puts env r id json r') :
    Carries env r' id m ↔ configTypeFromJson env json = .native ∧ managedId json = m := by
  rw [Carries, h.nativeConfig_self, managedProfileId_nativeOf]
  split
  next hkind => simp [hkind]
  next hkind => simp [hkind]

theorem UniqueProfiles.puts (hunique : UniqueProfiles env r) (h : Puts env r id json r')
    (honly : configTypeFromJson env json = .native → managedId json ≠ "" →
      ∀ other, Carries env r other (managedId json) → other = id) : UniqueProfiles env r' := by
  intro m hm id₁ id₂ h₁ h₂
  by_cases e₁ : id₁ = id <;> by_cases e₂ : id₂ = id
  · rw [e₁, e₂]
  · subst e₁
    obtain ⟨hkind, rfl⟩ := h.carries_self.mp h₁
    exact (honly hkind hm id₂ ((h.carries_other e₂).mp h₂)).symm
  · subst e₂
    obtain ⟨hkind, rfl⟩ := h.carries_self.mp h₂
    exact honly hkind hm id₁ ((h.carries_other e₁).mp h₁)
  · exact hunique m hm id₁ id₂ ((h.carries_other e₁).mp h₁) ((h.carries_other e₂).mp h₂)

theorem Puts.defaultImported
    (h : Puts env r r'.defaultServerId (keepDescription (nativeConfig env r r'.defaultServerId) config) r')
    (hkind : configTypeFromJson env config = .native) : DefaultImported env r config r' where
  listed := h.mem
  contents := by rw [h.contents, Function.update_self]
  carries := by
    rw [h.carries_self, configTypeFromJson_keepDescription, managedId_keepDescription]
    exact ⟨hkind, rfl⟩

structure Kept (env : Env) (r : Repository) : Prop where
  sound : Sound r
  minted : Minted env r
  unique : UniqueProfiles env r

theorem kept_of_puts (h : Kept env r) (hp : Puts env r id json r') (hsound : Sound r')
    (honly : configTypeFromJson env json = .native → managedId json ≠ "" →
      ∀ other, Carries env r other (managedId json) → other = id) : Kept env r' :=
  ⟨hsound, hp.minted h.minted, h.unique.puts hp honly⟩

theorem import_into (h : Kept env r) (htrimmed : trimmed (managedId config) = managedId config)
    (htarget : importTarget env config r ≠ "")
    (hr' : r' = setDefaultServer (importTarget env config r) (editServer env (importTarget env config r)
      (keepDescription (nativeConfig env r (importTarget env config r)) config) (configTypeFromJson env config) r)) :
    Imports env r config r' ∧ Kept env r' := by
  have hmem := (importTarget_mem h.sound.indexed config).resolve_left htarget
  have hkept : configTypeFromJson env (keepDescription (nativeConfig env r (importTarget env config r)) config) =
      configTypeFromJson env config := configTypeFromJson_keepDescription _ _
  obtain ⟨hputs, hdefault⟩ := (puts_editServer h.sound.indexed hmem hkept).setDefaultServer
  have hsound : Sound r' := hr' ▸ (h.sound.editServer _ _ _).setDefaultServer _
  rw [← hr'] at hputs hdefault
  refine ⟨⟨hputs.touchesOne, Puts.defaultImported (by rwa [hdefault])⟩, kept_of_puts h hputs hsound ?_⟩
  rw [configTypeFromJson_keepDescription, managedId_keepDescription]
  exact fun hkind hm other hother => importTarget_only h.sound.indexed h.unique htrimmed hm hkind hother

theorem import_new (hinj : Function.Injective env.uuid) (h : Kept env r) {json config : JsonObject}
    (honly : configTypeFromJson env json = .native → managedId json ≠ "" →
      ∀ id, ¬Carries env r id (managedId json))
    (hconfig : configTypeFromJson env config = .native → json = config)
    (hr' : r' = setDefaultServer (addServer env "" json (configTypeFromJson env json) r).1
      (addServer env "" json (configTypeFromJson env json) r).2) : Imports env r config r' ∧ Kept env r' := by
  obtain ⟨hadd, hnew⟩ := puts_addServer hinj h.sound.indexed h.minted (rfl : configTypeFromJson env json = _)
  obtain ⟨hputs, hdefault⟩ := hadd.setDefaultServer
  have hsound : Sound r' := hr' ▸ (h.sound.addServer _ _ _).setDefaultServer _
  rw [← hr'] at hputs hdefault
  refine ⟨⟨hputs.touchesOne, fun hkind => ?_⟩, kept_of_puts h hputs hsound ?_⟩
  · have hnone : nativeConfig env r r'.defaultServerId = none := by
      have hjson : r.serverJsonById r'.defaultServerId = none := by
        rw [hdefault, ← Option.isNone_iff_eq_none, h.sound.indexed.contains_iff]
        exact hnew
      rw [nativeConfig, hjson, Option.bind_none]
    refine Puts.defaultImported ?_ hkind
    rw [hnone, hdefault]
    exact hconfig hkind ▸ hputs
  · exact fun hkind hm other hother => absurd hother (honly hkind hm other)

theorem imports_refl (hkind : configTypeFromJson env config ≠ .native) : Imports env r config r :=
  ⟨⟨"", fun _ _ => rfl, .inl rfl⟩, fun h => absurd h hkind⟩

theorem importConfig_spec (hinj : Function.Injective env.uuid) (checksum : JsonObject → UInt16) (h : Kept env r)
    (htrimmed : trimmed (managedId config) = managedId config) :
    Imports env r config (importConfig env checksum config r).1 ∧ Kept env (importConfig env checksum config r).1 := by
  rw [importConfig]
  split
  · simp only
    split
    next htarget => exact import_into h htrimmed htarget rfl
    next htarget =>
      refine import_new hinj h (fun hkind hm id hid => ?_) (fun _ => rfl) rfl
      have hid' := importTarget_only h.sound.indexed h.unique htrimmed hm hkind hid
      exact (h.sound.indexed.named id (hid.mem h.sound.indexed)).1 (hid'.trans (not_not.mp htarget))
  next hfirst =>
    have hkind : (config.value "containers").toArray = [] := by
      by_contra hne
      exact hfirst (by rw [contains_of_toArray hne, Bool.or_true])
    have hnative : configTypeFromJson env config ≠ .native := fun hn => toArray_containers_of_native hn hkind
    split
    · simp only
      split
      · exact ⟨imports_refl hnative, h⟩
      · refine import_new hinj h (fun hn => ?_) (fun hn => absurd hn hnative) rfl
        refine absurd ?_ (toArray_containers_of_native hn)
        rw [JsonObject.value_insert_of_ne _ _ (by decide), hkind]
    · exact ⟨imports_refl hnative, h⟩

theorem Kept.setDefaultServer (h : Kept env r) (id : String) : Kept env (setDefaultServer id r) := by
  refine ⟨h.sound.setDefaultServer id, ?_, ?_⟩
  all_goals
    rw [Servers.setDefaultServer]
    split
  · exact h.minted
  · exact h.minted
  · exact h.unique
  · exact h.unique

theorem removeServer_serverJsonById (id other : String) :
    (removeServer id r).serverJsonById other = r.serverJsonById other ∨
      (removeServer id r).serverJsonById other = none := by
  have hupdate : Function.update r.serverJsonById id none other = r.serverJsonById other ∨
      Function.update r.serverJsonById id none other = none := by
    rw [Function.update_apply]
    split
    · exact .inr rfl
    · exact .inl rfl
  rw [removeServer]
  split
  · exact .inl rfl
  · simp only
    split
    · exact hupdate
    · exact hupdate

theorem Kept.removeServer (h : Kept env r) (id : String) : Kept env (removeServer id r) := by
  refine ⟨h.sound.removeServer id, ?_, ?_⟩
  · have hc := removeServer_spec h.sound.indexed id
    generalize Servers.removeServer id r = r' at hc
    cases hc with
    | refused => exact h.minted
    | saved hs =>
      intro other hother
      obtain ⟨n, hn, hid⟩ := h.minted other (List.mem_of_mem_erase (hs.ids ▸ hother))
      exact ⟨n, hs.drawn.symm ▸ hn, hid⟩
  · have hcarries : ∀ m other, Carries env (Servers.removeServer id r) other m → Carries env r other m := by
      intro m other hc
      rw [Carries, nativeConfig] at hc
      rcases removeServer_serverJsonById (r := r) id other with hjson | hjson
      · rwa [hjson] at hc
      · rw [hjson] at hc
        cases hc
    exact fun m hm id₁ id₂ h₁ h₂ => h.unique m hm id₁ id₂ (hcarries m id₁ h₁) (hcarries m id₂ h₂)

theorem kept_create (env : Env) {settings : Settings} (hempty : settings.serversList = []) :
    Kept env (create env settings 0) := by
  obtain ⟨d, hd⟩ := updateDefaultServerFromStorage_eq (clearServerStateMaps { settings, drawn := 0 })
  have hcreate : create env settings 0 =
      persistDefaultServerFields { clearServerStateMaps { settings, drawn := 0 } with defaultServerId := d } := by
    rw [create, loadFromStorage, hempty, List.foldl_nil, hd]
  refine ⟨sound_create env settings 0, ?_, ?_⟩
  · rw [hcreate]
    exact fun id hid => absurd hid List.not_mem_nil
  · rw [hcreate]
    intro m hm id₁ id₂ h₁
    cases h₁

theorem Kept.run (hinj : Function.Injective env.uuid) (checksum : JsonObject → UInt16) (h : Kept env r)
    {calls : List Call}
    (htrimmed : ∀ config, .importConfig config ∈ calls → trimmed (managedId config) = managedId config) :
    Kept env (calls.foldl (Call.run env checksum) r) ∧
    Along (Call.run env checksum) (fun r call => ∀ config, call = .importConfig config →
      Imports env r config (call.run env checksum r)) r calls := by
  induction calls generalizing r with
  | nil => exact ⟨h, trivial⟩
  | cons call calls ih =>
    have hrest := fun config hmem => htrimmed config (.tail _ hmem)
    have hcall : Kept env (call.run env checksum r) ∧
        ∀ config, call = .importConfig config → Imports env r config (call.run env checksum r) := by
      cases call with
      | importConfig config =>
        obtain ⟨himports, hkept⟩ := importConfig_spec hinj checksum h (htrimmed config (.head _))
        exact ⟨hkept, fun config' heq => by cases heq; exact himports⟩
      | removeServer id => exact ⟨h.removeServer id, fun _ heq => by cases heq⟩
      | setDefaultServer id => exact ⟨h.setDefaultServer id, fun _ heq => by cases heq⟩
    obtain ⟨hend, halong⟩ := ih hcall.1 hrest
    exact ⟨hend, hcall.2, halong⟩

end Imports

/-- From an empty repository, calls in any order leave each managed profile with one native server;
and each import touches one server at most and makes a native one the default. -/
theorem managed_profiles_unique (env : Env) (hinj : Function.Injective env.uuid) (checksum : JsonObject → UInt16)
    (settings : Settings) (hempty : settings.serversList = []) (calls : List Call)
    (htrimmed : ∀ config, .importConfig config ∈ calls → trimmed (managedId config) = managedId config) :
    UniqueProfiles env (calls.foldl (Call.run env checksum) (create env settings 0)) ∧
    Along (Call.run env checksum) (fun r call => ∀ config, call = .importConfig config →
      Imports env r config (call.run env checksum r)) (create env settings 0) calls := by
  obtain ⟨hkept, halong⟩ := (kept_create env hempty).run hinj checksum htrimmed
  exact ⟨hkept.unique, halong⟩

def sampleProfile (m hostName : String) : JsonObject :=
  [("containers", .array [.object [("wireguard", .object [("isThirdPartyConfig", .bool true)])]]),
    ("hostName", .string hostName), ("managedProfileId", .string m)]

/-- A profile that comes a second time takes the place of the first. -/
theorem managed_profiles_unique_renewed :
    ((([.importConfig (sampleProfile "p" "a.example"), .importConfig (sampleProfile "p" "b.example")] : List Call).foldl
      (Call.run sampleEnv fun _ => 0) (create sampleEnv ⟨[], "", 0⟩ 0)).orderedServerIds.length = 1) ∧
    UniqueProfiles sampleEnv
      (([.importConfig (sampleProfile "p" "a.example"), .importConfig (sampleProfile "p" "b.example")] : List Call).foldl
        (Call.run sampleEnv fun _ => 0) (create sampleEnv ⟨[], "", 0⟩ 0)) := by
  refine ⟨by decide +kernel, (managed_profiles_unique sampleEnv sampleEnv_injective (fun _ => 0) ⟨[], "", 0⟩ rfl _ ?_).1⟩
  intro config hconfig
  rcases List.mem_pair.mp hconfig with heq | heq
  · cases heq
    decide +kernel
  · cases heq
    decide +kernel

end TunnelCore.Import
