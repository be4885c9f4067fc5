import Mathlib.Data.List.GetD
import Mathlib.Data.List.Nodup
import TunnelCore.Servers.Repository

namespace TunnelCore.Servers

open Text

theorem gatewayType_ne_invalid (json : JsonObject) : gatewayType json ≠ some .invalid := by
  rw [gatewayType]
  split <;> simp

theorem apiType_ne_invalid (env : Env) (json : JsonObject) : apiType env json ≠ some .invalid := by
  rw [apiType]
  split
  · rw [telegramType]
    split
    · simp
    · split
      · simp
      · exact gatewayType_ne_invalid json
  · exact gatewayType_ne_invalid json
  · simp

theorem configTypeFromJson_ne_invalid (env : Env) (json : JsonObject) : configTypeFromJson env json ≠ .invalid := by
  rw [configTypeFromJson]
  cases h : apiType env json with
  | none =>
    simp only [Option.getD_none]
    split
    · simp
    · split <;> simp
  | some kind =>
    rintro rfl
    exact apiType_ne_invalid env json h

/-- The ids are the keys of the map, without duplicates, blank ones or ones that trimming changes, and every JSON is
one that `embedStorageServerId` has made. -/
structure Indexed (r : Repository) : Prop where
  nodup : r.orderedServerIds.Nodup
  keys : ∀ id, id ∈ r.orderedServerIds ↔ (r.serverJsonById id).isSome
  embedded : ∀ id json, r.serverJsonById id = some json →
    json = embedStorageServerId id (withoutStorageServerId json)
  named : ∀ id ∈ r.orderedServerIds, id ≠ "" ∧ trimmed id = id

def HasDefault (r : Repository) : Prop :=
  if r.orderedServerIds = [] then r.defaultServerId = "" else r.defaultServerId ∈ r.orderedServerIds

variable {env : Env} {r : Repository}

theorem withoutStorageServerId_embed (id : String) (json : JsonObject) :
    withoutStorageServerId (embedStorageServerId id json) = withoutStorageServerId json :=
  JsonObject.remove_insert json _ _

theorem embed_without (id : String) (json : JsonObject) :
    embedStorageServerId id (withoutStorageServerId json) = embedStorageServerId id json := by
  rw [embedStorageServerId, withoutStorageServerId, JsonObject.insert, JsonObject.remove_remove]
  rfl

theorem Indexed.contains_iff (h : Indexed r) (id : String) : (r.serverJsonById id).isNone ↔ id ∉ r.orderedServerIds := by
  rw [h.keys, Option.isNone_iff_eq_none, Option.isSome_iff_ne_none, not_not]

theorem normalizedOrGeneratedServerId_eq (env : Env) (candidateId : String) (r : Repository) :
    ∃ id drawn, normalizedOrGeneratedServerId env candidateId r = (id, { r with drawn }) ∧
      id ≠ "" ∧ trimmed id = id := by
  rw [normalizedOrGeneratedServerId]
  split
  next h => exact ⟨_, r.drawn, rfl, h.1, trimmed_trimmed candidateId⟩
  · exact ⟨_, _, rfl, env.uuid_ne_empty _, env.uuid_trimmed _⟩

theorem Indexed.insertServer (h : Indexed r) {id : String} (hnew : r.serverJsonById id = none)
    (hnamed : id ≠ "" ∧ trimmed id = id) (json : JsonObject) : Indexed (insertServer id json r) := by
  have hmem : id ∉ r.orderedServerIds := by
    rw [h.keys, hnew]
    exact Bool.false_ne_true
  constructor
  · exact List.nodup_append.mpr ⟨h.nodup, List.nodup_singleton id, fun a ha b hb hab =>
      hmem (List.mem_singleton.mp hb ▸ hab ▸ ha)⟩
  · intro k
    by_cases hk : k = id
    · subst hk
      simp [Servers.insertServer]
    · simp [Servers.insertServer, hk, h.keys]
  · intro k json' hjson
    by_cases hk : k = id
    · subst hk
      simp only [Servers.insertServer, Function.update_self, Option.some.injEq] at hjson
      rw [← hjson, withoutStorageServerId_embed, embed_without]
    · simp only [Servers.insertServer, Function.update_of_ne hk] at hjson
      exact h.embedded k json' hjson
  · intro k hk
    obtain hk | hk := List.mem_append.mp hk
    · exact h.named k hk
    · rw [List.mem_singleton.mp hk]
      exact hnamed

theorem Indexed.of_eq {r' : Repository} (h : Indexed r) (hids : r'.orderedServerIds = r.orderedServerIds)
    (hmap : r'.serverJsonById = r.serverJsonById) : Indexed r' := by
  obtain ⟨hnodup, hkeys, hembedded, hnamed⟩ := h
  constructor
  · rwa [hids]
  · rwa [hids, hmap]
  · rwa [hmap]
  · rwa [hids]

theorem indexed_clear (r : Repository) : Indexed (clearServerStateMaps r) where
  nodup := List.nodup_nil
  keys _ := by simp [clearServerStateMaps]
  embedded _ _ h := by simp [clearServerStateMaps] at h
  named _ h := absurd h List.not_mem_nil

theorem Indexed.loadEntry (h : Indexed r) (val : Json) : Indexed (loadEntry env r val) := by
  obtain ⟨id, drawn, heq, hnamed⟩ := normalizedOrGeneratedServerId_eq env (readStorageServerId val.toObject) r
  have h' : Indexed { r with drawn } := h.of_eq rfl rfl
  rw [Servers.loadEntry]
  simp only [heq]
  split
  · exact h'
  next hcond =>
    rw [not_or, Bool.not_eq_true, Option.isSome_eq_false_iff, Option.isNone_iff_eq_none] at hcond
    exact h'.insertServer hcond.1 hnamed _

theorem Indexed.foldl_loadEntry (h : Indexed r) (entries : List Json) :
    Indexed (entries.foldl (Servers.loadEntry env) r) := by
  induction entries generalizing r with
  | nil => exact h
  | cons val entries ih =>
    rw [List.foldl_cons]
    exact ih (h.loadEntry val)

theorem updateDefaultServerFromStorage_eq (r : Repository) :
    ∃ defaultServerId, updateDefaultServerFromStorage r = { r with defaultServerId } := by
  rw [updateDefaultServerFromStorage]
  split
  · exact ⟨_, rfl⟩
  · split <;> exact ⟨_, rfl⟩

theorem Indexed.loadFromStorage (env : Env) (r : Repository) : Indexed (loadFromStorage env r) := by
  obtain ⟨d, hd⟩ := updateDefaultServerFromStorage_eq
    (r.settings.serversList.foldl (Servers.loadEntry env) (clearServerStateMaps r))
  rw [Servers.loadFromStorage, hd]
  exact ((indexed_clear r).foldl_loadEntry _).of_eq rfl rfl

theorem headD_mem {l : List String} (h : l ≠ []) : l.headD "" ∈ l := by
  obtain ⟨a, l, rfl⟩ := List.exists_cons_of_ne_nil h
  exact .head _

theorem getD_mem {l : List String} {i : Nat} (h : i < l.length) : l.getD i "" ∈ l := by
  rw [List.getD_eq_getElem l "" h]
  exact List.getElem_mem h

theorem hasDefault_updateDefault (h : Indexed r) : HasDefault (updateDefaultServerFromStorage r) := by
  rw [updateDefaultServerFromStorage]
  split
  next hstored =>
    have hmem := (h.keys _).mpr hstored.2
    rw [HasDefault, if_neg (List.ne_nil_of_mem hmem)]
    exact hmem
  · split
    next hindex =>
      have hlt : r.settings.defaultServerIndex.toNat < r.orderedServerIds.length := by omega
      have hmem := getD_mem hlt
      rw [HasDefault, if_neg (List.ne_nil_of_mem hmem)]
      exact hmem
    · rw [HasDefault]
      split
      next hempty =>
        change r.orderedServerIds = [] at hempty
        change r.orderedServerIds.headD "" = ""
        rw [hempty]
        rfl
      next hne => exact headD_mem hne

theorem hasDefault_persist (r : Repository) : HasDefault (persistDefaultServerFields r) := by
  rw [HasDefault, persistDefaultServerFields]
  dsimp only
  split
  · rfl
  next hne =>
    split
    · exact headD_mem hne
    next hmem => exact not_not.mp hmem

structure Sound (r : Repository) : Prop where
  indexed : Indexed r
  hasDefault : HasDefault r

theorem Indexed.persist (h : Indexed r) : Sound (persistDefaultServerFields r) :=
  ⟨h.of_eq rfl rfl, hasDefault_persist r⟩

theorem Indexed.sync (h : Indexed r) : Sound (syncToStorage r) :=
  Indexed.persist (r := { r with settings := _ }) (h.of_eq rfl rfl)

theorem Sound.emit (h : Sound r) (signal : Signal) : Sound (emit signal r) := ⟨h.indexed.of_eq rfl rfl, h.hasDefault⟩

theorem sound_load (env : Env) (r : Repository) : Sound (loadFromStorage env r) :=
  ⟨Indexed.loadFromStorage env r, hasDefault_updateDefault ((indexed_clear r).foldl_loadEntry _)⟩

theorem sound_create (env : Env) (settings : Settings) (drawn : Nat) : Sound (create env settings drawn) :=
  (Indexed.loadFromStorage env { settings, drawn }).persist

theorem Indexed.update (h : Indexed r) {id : String} (hid : id ∈ r.orderedServerIds) (json : JsonObject) :
    Indexed { r with serverJsonById := Function.update r.serverJsonById id (some (embedStorageServerId id json)) } := by
  constructor
  · exact h.nodup
  · intro k
    by_cases hk : k = id
    · subst hk
      simpa using hid
    · simp [hk, h.keys]
  · intro k json' hjson
    by_cases hk : k = id
    · subst hk
      simp only [Function.update_self, Option.some.injEq] at hjson
      rw [← hjson, withoutStorageServerId_embed, embed_without]
    · simp only [Function.update_of_ne hk] at hjson
      exact h.embedded k json' hjson
  · exact h.named

theorem Indexed.erase (h : Indexed r) (id : String) :
    Indexed { r with
      serverJsonById := Function.update r.serverJsonById id none
      orderedServerIds := r.orderedServerIds.erase id } := by
  constructor
  · exact h.nodup.erase id
  · intro k
    by_cases hk : k = id
    · subst hk
      simp [h.nodup.not_mem_erase]
    · simp [hk, h.keys, List.mem_erase_of_ne hk]
  · intro k json hjson
    by_cases hk : k = id
    · subst hk
      simp at hjson
    · simp only [Function.update_of_ne hk] at hjson
      exact h.embedded k json hjson
  · exact fun k hk => h.named k (List.mem_of_mem_erase hk)

theorem editServer_rejected (h : Indexed r) (id : String) {json : JsonObject} {kind : ConfigType}
    (hkind : configTypeFromJson env (withoutStorageServerId json) ≠ kind) : editServer env id json kind r = r := by
  rw [editServer]
  split
  · rfl
  · split
    · rfl
    next oldJson hold =>
      have hput : Function.update (Function.update r.serverJsonById id none) id
          (some (embedStorageServerId id (withoutStorageServerId oldJson))) = r.serverJsonById := by
        rw [Function.update_idem, ← h.embedded id oldJson hold, ← hold, Function.update_eq_self]
      simp only [ne_eq, not_false_eq_true, if_true, configTypeFromJson_ne_invalid, true_and, hput]

theorem addServer_rejected (id : String) {json : JsonObject} {kind : ConfigType}
    (hkind : configTypeFromJson env (withoutStorageServerId json) ≠ kind) :
    ∃ drawn, (addServer env id json kind r).2 = { r with drawn } := by
  obtain ⟨id', drawn, heq, -⟩ := normalizedOrGeneratedServerId_eq env id r
  refine ⟨drawn, ?_⟩
  rw [addServer, heq]
  simp only [ne_eq, hkind, not_false_eq_true, or_true, if_true]

structure Saves (ids : List String) (drawn : Nat) (s : Repository) : Prop where
  indexed : Indexed s
  ids : s.orderedServerIds = ids
  drawn : s.drawn = drawn

/-- A change of the list is refused, though an id may have been drawn, or the list is saved. -/
inductive Changes (r : Repository) (ids : List String) (drawn : Nat) : Repository → Prop
  | refused : Changes r ids drawn { r with drawn }
  | saved {s : Repository} {signal : Signal} (hs : Saves ids drawn s) :
      Changes r ids drawn (emit signal (syncToStorage s))

theorem addServer_spec (env : Env) (h : Indexed r) (id : String) (json : JsonObject) (kind : ConfigType) :
    ∃ id' drawn, normalizedOrGeneratedServerId env id r = (id', { r with drawn }) ∧
      Changes r (r.orderedServerIds ++ [id']) drawn (addServer env id json kind r).2 := by
  obtain ⟨id', drawn, heq, hnamed⟩ := normalizedOrGeneratedServerId_eq env id r
  have hindexed : Indexed { r with drawn } := h.of_eq rfl rfl
  refine ⟨id', drawn, heq, ?_⟩
  rw [Servers.addServer, heq]
  dsimp only
  split
  · exact .refused
  next hcond =>
    rw [not_or, Bool.not_eq_true, Option.isSome_eq_false_iff, Option.isNone_iff_eq_none] at hcond
    have hinsert := hindexed.insertServer hcond.1 hnamed (withoutStorageServerId json)
    refine .saved ?_
    split
    · exact ⟨hinsert.of_eq rfl rfl, rfl, rfl⟩
    · exact ⟨hinsert, rfl, rfl⟩

theorem editServer_spec (env : Env) (h : Indexed r) (id : String) (json : JsonObject) (kind : ConfigType) :
    Changes r r.orderedServerIds r.drawn (editServer env id json kind r) := by
  by_cases hkind : configTypeFromJson env (withoutStorageServerId json) = kind
  · rw [Servers.editServer]
    split
    · exact .refused
    next hcond =>
      rw [not_or, not_not] at hcond
      split
      · exact .refused
      · simp only [hkind, ne_eq, not_true_eq_false, if_false, Function.update_idem]
        exact .saved ⟨h.update hcond.1 _, rfl, rfl⟩
  · rw [editServer_rejected h id hkind]
    exact .refused

theorem removeServer_spec (h : Indexed r) (id : String) :
    Changes r (r.orderedServerIds.erase id) r.drawn (removeServer id r) := by
  rw [Servers.removeServer]
  split
  · exact .refused
  · dsimp only
    rw [← List.erase_eq_eraseIdx_of_idxOf rfl]
    refine .saved ?_
    split
    · exact ⟨(h.erase id).of_eq rfl rfl, rfl, rfl⟩
    · exact ⟨(h.erase id).of_eq rfl rfl, rfl, rfl⟩

theorem Changes.sound {ids : List String} {drawn : Nat} {r' : Repository} (hc : Changes r ids drawn r') (h : Sound r) :
    Sound r' := by
  cases hc with
  | refused => exact ⟨h.indexed.of_eq rfl rfl, h.hasDefault⟩
  | saved hs => exact hs.indexed.sync.emit _

theorem Sound.addServer (h : Sound r) (id : String) (json : JsonObject) (kind : ConfigType) :
    Sound (addServer env id json kind r).2 := by
  obtain ⟨_, _, -, hc⟩ := addServer_spec env h.indexed id json kind
  exact hc.sound h

theorem Sound.editServer (h : Sound r) (id : String) (json : JsonObject) (kind : ConfigType) :
    Sound (editServer env id json kind r) := (editServer_spec env h.indexed id json kind).sound h

theorem Sound.removeServer (h : Sound r) (id : String) : Sound (removeServer id r) :=
  (removeServer_spec h.indexed id).sound h

theorem Sound.setDefaultServer (h : Sound r) (id : String) : Sound (setDefaultServer id r) := by
  rw [Servers.setDefaultServer]
  split
  · exact h
  · exact (Indexed.persist (r := { r with defaultServerId := id }) (h.indexed.of_eq rfl rfl)).emit _

theorem sound_clearServers (r : Repository) : Sound (clearServers r) :=
  Indexed.sync (r := { clearServerStateMaps r with defaultServerId := "" }) ((indexed_clear r).of_eq rfl rfl)

theorem Sound.step (h : Sound r) (operation : Operation) : Sound (step env r operation) := by
  cases operation with
  | addServer id json kind => exact h.addServer id json kind
  | editServer id json kind => exact h.editServer id json kind
  | removeServer id => exact h.removeServer id
  | setDefaultServer id => exact h.setDefaultServer id
  | clearServers => exact sound_clearServers r
  | invalidateCache => exact sound_load env r

theorem sound_run (env : Env) (settings : Settings) (operations : List Operation) :
    Sound (run env settings operations) :=
  List.foldlRecOn operations _ (sound_create env settings 0) fun _ h operation _ => h.step operation

/-- The three structures agree and the default is one of the servers. -/
structure Consistent (r : Repository) : Prop where
  nodup : r.orderedServerIds.Nodup
  keys : ∀ id, id ∈ r.orderedServerIds ↔ (r.serverJsonById id).isSome
  embeds : ∀ id json, r.serverJsonById id = some json → json.value storageServerId = .string id
  default_empty : r.defaultServerId = "" ↔ r.orderedServerIds = []
  default_mem : r.orderedServerIds ≠ [] → r.defaultServerId ∈ r.orderedServerIds

theorem Sound.consistent (h : Sound r) : Consistent r where
  nodup := h.indexed.nodup
  keys := h.indexed.keys
  embeds id json hjson := by
    rw [h.indexed.embedded id json hjson]
    exact JsonObject.value_insert _ _ _
  default_empty := by
    have hdefault := h.hasDefault
    rw [HasDefault] at hdefault
    split at hdefault
    next hempty => exact ⟨fun _ => hempty, fun _ => hdefault⟩
    next hne => exact ⟨fun hd => absurd hd (h.indexed.named _ hdefault).1, fun hempty => absurd hempty hne⟩
  default_mem hne := by
    have hdefault := h.hasDefault
    rwa [HasDefault, if_neg hne] at hdefault

def Goes (env : Env) (r : Repository) : Operation → Prop
  | .addServer id json kind =>
    ((normalizedOrGeneratedServerId env id r).2.serverJsonById (normalizedOrGeneratedServerId env id r).1).isNone ∧
      configTypeFromJson env (withoutStorageServerId json) = kind
  | .editServer id json kind =>
    id ∈ r.orderedServerIds ∧ configTypeFromJson env (withoutStorageServerId json) = kind
  | .removeServer id => id ∈ r.orderedServerIds
  | .clearServers => True
  | .setDefaultServer _ | .invalidateCache => False

def Stored (r : Repository) : Prop := r.settings.serversList = serversArray r

theorem stored_sync (r : Repository) : Stored (syncToStorage r) := rfl

theorem Stored.emit (h : Stored r) (signal : Signal) : Stored (emit signal r) := h

theorem stored_of_goes (h : Sound r) {operation : Operation} (hg : Goes env r operation) :
    Stored (step env r operation) := by
  cases operation with
  | addServer id json kind =>
    obtain ⟨hnew, rfl⟩ := hg
    rw [step, Servers.addServer]
    dsimp only
    rw [if_neg]
    · exact (stored_sync _).emit _
    · rw [not_or, not_or, Bool.not_eq_true, Option.isSome_eq_false_iff, not_not]
      exact ⟨hnew, configTypeFromJson_ne_invalid _ _, rfl⟩
  | editServer id json kind =>
    obtain ⟨hmem, rfl⟩ := hg
    obtain ⟨oldJson, hold⟩ := Option.isSome_iff_exists.mp ((h.indexed.keys id).mp hmem)
    have hcond : ¬ (id ∉ r.orderedServerIds ∨
        configTypeFromJson env (withoutStorageServerId json) = .invalid) := by
      rw [not_or, not_not]
      exact ⟨hmem, configTypeFromJson_ne_invalid _ _⟩
    rw [step, Servers.editServer, if_neg hcond, hold]
    simp only [ne_eq, not_true_eq_false, if_false]
    exact (stored_sync _).emit _
  | removeServer id =>
    have hcond : ¬ (id ∉ r.orderedServerIds ∨ (r.serverJsonById id).isNone) := by
      rw [h.indexed.contains_iff, or_self, not_not]
      exact hg
    rw [step, Servers.removeServer, if_neg hcond]
    exact (stored_sync _).emit _
  | clearServers => exact stored_sync _
  | setDefaultServer id => exact hg.elim
  | invalidateCache => exact hg.elim

/-- Ids, map, default and storage are the same; an id may have been drawn. -/
structure Unchanged (r r' : Repository) : Prop where
  orderedServerIds : r'.orderedServerIds = r.orderedServerIds
  serverJsonById : r'.serverJsonById = r.serverJsonById
  defaultServerId : r'.defaultServerId = r.defaultServerId
  settings : r'.settings = r.settings

theorem repository_consistent (env : Env) (settings : Settings) (operations : List Operation) :
    Consistent (run env settings operations) ∧
      (∀ id json kind, configTypeFromJson env (withoutStorageServerId json) ≠ kind →
        Unchanged (run env settings operations) (addServer env id json kind (run env settings operations)).2 ∧
        Unchanged (run env settings operations) (editServer env id json kind (run env settings operations))) ∧
      ∀ operation, Goes env (run env settings operations) operation →
        (step env (run env settings operations) operation).settings.serversList =
          serversArray (step env (run env settings operations) operation) := by
  have h := sound_run env settings operations
  refine ⟨h.consistent, ?_, fun operation hg => stored_of_goes h hg⟩
  intro id json kind hkind
  constructor
  · obtain ⟨drawn, hdrawn⟩ := addServer_rejected (r := run env settings operations) id hkind
    rw [hdrawn]
    exact ⟨rfl, rfl, rfl, rfl⟩
  · rw [editServer_rejected h.indexed id hkind]
    exact ⟨rfl, rfl, rfl, rfl⟩

def sampleEnv : Env where
  freeV2Endpoint := "free.example"
  premiumV1Endpoint := "premium.example"
  uuid n := .ofList (List.replicate (n + 1) 'a')
  uuid_ne_empty n h := by simpa using congrArg String.toList h
  uuid_trimmed n := by
    apply trimmed_of_forall
    intro c hc
    rw [String.toList_ofList] at hc
    rw [List.eq_of_mem_replicate hc]
    decide

def sampleServer (hostName : String) : JsonObject := [("hostName", .string hostName)]

/-- Two servers are added; the second becomes the default. -/
def sampleOperations : List Operation :=
  [.addServer "" (sampleServer "a.example") .selfHostedUser, .addServer "b" (sampleServer "b.example") .selfHostedUser,
    .setDefaultServer "b"]

theorem repository_consistent_sample :
    (run sampleEnv ⟨[], "", 0⟩ sampleOperations).orderedServerIds = ["a", "b"] ∧
      Consistent (run sampleEnv ⟨[], "", 0⟩ sampleOperations) ∧
      Unchanged (run sampleEnv ⟨[], "", 0⟩ sampleOperations)
        (editServer sampleEnv "a" (sampleServer "c.example") .native (run sampleEnv ⟨[], "", 0⟩ sampleOperations)) ∧
      (step sampleEnv (run sampleEnv ⟨[], "", 0⟩ sampleOperations) (.removeServer "b")).settings.serversList =
        serversArray (step sampleEnv (run sampleEnv ⟨[], "", 0⟩ sampleOperations) (.removeServer "b")) := by
  have hids : (run sampleEnv ⟨[], "", 0⟩ sampleOperations).orderedServerIds = ["a", "b"] := by decide +kernel
  have hkind : configTypeFromJson sampleEnv (withoutStorageServerId (sampleServer "c.example")) ≠ .native := by decide
  obtain ⟨hconsistent, hrejected, hstored⟩ := repository_consistent sampleEnv ⟨[], "", 0⟩ sampleOperations
  refine ⟨hids, hconsistent, (hrejected "a" _ .native hkind).2, hstored (.removeServer "b") ?_⟩
  rw [Goes, hids]
  decide

end TunnelCore.Servers
