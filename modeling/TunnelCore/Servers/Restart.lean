import TunnelCore.Library.Runs
import TunnelCore.Servers.Consistency

namespace TunnelCore.Servers

open Text

def payload (val : Json) : JsonObject := withoutStorageServerId val.toObject

def storedIds (entries : List Json) : List String := entries.map fun val => readStorageServerId val.toObject

def contents (r : Repository) : List (Option JsonObject) :=
  r.orderedServerIds.map fun id => (r.serverJsonById id).map withoutStorageServerId

def restart (env : Env) (r : Repository) : Repository := create env r.settings r.drawn

def Settled (env : Env) (drawn : Nat) (id : String) : Prop := ∀ k, drawn ≤ k → id ≠ env.uuid k

theorem Settled.mono {env : Env} {m n : Nat} {id : String} (h : Settled env m id) (hmn : m ≤ n) : Settled env n id :=
  fun k hk => h k (hmn.trans hk)

theorem settled_empty (env : Env) (n : Nat) : Settled env n "" := fun k _ h => env.uuid_ne_empty k h.symm

section Loading

variable {env : Env} {r : Repository}

def Aligned (ids stored : List String) : Prop :=
  ∀ d ∈ stored, d ≠ "" → d ∈ ids ∧ ids.idxOf d = stored.idxOf d

/-- What loading these entries makes of an empty repository whose next id is the given one. -/
structure Loaded (env : Env) (drawn : Nat) (entries : List Json) (r : Repository) : Prop where
  indexed : Indexed r
  contents : contents r = entries.map fun val => some (payload val)
  settled : ∀ id ∈ r.orderedServerIds, Settled env r.drawn id
  origin : ∀ id ∈ r.orderedServerIds, id ∈ storedIds entries ∨ ∃ k, drawn ≤ k ∧ id = env.uuid k
  aligned : Aligned r.orderedServerIds (storedIds entries)
  drawn_le : drawn ≤ r.drawn

variable {entries : List Json}

theorem Loaded.length {drawn : Nat} (h : Loaded env drawn entries r) :
    r.orderedServerIds.length = entries.length := by
  have := congrArg List.length h.contents
  rwa [Servers.contents, List.length_map, List.length_map] at this

theorem contents_insertServer {id : String} (hid : id ∉ r.orderedServerIds) (json : JsonObject) :
    contents (insertServer id json r) = contents r ++ [some (withoutStorageServerId json)] := by
  have hlast : ((insertServer id json r).serverJsonById id).map withoutStorageServerId =
      some (withoutStorageServerId json) := by
    rw [insertServer]
    simp only [Function.update_self, Option.map_some, withoutStorageServerId_embed]
  have hrest : r.orderedServerIds.map (fun k => ((insertServer id json r).serverJsonById k).map withoutStorageServerId) =
      contents r := by
    apply List.map_congr_left
    intro k hk
    have hne : k ≠ id := fun h => hid (h ▸ hk)
    rw [insertServer]
    simp only [Function.update_of_ne hne]
  rw [contents, ← hlast, ← hrest]
  exact List.map_append

theorem loadEntry_eq (hindexed : Indexed r) (hsettled : ∀ id ∈ r.orderedServerIds, Settled env r.drawn id)
    (val : Json) :
    ∃ id drawn, loadEntry env r val = insertServer id (payload val) { r with drawn } ∧ id ∉ r.orderedServerIds ∧
      ((id = readStorageServerId val.toObject ∧ drawn = r.drawn) ∨
        (id = env.uuid r.drawn ∧ drawn = r.drawn + 1 ∧
          (readStorageServerId val.toObject = "" ∨ readStorageServerId val.toObject ∈ r.orderedServerIds))) := by
  have hinsert {id : String} {drawn : Nat}
      (heq : normalizedOrGeneratedServerId env (readStorageServerId val.toObject) r = (id, { r with drawn }))
      (hid : id ∉ r.orderedServerIds) : loadEntry env r val = insertServer id (payload val) { r with drawn } := by
    have hnone := (hindexed.contains_iff id).mpr hid
    rw [loadEntry]
    simp only [heq]
    rw [if_neg]
    · rfl
    · rw [not_or, Bool.not_eq_true, Option.isSome_eq_false_iff]
      exact ⟨hnone, configTypeFromJson_ne_invalid _ _⟩
  by_cases hfree : readStorageServerId val.toObject ≠ "" ∧ readStorageServerId val.toObject ∉ r.orderedServerIds
  · have heq : normalizedOrGeneratedServerId env (readStorageServerId val.toObject) r =
        (readStorageServerId val.toObject, { r with drawn := r.drawn }) := by
      have htrim : trimmed (readStorageServerId val.toObject) = readStorageServerId val.toObject := trimmed_trimmed _
      rw [normalizedOrGeneratedServerId, htrim, if_pos ⟨hfree.1, (hindexed.contains_iff _).mpr hfree.2⟩]
    exact ⟨_, _, hinsert heq hfree.2, hfree.2, .inl ⟨rfl, rfl⟩⟩
  · have heq : normalizedOrGeneratedServerId env (readStorageServerId val.toObject) r =
        (env.uuid r.drawn, { r with drawn := r.drawn + 1 }) := by
      have htrim : trimmed (readStorageServerId val.toObject) = readStorageServerId val.toObject := trimmed_trimmed _
      rw [normalizedOrGeneratedServerId, htrim, if_neg]
      rwa [hindexed.contains_iff]
    have hid : env.uuid r.drawn ∉ r.orderedServerIds := fun hmem => hsettled _ hmem r.drawn le_rfl rfl
    rw [not_and_or, not_not, not_not] at hfree
    exact ⟨_, _, hinsert heq hid, hid, .inr ⟨rfl, rfl, hfree⟩⟩

theorem storedIds_concat (entries : List Json) (val : Json) :
    storedIds (entries ++ [val]) = storedIds entries ++ [readStorageServerId val.toObject] := List.map_append

theorem Loaded.aligned_concat {drawn₀ : Nat} {s : Repository} {val : Json} {id : String}
    (h : Loaded env drawn₀ entries s) (hid : id ∉ s.orderedServerIds)
    (hown : readStorageServerId val.toObject ∉ storedIds entries → readStorageServerId val.toObject ≠ "" →
      id = readStorageServerId val.toObject) :
    Aligned (s.orderedServerIds ++ [id]) (storedIds (entries ++ [val])) := by
  intro d hd hne
  rw [storedIds_concat] at hd ⊢
  by_cases hold : d ∈ storedIds entries
  · obtain ⟨hmem, hidx⟩ := h.aligned d hold hne
    rw [List.idxOf_append_of_mem hmem, List.idxOf_append_of_mem hold]
    exact ⟨List.mem_append_left _ hmem, hidx⟩
  · obtain hd | hd := List.mem_append.mp hd
    · exact absurd hd hold
    · obtain rfl := List.mem_singleton.mp hd
      have hself := hown hold hne
      rw [← hself] at hold ⊢
      rw [List.idxOf_append_of_notMem hid, List.idxOf_append_of_notMem hold, h.length]
      exact ⟨List.mem_append_right _ (.head _), by simp [storedIds]⟩

theorem Loaded.loadEntry {drawn₀ : Nat} {s : Repository} (hinj : Function.Injective env.uuid)
    (h : Loaded env drawn₀ entries s) {val : Json} (hstored : Settled env drawn₀ (readStorageServerId val.toObject)) :
    Loaded env drawn₀ (entries ++ [val]) (loadEntry env s val) := by
  obtain ⟨id, drawn, heq, hid, hcases⟩ := loadEntry_eq h.indexed h.settled val
  have hle : s.drawn ≤ drawn := by
    obtain ⟨-, rfl⟩ | ⟨-, rfl, -⟩ := hcases <;> omega
  have hown : readStorageServerId val.toObject ∉ storedIds entries → readStorageServerId val.toObject ≠ "" →
      id = readStorageServerId val.toObject := by
    intro hnew hne
    obtain ⟨hself, -⟩ | ⟨-, -, hblank | hmem⟩ := hcases
    · exact hself
    · exact absurd hblank hne
    · obtain hold | ⟨k, hk, huuid⟩ := h.origin _ hmem
      · exact absurd hold hnew
      · exact absurd huuid (hstored k hk)
  have hsettled : Settled env drawn id := by
    obtain ⟨rfl, rfl⟩ | ⟨rfl, rfl, -⟩ := hcases
    · exact hstored.mono h.drawn_le
    · intro k hk heq'
      have := hinj heq'
      omega
  rw [heq]
  refine ⟨?_, ?_, ?_, ?_, h.aligned_concat hid hown, h.drawn_le.trans hle⟩
  · have hindexed : Indexed (Servers.loadEntry env s val) := h.indexed.loadEntry val
    rwa [heq] at hindexed
  · rw [contents_insertServer (r := { s with drawn }) hid, List.map_append]
    change Servers.contents s ++ _ = _
    rw [h.contents]
    simp [payload, withoutStorageServerId]
  · intro k hk
    obtain hk | hk := List.mem_append.mp hk
    · exact (h.settled k hk).mono hle
    · rw [List.mem_singleton.mp hk]
      exact hsettled
  · intro k hk
    rw [storedIds_concat]
    obtain hk | hk := List.mem_append.mp hk
    · obtain hold | hdrawn := h.origin k hk
      · exact .inl (List.mem_append_left _ hold)
      · exact .inr hdrawn
    · rw [List.mem_singleton.mp hk]
      obtain ⟨rfl, -⟩ | ⟨rfl, -, -⟩ := hcases
      · exact .inl (List.mem_append_right _ (.head _))
      · exact .inr ⟨_, h.drawn_le, rfl⟩

theorem loaded_foldl (hinj : Function.Injective env.uuid) (r : Repository) (entries : List Json)
    (hstored : ∀ d ∈ storedIds entries, Settled env r.drawn d) :
    Loaded env r.drawn entries (entries.foldl (loadEntry env) (clearServerStateMaps r)) := by
  induction entries using List.reverseRecOn with
  | nil =>
    refine ⟨indexed_clear r, rfl, ?_, ?_, ?_, le_rfl⟩
    · exact fun _ h => absurd h List.not_mem_nil
    · exact fun _ h => absurd h List.not_mem_nil
    · exact fun _ h => absurd h List.not_mem_nil
  | append_singleton entries val ih =>
    rw [storedIds_concat] at hstored
    rw [List.foldl_append, List.foldl_cons, List.foldl_nil]
    have hrest := ih fun d hd => hstored d (List.mem_append_left _ hd)
    exact hrest.loadEntry hinj (hstored _ (List.mem_append_right _ (.head _)))

end Loading

section Runs

variable {env : Env} {r : Repository}

structure Tracked (env : Env) (r : Repository) : Prop where
  sound : Sound r
  contents : contents r = r.settings.serversList.map fun val => some (payload val)
  aligned : Aligned r.orderedServerIds (storedIds r.settings.serversList)
  settled : ∀ id ∈ r.orderedServerIds, Settled env r.drawn id
  stored_settled : ∀ d ∈ storedIds r.settings.serversList, Settled env r.drawn d
  default_settled : Settled env r.drawn r.settings.defaultServerId
  default_stored : r.settings.defaultServerId ∈ storedIds r.settings.serversList → r.settings.defaultServerId ≠ "" →
    r.defaultServerId = r.settings.defaultServerId

variable {drawn : Nat} {settings : Settings}

theorem Tracked.draw (h : Tracked env r) (hle : r.drawn ≤ drawn) : Tracked env { r with drawn } where
  sound := ⟨h.sound.indexed.of_eq rfl rfl, h.sound.hasDefault⟩
  contents := h.contents
  aligned := h.aligned
  settled id hid := (h.settled id hid).mono hle
  stored_settled d hd := (h.stored_settled d hd).mono hle
  default_settled := h.default_settled.mono hle
  default_stored := h.default_stored

theorem Tracked.emit (h : Tracked env r) (signal : Signal) : Tracked env (emit signal r) where
  sound := h.sound.emit signal
  contents := h.contents
  aligned := h.aligned
  settled := h.settled
  stored_settled := h.stored_settled
  default_settled := h.default_settled
  default_stored := h.default_stored

theorem settled_default (h : Sound r) (hs : ∀ id ∈ r.orderedServerIds, Settled env r.drawn id) :
    Settled env r.drawn r.defaultServerId := by
  have hdefault := h.hasDefault
  rw [HasDefault] at hdefault
  split at hdefault
  · rw [hdefault]
    exact settled_empty env _
  · exact hs _ hdefault

theorem tracked_persist (hindexed : Indexed r)
    (hcontents : contents r = r.settings.serversList.map fun val => some (payload val))
    (haligned : Aligned r.orderedServerIds (storedIds r.settings.serversList))
    (hsettled : ∀ id ∈ r.orderedServerIds, Settled env r.drawn id)
    (hstored : ∀ d ∈ storedIds r.settings.serversList, Settled env r.drawn d) :
    Tracked env (persistDefaultServerFields r) where
  sound := hindexed.persist
  contents := hcontents
  aligned := haligned
  settled := hsettled
  stored_settled := hstored
  default_settled := settled_default (r := persistDefaultServerFields r) hindexed.persist hsettled
  default_stored _ _ := rfl

theorem serversArray_eq (h : Indexed r) :
    serversArray r = r.orderedServerIds.map fun id => .object ((r.serverJsonById id).getD []) := by
  rw [serversArray]
  have hmap : r.orderedServerIds.filterMap r.serverJsonById =
      r.orderedServerIds.map fun id => (r.serverJsonById id).getD [] := by
    rw [← List.filterMap_eq_map]
    apply List.filterMap_congr
    intro id hid
    obtain ⟨json, hjson⟩ := Option.isSome_iff_exists.mp ((h.keys id).mp hid)
    rw [Function.comp_apply, hjson, Option.getD_some]
  rw [hmap, List.map_map]
  rfl

theorem storedIds_serversArray (h : Indexed r) : storedIds (serversArray r) = r.orderedServerIds := by
  rw [serversArray_eq h, storedIds, List.map_map]
  conv_rhs => rw [← List.map_id r.orderedServerIds]
  apply List.map_congr_left
  intro id hid
  obtain ⟨json, hjson⟩ := Option.isSome_iff_exists.mp ((h.keys id).mp hid)
  have hvalue : json.value storageServerId = .string id := by
    rw [h.embedded id json hjson]
    exact JsonObject.value_insert _ _ _
  simp only [Function.comp_apply, hjson, Option.getD_some, Json.toObject, readStorageServerId, hvalue, Json.toString]
  exact (h.named id hid).2

theorem contents_serversArray (h : Indexed r) :
    contents r = (serversArray r).map fun val => some (payload val) := by
  rw [serversArray_eq h, contents, List.map_map]
  apply List.map_congr_left
  intro id hid
  obtain ⟨json, hjson⟩ := Option.isSome_iff_exists.mp ((h.keys id).mp hid)
  simp only [Function.comp_apply, hjson, Option.getD_some, Json.toObject, payload, Option.map_some]

theorem aligned_self (ids : List String) : Aligned ids ids := fun _ hd _ => ⟨hd, rfl⟩

theorem tracked_sync (h : Indexed r) (hsettled : ∀ id ∈ r.orderedServerIds, Settled env r.drawn id) :
    Tracked env (syncToStorage r) := by
  have h' : Indexed { r with settings := { r.settings with serversList := serversArray r } } := h.of_eq rfl rfl
  refine tracked_persist h' (contents_serversArray h') ?_ hsettled ?_
  · change Aligned r.orderedServerIds (storedIds (serversArray r))
    rw [storedIds_serversArray h]
    exact aligned_self _
  · change ∀ d ∈ storedIds (serversArray r), Settled env r.drawn d
    rw [storedIds_serversArray h]
    exact hsettled

theorem loadEntry_settings (env : Env) (r : Repository) (val : Json) : (loadEntry env r val).settings = r.settings := by
  obtain ⟨id, drawn, heq, -⟩ := normalizedOrGeneratedServerId_eq env (readStorageServerId val.toObject) r
  rw [loadEntry]
  simp only [heq]
  split <;> rfl

theorem foldl_loadEntry_settings (env : Env) (r : Repository) (entries : List Json) :
    (entries.foldl (loadEntry env) r).settings = r.settings := by
  induction entries generalizing r with
  | nil => rfl
  | cons val entries ih => rw [List.foldl_cons, ih, loadEntry_settings]

theorem exists_loaded (hinj : Function.Injective env.uuid) (r : Repository)
    (hstored : ∀ d ∈ storedIds r.settings.serversList, Settled env r.drawn d) :
    ∃ s, loadFromStorage env r = updateDefaultServerFromStorage s ∧ s.settings = r.settings ∧
      Loaded env r.drawn r.settings.serversList s :=
  ⟨_, rfl, foldl_loadEntry_settings env (clearServerStateMaps r) _, loaded_foldl hinj r _ hstored⟩

theorem Loaded.in_storage {s : Repository}
    (h : Loaded env drawn settings.serversList s) (hsettings : s.settings = settings)
    (hstored : ∀ d ∈ storedIds settings.serversList, Settled env drawn d) :
    (Servers.contents s = s.settings.serversList.map fun val => some (payload val)) ∧
      Aligned s.orderedServerIds (storedIds s.settings.serversList) ∧
      ∀ d ∈ storedIds s.settings.serversList, Settled env s.drawn d := by
  subst hsettings
  exact ⟨h.contents, h.aligned, fun d hd => (hstored d hd).mono h.drawn_le⟩

theorem tracked_create (hinj : Function.Injective env.uuid)
    (hstored : ∀ d ∈ storedIds settings.serversList, Settled env drawn d) : Tracked env (create env settings drawn) := by
  obtain ⟨s, hload, hsettings, h⟩ := exists_loaded hinj { settings, drawn } hstored
  obtain ⟨d, hd⟩ := updateDefaultServerFromStorage_eq s
  obtain ⟨hcontents, haligned, hsettled⟩ := h.in_storage hsettings hstored
  rw [create, hload, hd]
  exact tracked_persist (h.indexed.of_eq rfl rfl) hcontents haligned h.settled hsettled

theorem Tracked.invalidateCache (hinj : Function.Injective env.uuid) (h : Tracked env r) :
    Tracked env (invalidateCache env r) := by
  obtain ⟨s, hload, hsettings, hs⟩ := exists_loaded hinj r h.stored_settled
  obtain ⟨d, hd⟩ := updateDefaultServerFromStorage_eq s
  obtain ⟨hcontents, haligned, hsettled⟩ := hs.in_storage hsettings h.stored_settled
  have hsound := sound_load env r
  have hdefault : r.settings.defaultServerId ∈ storedIds r.settings.serversList → r.settings.defaultServerId ≠ "" →
      d = r.settings.defaultServerId := by
    intro hmem hne
    have hin := (hs.indexed.keys _).mp (hs.aligned _ hmem hne).1
    have hset : (updateDefaultServerFromStorage s).defaultServerId = s.settings.defaultServerId := by
      rw [updateDefaultServerFromStorage, if_pos]
      rw [hsettings]
      exact ⟨hne, hin⟩
    rw [hd, hsettings] at hset
    exact hset
  rw [hload, hd] at hsound
  rw [Servers.invalidateCache, hload, hd]
  refine ⟨hsound, hcontents, haligned, hs.settled, hsettled, ?_, ?_⟩
  · change Settled env s.drawn s.settings.defaultServerId
    rw [hsettings]
    exact h.default_settled.mono hs.drawn_le
  · change s.settings.defaultServerId ∈ storedIds s.settings.serversList → s.settings.defaultServerId ≠ "" →
      d = s.settings.defaultServerId
    rw [hsettings]
    exact hdefault

def Names (env : Env) (r : Repository) : Operation → Prop
  | .addServer id _ _ => Settled env r.drawn (trimmed id)
  | _ => True

theorem normalizedOrGeneratedServerId_settled (hinj : Function.Injective env.uuid) {candidateId : String}
    (hc : Settled env r.drawn (trimmed candidateId)) :
    r.drawn ≤ (normalizedOrGeneratedServerId env candidateId r).2.drawn ∧
      Settled env (normalizedOrGeneratedServerId env candidateId r).2.drawn
        (normalizedOrGeneratedServerId env candidateId r).1 := by
  rw [normalizedOrGeneratedServerId]
  split
  · exact ⟨le_rfl, hc⟩
  · refine ⟨Nat.le_succ _, fun k hk heq => ?_⟩
    have := hinj heq
    change r.drawn + 1 ≤ k at hk
    omega

theorem Changes.tracked {ids : List String} {r' : Repository} (hc : Changes r ids drawn r') (h : Tracked env r)
    (hle : r.drawn ≤ drawn) (hsettled : ∀ id ∈ ids, Settled env drawn id) : Tracked env r' := by
  cases hc with
  | refused => exact h.draw hle
  | saved hs =>
    apply Tracked.emit
    apply tracked_sync hs.indexed
    rw [hs.ids, hs.drawn]
    exact hsettled

theorem Tracked.addServer (hinj : Function.Injective env.uuid) (h : Tracked env r) {id : String}
    (hc : Settled env r.drawn (trimmed id)) (json : JsonObject) (kind : ConfigType) :
    Tracked env (addServer env id json kind r).2 := by
  obtain ⟨hle, hid⟩ := normalizedOrGeneratedServerId_settled hinj hc
  obtain ⟨id', drawn, hdrawn, hchanges⟩ := addServer_spec env h.sound.indexed id json kind
  rw [hdrawn] at hle hid
  refine hchanges.tracked h hle fun k hk => ?_
  obtain hk | hk := List.mem_append.mp hk
  · exact (h.settled k hk).mono hle
  · rw [List.mem_singleton.mp hk]
    exact hid

theorem Tracked.editServer (h : Tracked env r) (id : String) (json : JsonObject) (kind : ConfigType) :
    Tracked env (editServer env id json kind r) :=
  (editServer_spec env h.sound.indexed id json kind).tracked h le_rfl h.settled

theorem Tracked.removeServer (h : Tracked env r) (id : String) : Tracked env (removeServer id r) :=
  (removeServer_spec h.sound.indexed id).tracked h le_rfl fun k hk => h.settled k (List.mem_of_mem_erase hk)

theorem Tracked.setDefaultServer (h : Tracked env r) (id : String) : Tracked env (setDefaultServer id r) := by
  rw [Servers.setDefaultServer]
  split
  · exact h
  · apply Tracked.emit
    exact tracked_persist (r := { r with defaultServerId := id }) (h.sound.indexed.of_eq rfl rfl) h.contents h.aligned
      h.settled h.stored_settled

theorem tracked_clearServers (env : Env) (r : Repository) : Tracked env (clearServers r) :=
  tracked_sync (r := { clearServerStateMaps r with defaultServerId := "" }) ((indexed_clear r).of_eq rfl rfl)
    fun _ hk => absurd hk List.not_mem_nil

theorem Tracked.step (hinj : Function.Injective env.uuid) (h : Tracked env r) {operation : Operation}
    (hn : Names env r operation) : Tracked env (step env r operation) := by
  cases operation with
  | addServer id json kind => exact h.addServer hinj hn json kind
  | editServer id json kind => exact h.editServer id json kind
  | removeServer id => exact h.removeServer id
  | setDefaultServer id => exact h.setDefaultServer id
  | clearServers => exact tracked_clearServers env r
  | invalidateCache => exact h.invalidateCache hinj

theorem tracked_run (hinj : Function.Injective env.uuid) {operations : List Operation}
    (hstored : ∀ d ∈ storedIds settings.serversList, Settled env 0 d)
    (hnames : Along (step env) (Names env) (create env settings 0) operations) :
    Tracked env (run env settings operations) :=
  hnames.foldl (fun _ _ h hn => h.step hinj hn) (tracked_create hinj hstored)

end Runs

section Restart

variable {env : Env} {r : Repository}

/-- Where a default that no entry carries ends up: its old index, or the first place. -/
def fallbackIndex (settings : Settings) (length : Nat) : Nat :=
  if 0 ≤ settings.defaultServerIndex ∧ settings.defaultServerIndex < length then settings.defaultServerIndex.toNat
  else 0

theorem idxOf_getD {l : List String} (hl : l.Nodup) {i : Nat} (hi : i < l.length) : l.idxOf (l.getD i "") = i := by
  rw [List.getD_eq_getElem l "" hi]
  exact hl.idxOf_getElem i hi

theorem persist_defaultServerIndex (h : HasDefault r) :
    defaultServerIndex (persistDefaultServerFields r) = defaultServerIndex r := by
  rw [HasDefault] at h
  have hsame : (persistDefaultServerFields r).defaultServerId = r.defaultServerId := by
    rw [persistDefaultServerFields]
    dsimp only
    split at h
    next hempty => rw [if_pos hempty, h]
    next hne => rw [if_neg hne, if_neg (not_not.mpr h)]
  rw [defaultServerIndex, hsame]
  rfl

theorem updateDefault_defaultServerIndex (h : Indexed r) :
    defaultServerIndex (updateDefaultServerFromStorage r) =
      if r.settings.defaultServerId ∈ r.orderedServerIds then r.orderedServerIds.idxOf r.settings.defaultServerId
      else fallbackIndex r.settings r.orderedServerIds.length := by
  rw [updateDefaultServerFromStorage]
  by_cases hmem : r.settings.defaultServerId ∈ r.orderedServerIds
  · rw [if_pos hmem, if_pos ⟨(h.named _ hmem).1, (h.keys _).mp hmem⟩]
    exact if_pos hmem
  · rw [if_neg hmem, if_neg fun hc => hmem ((h.keys _).mpr hc.2), fallbackIndex]
    split
    next hindex =>
      have hlt : r.settings.defaultServerIndex.toNat < r.orderedServerIds.length := by omega
      exact (if_pos (getD_mem hlt)).trans (idxOf_getD h.nodup hlt)
    · rw [defaultServerIndex]
      dsimp only
      split
      next hhead =>
        cases hids : r.orderedServerIds with
        | nil => rfl
        | cons id ids => exact List.idxOf_cons_self
      · rfl

theorem restart_spec (hinj : Function.Injective env.uuid) (h : Tracked env r) :
    contents (restart env r) = contents r ∧
      (defaultServerIndex (restart env r) = defaultServerIndex r ↔
        r.settings.defaultServerId ∈ storedIds r.settings.serversList ∧ r.settings.defaultServerId ≠ "" ∨
          fallbackIndex r.settings r.orderedServerIds.length = defaultServerIndex r) := by
  obtain ⟨s, hload, hsettings, hs⟩ :=
    exists_loaded hinj { settings := r.settings, drawn := r.drawn } h.stored_settled
  obtain ⟨d, hd⟩ := updateDefaultServerFromStorage_eq s
  have hcontents : contents s = contents r := hs.contents.trans h.contents.symm
  have hlength : s.orderedServerIds.length = r.orderedServerIds.length := by
    have := congrArg List.length hcontents
    rwa [contents, contents, List.length_map, List.length_map] at this
  have hindex : defaultServerIndex (restart env r) =
      if r.settings.defaultServerId ∈ s.orderedServerIds then s.orderedServerIds.idxOf r.settings.defaultServerId
      else fallbackIndex r.settings r.orderedServerIds.length := by
    rw [restart, create, hload, persist_defaultServerIndex (hasDefault_updateDefault hs.indexed),
      updateDefault_defaultServerIndex hs.indexed, hsettings, hlength]
  refine ⟨?_, ?_⟩
  · rw [restart, create, hload, hd]
    exact hcontents
  by_cases hcarried : r.settings.defaultServerId ∈ storedIds r.settings.serversList ∧ r.settings.defaultServerId ≠ ""
  · obtain ⟨hmem, hne⟩ := hcarried
    obtain ⟨hs_mem, hs_idx⟩ := hs.aligned _ hmem hne
    obtain ⟨hr_mem, hr_idx⟩ := h.aligned _ hmem hne
    have hold : defaultServerIndex r = r.orderedServerIds.idxOf r.settings.defaultServerId := by
      rw [defaultServerIndex, h.default_stored hmem hne, if_pos hr_mem]
    rw [hindex, if_pos hs_mem, hs_idx, hold, hr_idx]
    exact ⟨fun _ => .inl ⟨hmem, hne⟩, fun _ => rfl⟩
  · have hout : r.settings.defaultServerId ∉ s.orderedServerIds := by
      intro hmem
      obtain hstored | ⟨k, hk, huuid⟩ := hs.origin _ hmem
      · exact hcarried ⟨hstored, (hs.indexed.named _ hmem).1⟩
      · exact h.default_settled k hk huuid
    rw [hindex, if_neg hout]
    exact ⟨.inr, fun hor => hor.resolve_left hcarried⟩

theorem restart_preserves_iff (env : Env) (hinj : Function.Injective env.uuid) (settings : Settings)
    (operations : List Operation) (hstored : ∀ d ∈ storedIds settings.serversList, ∀ k, d ≠ env.uuid k)
    (hnames : Along (step env) (Names env) (create env settings 0) operations) :
    contents (restart env (run env settings operations)) = contents (run env settings operations) ∧
      (defaultServerIndex (restart env (run env settings operations)) =
          defaultServerIndex (run env settings operations) ↔
        (run env settings operations).settings.defaultServerId ∈
            storedIds (run env settings operations).settings.serversList ∧
          (run env settings operations).settings.defaultServerId ≠ "" ∨
        fallbackIndex (run env settings operations).settings (run env settings operations).orderedServerIds.length =
          defaultServerIndex (run env settings operations)) :=
  restart_spec hinj (tracked_run hinj (fun d hd k _ => hstored d hd k) hnames)

theorem sampleEnv_injective : Function.Injective sampleEnv.uuid := by
  intro m n h
  have := congrArg (fun s : String => s.toList.length) h
  simpa [sampleEnv] using this

theorem restart_preserves_sample :
    Function.Injective sampleEnv.uuid ∧
      defaultServerIndex
          (restart sampleEnv (run sampleEnv ⟨[], "", 0⟩ [.addServer "" (sampleServer "a.example") .selfHostedUser])) =
        defaultServerIndex
          (run sampleEnv ⟨[], "", 0⟩ [.addServer "" (sampleServer "a.example") .selfHostedUser]) := by
  refine ⟨sampleEnv_injective, (restart_preserves_iff sampleEnv sampleEnv_injective ⟨[], "", 0⟩
    [.addServer "" (sampleServer "a.example") .selfHostedUser] ?_ ?_).2.mpr ?_⟩
  · exact fun d hd => absurd hd List.not_mem_nil
  · exact ⟨settled_empty sampleEnv _, trivial⟩
  · decide +kernel

/-- The ids drawn for two entries without one are not stored, so that the choice of the second is lost. -/
theorem restart_loses_default :
    Function.Injective sampleEnv.uuid ∧
      defaultServerIndex (run sampleEnv
          ⟨[.object (sampleServer "a.example"), .object (sampleServer "b.example")], "", 0⟩
          [.setDefaultServer (sampleEnv.uuid 1)]) = 1 ∧
      defaultServerIndex (restart sampleEnv (run sampleEnv
          ⟨[.object (sampleServer "a.example"), .object (sampleServer "b.example")], "", 0⟩
          [.setDefaultServer (sampleEnv.uuid 1)])) = 0 := by
  refine ⟨sampleEnv_injective, ?_, ?_⟩ <;> decide +kernel

end Restart

end TunnelCore.Servers
