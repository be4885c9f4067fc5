import TunnelCore.Library.Runs
import TunnelCore.Xray.ServerSetup
import Mathlib.Data.List.Nodup

namespace TunnelCore.Xray

variable (qt : Casing)

/-- The `settings` of the first inbound. Both editors of the server file refuse one without them, each with an error
of its own. -/
def firstSettings (invalid : ErrorCode) (serverConfig : JsonObject) : Except ErrorCode JsonObject :=
  if !serverConfig.contains "inbounds" then .error invalid
  else
    match (serverConfig.value "inbounds").toArray with
    | [] => .error invalid
    | inbound :: _ =>
      if !inbound.toObject.contains "settings" then .error invalid
      else .ok (inbound.toObject.value "settings").toObject

/-- The settings, the inbound, the array of inbounds and the file are put together again around the new clients. -/
def putClients (serverConfig : JsonObject) (clients : List Json) : JsonObject :=
  let inbounds := (serverConfig.value "inbounds").toArray
  let inbound := (inbounds.headD .null).toObject
  let settings := (inbound.value "settings").toObject
  let settings := settings.insert "clients" (.array clients)
  let inbound := inbound.insert "settings" (.object settings)
  serverConfig.insert "inbounds" (.array (inbounds.set 0 (.object inbound)))

def clientEntry (clientId flowValue : String) : Json :=
  .object (insertText (JsonObject.insert [] "id" (.string clientId)) "flow" flowValue)

def setFlow (flowValue : String) (c : JsonObject) : JsonObject :=
  if flowValue = "" then c.remove "flow" else c.insert "flow" (.string flowValue)

/-- A new client is appended; without one, the flow of every client is set, and the first of them must have an id. -/
def editClients (flowValue : String) (appendNewClient : Bool) (uuid : String) (clients : List Json) :
    Except ErrorCode (List Json × String) :=
  if appendNewClient then .ok (clients ++ [clientEntry uuid flowValue], uuid)
  else
    match clients with
    | [] => .error .xrayServerNoVlessClients
    | client :: _ =>
      let clientId := (client.toObject.value "id").toString
      if clientId = "" then .error .xrayServerNoVlessClients
      else .ok (clients.map fun v => .object (setFlow flowValue v.toObject), clientId)

def prefetchKeys (remote : Remote) (srv : XrayServerConfig) : Except ErrorCode (String × String) :=
  if effectiveSecurity srv = "reality" then readRealityKeyFiles remote else .ok ("", "")

def readServerFile (remote : Remote) (file : ServerFile) : Except ErrorCode ServerFile :=
  match remote.readError with
  | some error => .error error
  | none => .ok file

def parseServerConfig : ServerFile → Except ErrorCode JsonObject
  | some (.object serverConfig) => .ok serverConfig
  | _ => .error .xrayServerConfigInvalid

structure ServerEdit where
  serverConfig : JsonObject
  clientId : String
  publicKey : String
  shortId : String

/-- What is done before the upload. Settings without clients count as settings with an empty array of them. -/
def editServerConfig (remote : Remote) (srv : XrayServerConfig) (appendNewClient : Bool) (uuid : String)
    (file : ServerFile) : Except ErrorCode ServerEdit := do
  let (publicKey, shortId) ← prefetchKeys remote srv
  let currentConfig ← readServerFile remote file
  let serverConfig ← parseServerConfig currentConfig
  let settings ← firstSettings .xrayServerConfigInvalid serverConfig
  let (clients, clientId) ←
    editClients (effectiveClientFlow srv) appendNewClient uuid (settings.value "clients").toArray
  return ⟨putClients serverConfig clients, clientId, publicKey, shortId⟩

/-- The protocol configuration and the id the call returns, and the server file after it. -/
def applyServerSettingsToRemote (remote : Remote) (protocolConfig : Option XrayProtocolConfig)
    (appendNewClient : Bool) (uuid : String) (file : ServerFile) :
    Except ErrorCode (XrayProtocolConfig × Option String) × ServerFile :=
  match protocolConfig with
  | none => (.error .internalError, file)
  | some xrayCfg =>
    let srv := xrayCfg.serverConfig
    if srv.isThirdPartyConfig then (.ok (xrayCfg, xrayCfg.clientConfig.map (·.id)), file)
    else
      match editServerConfig remote srv appendNewClient uuid file with
      | .error error => (.error error, file)
      | .ok edit =>
        match remote.uploadError with
        | some error => (.error error, file)
        | none => (finish srv edit, some (.object edit.serverConfig))
where
  finish (srv : XrayServerConfig) (edit : ServerEdit) : Except ErrorCode (XrayProtocolConfig × Option String) := do
    if let some error := remote.restartError then throw error
    let updated ← buildClientProtocolConfig qt remote srv edit.clientId edit.publicKey edit.shortId
    return (updated, some edit.clientId)

def hasId (clientId : String) (client : Json) : Bool :=
  client.toObject.contains "id" && (client.toObject.value "id").toString = clientId

def clientIdAt (clientsTable : List Json) (row : Nat) : String :=
  ((clientsTable.getD row .null).toObject.value "clientId").toString

/-- The first client with the id goes; a file without any client is refused. -/
def removeClient (clientId : String) (file : ServerFile) : Except ErrorCode JsonObject :=
  match file with
  | none => .error .internalError
  | some doc => do
    let configObj := doc.toObject
    let settings ← firstSettings .internalError configObj
    if !settings.contains "clients" then throw .internalError
    let clients := (settings.value "clients").toArray
    if clients.isEmpty then throw .internalError
    return putClients configObj (clients.eraseP (hasId clientId))

structure Revocation where
  error : Option ErrorCode
  clientsTable : List Json
  file : ServerFile

def revokeXray (remote : Remote) (row : Int) (clientsTable : List Json) (file : ServerFile) : Revocation :=
  if row < 0 ∨ clientsTable.length ≤ row then ⟨some .internalError, clientsTable, file⟩
  else
    match readServerFile remote file >>= removeClient (clientIdAt clientsTable row.toNat) with
    | .error error => ⟨some error, clientsTable, file⟩
    | .ok configObj =>
      match remote.uploadError with
      | some error => ⟨some error, clientsTable, file⟩
      | none => ⟨remote.restartError, clientsTable.eraseIdx row.toNat, some (.object configObj)⟩

inductive Event
  | create (remote : Remote) (config : XrayProtocolConfig) (uuid : String)
  | revoke (remote : Remote) (row : Int) (clientsTable : List Json)

def Event.remote : Event → Remote
  | .create remote .. => remote
  | .revoke remote .. => remote

def creates (remote : Remote) (srv : XrayServerConfig) : Bool :=
  !srv.isThirdPartyConfig && (prefetchKeys remote srv).isOk && remote.readError = none

/-- The client a revocation is for: the row may lie outside the table, and the file may not be readable. -/
def revokedId (remote : Remote) (row : Int) (clientsTable : List Json) : Option String :=
  if 0 ≤ row ∧ row < clientsTable.length ∧ remote.readError = none then some (clientIdAt clientsTable row.toNat)
  else none

/-- What is known of the clients without the file: all ids that were created, and the clients not revoked since, in
the order of their creation, with their flows. -/
structure Ledger where
  created : List String := []
  live : List (String × String) := []

def Ledger.record (ledger : Ledger) : Event → Ledger
  | .create remote config uuid =>
    if creates remote config.serverConfig then
      ⟨ledger.created ++ [uuid], ledger.live ++ [(uuid, effectiveClientFlow config.serverConfig)]⟩
    else ledger
  | .revoke remote row clientsTable =>
    match revokedId remote row clientsTable with
    | some clientId => { ledger with live := ledger.live.filter (·.1 ≠ clientId) }
    | none => ledger

def Ledger.entries (ledger : Ledger) : List Json := ledger.live.map fun client => clientEntry client.1 client.2

def stepFile (file : ServerFile) : Event → ServerFile
  | .create remote config uuid => (applyServerSettingsToRemote qt remote (some config) true uuid file).2
  | .revoke remote row clientsTable => (revokeXray remote row clientsTable file).file

def step (s : Ledger × ServerFile) (event : Event) : Ledger × ServerFile := (s.1.record event, stepFile qt s.2 event)

/-- Ids are fresh, only created clients are revoked, and every upload succeeds. -/
def Permitted (original : List Json) (s : Ledger × ServerFile) (event : Event) : Prop :=
  event.remote.uploadError = none ∧
    match event with
    | .create _ _ uuid => uuid ∉ s.1.created ∧ ∀ client ∈ original, !hasId uuid client
    | .revoke remote row clientsTable => ∀ clientId ∈ revokedId remote row clientsTable, clientId ∈ s.1.created

def HasClients (serverConfig : JsonObject) (clients : List Json) : Prop :=
  ∃ inbound others settings, serverConfig.lookup "inbounds" = some (.array (.object inbound :: others)) ∧
    inbound.lookup "settings" = some (.object settings) ∧ settings.lookup "clients" = some (.array clients)

def ClientsEdited (before after : List Json) : JsonObject → JsonObject → Prop :=
  JsonObject.EditedAt "inbounds" <| Json.OnHead <| Json.OnObject <| JsonObject.EditedAt "settings" <| Json.OnObject <|
    JsonObject.EditedAt "clients" fun v v' => v = .array before ∧ v' = .array after

variable {before clients : List Json} {original config : JsonObject}

theorem HasClients.edited (h : HasClients config clients) : ClientsEdited clients clients config config := by
  obtain ⟨inbound, others, settings, hinbounds, hsettings, hclients⟩ := h
  have hinner := JsonObject.EditedAt.refl (R := fun v v' => v = .array clients ∧ v' = .array clients) hclients ⟨rfl, rfl⟩
  have hmiddle := JsonObject.EditedAt.refl (R := Json.OnObject _) hsettings ⟨settings, settings, rfl, rfl, hinner⟩
  exact .refl hinbounds ⟨_, _, others, rfl, rfl, inbound, inbound, rfl, rfl, hmiddle⟩

theorem ClientsEdited.hasClients (h : ClientsEdited before clients original config) : HasClients config clients := by
  obtain ⟨-, _, _, -, hinbounds, _, _, others, -, rfl, _, inbound, -, rfl, hinbound⟩ := h
  obtain ⟨-, _, _, -, hsettings, _, settings, -, rfl, hsettingsEdit⟩ := hinbound
  obtain ⟨-, _, _, -, hclients, -, rfl⟩ := hsettingsEdit
  exact ⟨inbound, others, settings, hinbounds, hsettings, hclients⟩

theorem ClientsEdited.put (h : ClientsEdited before clients original config) (added : List Json) :
    ClientsEdited before added original (putClients config added) := by
  refine JsonObject.EditedAt.insert h ?_
  rintro _ _ hinbounds ⟨x, _, others, rfl, rfl, inbound, inbound', rfl, rfl, hinbound⟩
  rw [JsonObject.value_of_lookup hinbounds]
  refine ⟨_, _, others, rfl, rfl, _, _, rfl, rfl, hinbound.insert ?_⟩
  rintro _ _ hsettings ⟨settings, settings', rfl, rfl, hsettingsEdit⟩
  simp only [Json.toArray, List.headD_cons, Json.toObject, JsonObject.value_of_lookup hsettings]
  exact ⟨_, _, rfl, rfl, hsettingsEdit.insert fun _ _ _ hvalues => ⟨hvalues.1, rfl⟩⟩

theorem firstSettings_of_hasClients (h : HasClients config clients) (invalid : ErrorCode) :
    ∃ settings, firstSettings invalid config = .ok settings ∧ settings.lookup "clients" = some (.array clients) := by
  obtain ⟨inbound, others, settings, hinbounds, hsettings, hclients⟩ := h
  refine ⟨settings, ?_, hclients⟩
  simp [firstSettings, JsonObject.contains_of_lookup hinbounds, JsonObject.value_of_lookup hinbounds, Json.toArray,
    Json.toObject, JsonObject.contains_of_lookup hsettings, JsonObject.value_of_lookup hsettings]

variable {remote : Remote}

theorem editServerConfig_of_hasClients (h : HasClients config clients) {srv : XrayServerConfig}
    {keys : String × String} (hkeys : prefetchKeys remote srv = .ok keys) (hread : remote.readError = none)
    (uuid : String) :
    editServerConfig remote srv true uuid (some (.object config)) =
      .ok ⟨putClients config (clients ++ [clientEntry uuid (effectiveClientFlow srv)]), uuid, keys.1, keys.2⟩ := by
  obtain ⟨settings, hsettings, hclients⟩ := firstSettings_of_hasClients h .xrayServerConfigInvalid
  simp [editServerConfig, hkeys, readServerFile, hread, parseServerConfig, hsettings, editClients,
    JsonObject.value_of_lookup hclients, Json.toArray, bind, Except.bind, pure, Except.pure]

theorem editServerConfig_error {srv : XrayServerConfig}
    (h : ¬((prefetchKeys remote srv).isOk = true ∧ remote.readError = none)) (uuid : String) (file : ServerFile) :
    ∃ error, editServerConfig remote srv true uuid file = .error error := by
  cases hkeys : prefetchKeys remote srv with
  | error error =>
    refine ⟨error, ?_⟩
    simp [editServerConfig, hkeys, bind, Except.bind]
  | ok keys =>
    cases hread : remote.readError with
    | none => exact absurd ⟨by rw [hkeys]; rfl, hread⟩ h
    | some error =>
      refine ⟨error, ?_⟩
      simp [editServerConfig, hkeys, readServerFile, hread, bind, Except.bind]

theorem file_create (h : HasClients config clients) (hupload : remote.uploadError = none)
    (xrayCfg : XrayProtocolConfig) (uuid : String) :
    (applyServerSettingsToRemote qt remote (some xrayCfg) true uuid (some (.object config))).2 =
      some (.object (if creates remote xrayCfg.serverConfig then
        putClients config (clients ++ [clientEntry uuid (effectiveClientFlow xrayCfg.serverConfig)]) else config)) := by
  by_cases hthird : xrayCfg.serverConfig.isThirdPartyConfig = true
  · simp [applyServerSettingsToRemote, creates, hthird]
  · by_cases hready : (prefetchKeys remote xrayCfg.serverConfig).isOk = true ∧ remote.readError = none
    · obtain ⟨hok, hread⟩ := hready
      cases hkeys : prefetchKeys remote xrayCfg.serverConfig with
      | error error =>
        rw [hkeys] at hok
        cases hok
      | ok keys =>
        have hedit := editServerConfig_of_hasClients h hkeys hread uuid
        rw [hkeys] at hok
        simp [applyServerSettingsToRemote, creates, hthird, hedit, hupload, hkeys, hread, hok]
    · obtain ⟨error, hedit⟩ := editServerConfig_error hready uuid (some (.object config))
      have hnot : creates remote xrayCfg.serverConfig = false := by
        simpa [creates, hthird] using hready
      simp [applyServerSettingsToRemote, hthird, hedit, hnot]

theorem removeClient_of_hasClients (h : HasClients config clients) (hne : clients ≠ []) (clientId : String) :
    removeClient clientId (some (.object config)) = .ok (putClients config (clients.eraseP (hasId clientId))) := by
  obtain ⟨settings, hsettings, hclients⟩ := firstSettings_of_hasClients h .internalError
  simp [removeClient, Json.toObject, hsettings, JsonObject.contains_of_lookup hclients,
    JsonObject.value_of_lookup hclients, Json.toArray, hne, bind, Except.bind, pure, Except.pure]

theorem removeClient_empty (h : HasClients config []) (clientId : String) :
    removeClient clientId (some (.object config)) = .error .internalError := by
  obtain ⟨settings, hsettings, hclients⟩ := firstSettings_of_hasClients h .internalError
  simp [removeClient, Json.toObject, hsettings, JsonObject.contains_of_lookup hclients,
    JsonObject.value_of_lookup hclients, Json.toArray, bind, Except.bind, throw, throwThe, MonadExceptOf.throw]

theorem file_revoke (h : HasClients config clients) (hupload : remote.uploadError = none) (row : Int)
    (clientsTable : List Json) :
    (revokeXray remote row clientsTable (some (.object config))).file =
      match revokedId remote row clientsTable with
      | some clientId =>
        if clients = [] then some (.object config)
        else some (.object (putClients config (clients.eraseP (hasId clientId))))
      | none => some (.object config) := by
  rw [revokeXray, revokedId]
  by_cases hrow : row < 0 ∨ clientsTable.length ≤ row
  · rw [if_pos hrow, if_neg (by omega)]
  rw [if_neg hrow]
  cases hread : remote.readError with
  | some error =>
    rw [if_neg (by simp), readServerFile, hread]
    rfl
  | none =>
    rw [if_pos (by simp; omega), readServerFile, hread]
    simp only [bind, Except.bind]
    by_cases hne : clients = []
    · rw [if_pos hne, removeClient_empty (hne ▸ h)]
    · rw [if_neg hne, removeClient_of_hasClients h hne]
      simp [hupload]

theorem hasId_clientEntry (clientId id flowValue : String) :
    hasId clientId (clientEntry id flowValue) = (id == clientId) := by
  have hid : (insertText (JsonObject.insert [] "id" (.string id)) "flow" flowValue).lookup "id" = some (.string id) := by
    rw [insertText, lookup_insertIf_of_ne _ _ _ (by decide), JsonObject.lookup_insert]
  rw [hasId, clientEntry]
  simp only [Json.toObject, JsonObject.contains_of_lookup hid, JsonObject.value_of_lookup hid, Json.toString,
    Bool.true_and]
  rfl

theorem eraseP_entries {live : List (String × String)} (h : (live.map Prod.fst).Nodup) (clientId : String) :
    (live.map fun client => clientEntry client.1 client.2).eraseP (hasId clientId) =
      (live.filter (·.1 ≠ clientId)).map fun client => clientEntry client.1 client.2 := by
  induction live with
  | nil => rfl
  | cons client live ih =>
    rw [List.map_cons, List.nodup_cons] at h
    by_cases hid : client.1 = clientId
    · have hrest : ∀ c ∈ live, decide (c.1 ≠ clientId) = true := by
        intro c hc
        refine decide_eq_true fun hsame => h.1 ?_
        rw [hid, ← hsame]
        exact List.mem_map_of_mem hc
      rw [List.map_cons, List.eraseP_cons_of_pos (by simp [hasId_clientEntry, hid]),
        List.filter_cons_of_neg (by simp [hid]), List.filter_eq_self.mpr hrest]
    · rw [List.map_cons, List.eraseP_cons_of_neg (by simp [hasId_clientEntry, hid]), ih h.2,
        List.filter_cons_of_pos (by simp [hid]), List.map_cons]

/-- The file holds the original clients and those of the ledger, whose ids tell all of them apart. -/
structure Tracks (original : JsonObject) (before : List Json) (s : Ledger × ServerFile) : Prop where
  file : ∃ config, s.2 = some (.object config) ∧ ClientsEdited before (before ++ s.1.entries) original config
  fresh : ∀ clientId ∈ s.1.created, ∀ client ∈ before, !hasId clientId client
  created : ∀ client ∈ s.1.live, client.1 ∈ s.1.created
  nodup : (s.1.live.map Prod.fst).Nodup

theorem Tracks.create {s : Ledger × ServerFile} (h : Tracks original before s)
    {xrayCfg : XrayProtocolConfig} {uuid : String} (hp : Permitted before s (.create remote xrayCfg uuid)) :
    Tracks original before (step qt s (.create remote xrayCfg uuid)) := by
  obtain ⟨ledger, file⟩ := s
  have hupload : remote.uploadError = none := hp.1
  obtain ⟨hnew, hforeign⟩ : uuid ∉ ledger.created ∧ ∀ client ∈ before, !hasId uuid client := hp.2
  obtain ⟨config, rfl, hedited⟩ := h.file
  have hfile := file_create qt hedited.hasClients hupload xrayCfg uuid
  rw [step, stepFile, hfile, Ledger.record]
  by_cases hcreates : creates remote xrayCfg.serverConfig = true
  · rw [if_pos hcreates, if_pos hcreates]
    refine ⟨⟨_, rfl, ?_⟩, ?_, ?_, ?_⟩
    · have hput := hedited.put (before ++ ledger.entries ++ [clientEntry uuid (effectiveClientFlow xrayCfg.serverConfig)])
      simpa [Ledger.entries] using hput
    · intro clientId hid
      obtain hold | hlast := List.mem_append.mp hid
      · exact h.fresh clientId hold
      · rw [List.mem_singleton.mp hlast]
        exact hforeign
    · intro client hclient
      obtain hold | hlast := List.mem_append.mp hclient
      · exact List.mem_append_left _ (h.created client hold)
      · rw [List.mem_singleton.mp hlast]
        exact List.mem_append_right _ (.head _)
    · have hlive : uuid ∉ ledger.live.map Prod.fst := by
        intro hmem
        obtain ⟨client, hclient, rfl⟩ := List.mem_map.mp hmem
        exact hnew (h.created client hclient)
      rw [List.map_append]
      exact List.Nodup.append h.nodup (List.nodup_singleton _) (List.disjoint_singleton.mpr hlive)
  · rw [if_neg hcreates, if_neg hcreates]
    exact h

theorem Tracks.revoke {s : Ledger × ServerFile} (h : Tracks original before s) {row : Int}
    {clientsTable : List Json} (hp : Permitted before s (.revoke remote row clientsTable)) :
    Tracks original before (step qt s (.revoke remote row clientsTable)) := by
  obtain ⟨ledger, file⟩ := s
  have hupload : remote.uploadError = none := hp.1
  have hcreated : ∀ clientId ∈ revokedId remote row clientsTable, clientId ∈ ledger.created := hp.2
  obtain ⟨config, rfl, hedited⟩ := h.file
  have hfile := file_revoke hedited.hasClients hupload row clientsTable
  rw [step, stepFile, hfile, Ledger.record]
  cases hid : revokedId remote row clientsTable with
  | none => exact h
  | some clientId =>
    have herase : (before ++ ledger.entries).eraseP (hasId clientId) =
        before ++ (ledger.live.filter (·.1 ≠ clientId)).map fun client => clientEntry client.1 client.2 := by
      have hold := h.fresh clientId (hcreated clientId hid)
      rw [List.eraseP_append_right _ fun client hclient => by simpa using hold client hclient, Ledger.entries,
        eraseP_entries h.nodup]
    have hsublist : (ledger.live.filter (·.1 ≠ clientId)).Sublist ledger.live := List.filter_sublist
    refine ⟨?_, h.fresh, fun client hclient => h.created client (hsublist.subset hclient),
      h.nodup.sublist (hsublist.map Prod.fst)⟩
    by_cases hempty : before ++ ledger.entries = []
    · -- the file without clients is refused, and there is nothing to remove from it
      refine ⟨config, if_pos hempty, ?_⟩
      rw [hempty, List.eraseP_nil] at herase
      rw [hempty] at hedited
      exact herase ▸ hedited
    · refine ⟨_, if_neg hempty, ?_⟩
      rw [herase]
      exact hedited.put _

/-- After any creations and revocations of created clients, the file is the original one except that the clients of
its first inbound are followed by the entries of the created clients that are left, in the order of their creation. -/
theorem serverFile_clients_edited (qt : Casing) {original : JsonObject} {clients : List Json} {events : List Event}
    (hshape : HasClients original clients)
    (hrun : Along (step qt) (Permitted clients) ({}, some (.object original)) events) :
    ∃ config, (events.foldl (step qt) ({}, some (.object original))).2 = some (.object config) ∧
      ClientsEdited clients
        (clients ++ (events.foldl (step qt) ({}, some (.object original))).1.entries) original config := by
  refine (hrun.foldl (I := Tracks original clients) (fun s event htracks hp => ?_) ?_).file
  · cases event with
    | create remote xrayCfg uuid => exact htracks.create qt hp
    | revoke remote row clientsTable => exact htracks.revoke qt hp
  · refine ⟨⟨original, rfl, ?_⟩, fun _ h => by simp at h, fun _ h => by simp at h, List.nodup_nil⟩
    simpa [Ledger.entries] using hshape.edited

def oneClientServer : JsonObject :=
  [("inbounds", .array [.object [("settings", .object [("clients", .array [.object [("id", .string "a")]])])]])]

def createTwoRevokeOne : List Event :=
  [.create oneLineRemote { serverConfig := {} } "b", .create oneLineRemote { serverConfig := {} } "c",
    .revoke oneLineRemote 0 [.object [("clientId", .string "b")]]]

theorem createTwoRevokeOne_permitted :
    Along (step asciiCasing) (Permitted [.object [("id", .string "a")]]) ({}, some (.object oneClientServer))
      createTwoRevokeOne := by
  refine ⟨⟨rfl, by decide, by decide⟩, ⟨rfl, by decide, by decide⟩, ⟨rfl, ?_⟩, trivial⟩
  intro clientId hid
  obtain rfl : "b" = clientId := Option.some.inj hid
  decide

theorem serverFile_clients_edited_three :
    ∃ config, (createTwoRevokeOne.foldl (step asciiCasing) ({}, some (.object oneClientServer))).2 =
        some (.object config) ∧
      ClientsEdited [.object [("id", .string "a")]]
        ([.object [("id", .string "a")]] ++
          (createTwoRevokeOne.foldl (step asciiCasing) ({}, some (.object oneClientServer))).1.entries)
        oneClientServer config :=
  serverFile_clients_edited asciiCasing ⟨_, _, _, rfl, rfl, rfl⟩ createTwoRevokeOne_permitted

end TunnelCore.Xray
