import TunnelCore.Library.Hex
import TunnelCore.Update.Installer
import TunnelCore.Library.Runs
import Mathlib.Data.List.Basic

namespace TunnelCore.Update

structure Announcement where
  url : String
  sha256 : String
  size : Int
deriving DecidableEq

def State.announced (s : State) : Announcement := ⟨s.downloadUrl, s.expectedSha256, s.expectedSize⟩

/-- A state together with the announcement each download was started from. -/
structure Traced where
  state : State
  origins : List (Nat × Announcement)

variable (build : Build)

def traceStep (t : Traced) (event : Event) : Traced where
  state := step build t.state event
  origins :=
    if (step build t.state event).nextId = t.state.nextId then t.origins
    else (t.state.nextId, t.state.announced) :: t.origins

def trace (installer : Option (List UInt8)) (events : List Event) : Traced :=
  events.foldl (traceStep build) ⟨start installer, []⟩

/-- At most one download is in flight, the state says so, and it is verified against what was
announced with the URL it was started from. -/
structure OneAtATime (t : Traced) : Prop where
  single : t.state.downloads.length ≤ 1
  downloading : t.state.updateState = .downloading ↔ t.state.downloads ≠ []
  origin : ∀ d ∈ t.state.downloads, d.url = t.state.announced.url ∧ t.origins.lookup d.id = some t.state.announced

def accepted (data : JsonObject) : Bool :=
  let version := (data.value "updateVersion").toString
  !(!build.validVersion version || build.compareVersions version build.appVersion ≤ 0) &&
    releasePageAllowed build version (data.value "releasePageUrl").toString &&
    installerAllowed build version (data.value "downloadUrl").toString (build.toLower (data.value "sha256").toString)
      (data.value "downloadSize").toInteger

def resetsState (data : JsonObject) : Bool := !(data.value "updateAvailable").toBool || accepted build data

def MetadataReply.resets (reply : MetadataReply) : Bool :=
  !(reply.error || reply.status ≠ 200) &&
    match reply.document with
    | some (.object data) => resetsState build data
    | _ => false

def Undisturbed (s : State) : Event → Prop
  | .metadataFinished reply => s.updateCheckRunning = true → reply.resets build = true → s.downloads = []
  | _ => True

section

variable {build}

theorem metadataReceived_calm {data : JsonObject} (h : resetsState build data = false) (s : State) :
    ∃ signal, metadataReceived build data s = s.emit signal := by
  rw [resetsState, Bool.or_eq_false_iff] at h
  obtain ⟨havailable, haccepted⟩ := h
  rw [metadataReceived, havailable]
  simp only [accepted, Bool.and_eq_false_iff, Bool.not_eq_false'] at haccepted
  simp only [Bool.false_eq_true, if_false]
  split
  · exact ⟨_, rfl⟩
  next hversion =>
  split
  · exact ⟨_, rfl⟩
  next hpage =>
  split
  · exact ⟨_, rfl⟩
  next hinstaller =>
  rcases haccepted with (hv | hp) | hi
  · exact absurd hv hversion
  · exact absurd (by rw [hp]; rfl) hpage
  · exact absurd (by rw [hi]; rfl) hinstaller

theorem metadataReceived_resets {data : JsonObject} (h : resetsState build data = true) (s : State) :
    (metadataReceived build data s).updateState = .idle ∧ (metadataReceived build data s).downloads = s.downloads ∧
      (metadataReceived build data s).nextId = s.nextId := by
  rw [metadataReceived]
  cases havailable : (data.value "updateAvailable").toBool with
  | false => exact ⟨rfl, rfl, rfl⟩
  | true =>
    rw [resetsState, havailable, Bool.not_true, Bool.false_or, accepted] at h
    simp only [Bool.and_eq_true, Bool.not_eq_true'] at h
    obtain ⟨⟨hversion, hpage⟩, hinstaller⟩ := h
    simp only [hversion, hpage, hinstaller, Bool.not_true, Bool.false_eq_true, if_false]
    exact ⟨rfl, rfl, rfl⟩

def SameDownloads (s s' : State) : Prop :=
  s'.downloads = s.downloads ∧ s'.updateState = s.updateState ∧ s'.announced = s.announced ∧ s'.nextId = s.nextId

theorem metadataFinished_calm {reply : MetadataReply} (h : reply.resets build = false) (s : State) :
    SameDownloads s (metadataFinished build reply s) := by
  rw [metadataFinished]
  split
  · exact ⟨rfl, rfl, rfl, rfl⟩
  next hok =>
    rw [MetadataReply.resets, Bool.eq_false_iff.mpr hok, Bool.not_false, Bool.true_and] at h
    split
    next data hdoc =>
      rw [hdoc] at h
      obtain ⟨signal, he⟩ := metadataReceived_calm h { s with updateCheckRunning := false }
      rw [he]
      exact ⟨rfl, rfl, rfl, rfl⟩
    · exact ⟨rfl, rfl, rfl, rfl⟩

theorem metadataFinished_resets {reply : MetadataReply} (h : reply.resets build = true) (s : State) :
    (metadataFinished build reply s).updateState = .idle ∧ (metadataFinished build reply s).downloads = s.downloads ∧
      (metadataFinished build reply s).nextId = s.nextId := by
  rw [MetadataReply.resets, Bool.and_eq_true, Bool.not_eq_true'] at h
  obtain ⟨hok, hdata⟩ := h
  have hobject : ∃ data, reply.document = some (.object data) ∧ resetsState build data = true := by
    split at hdata
    next data hdoc => exact ⟨data, hdoc, hdata⟩
    · cases hdata
  obtain ⟨data, hdoc, hresets⟩ := hobject
  rw [metadataFinished, hok, if_neg Bool.false_ne_true, hdoc]
  exact metadataReceived_resets hresets { s with updateCheckRunning := false }

structure Single (build : Build) (t : Traced) : Prop extends OneAtATime t where
  platform : build.platform.downloads = false → t.state.downloads = []

theorem single_start (installer : Option (List UInt8)) : Single build ⟨start installer, []⟩ where
  single := Nat.zero_le _
  downloading := iff_of_false (by simp [start]) (by simp [start])
  origin _ hd := absurd hd List.not_mem_nil
  platform _ := rfl

variable {t : Traced} {event : Event} {s : State}

theorem traceStep_eq (hs : step build t.state event = s)
    (hn : s.nextId = t.state.nextId) : traceStep build t event = ⟨s, t.origins⟩ := by
  rw [traceStep, hs, if_pos hn]

theorem Single.same (h : Single build t) (hs : SameDownloads t.state s) :
    Single build ⟨s, t.origins⟩ := by
  obtain ⟨hd, hu, ha, -⟩ := hs
  refine ⟨⟨hd ▸ h.single, ?_, ?_⟩, hd ▸ h.platform⟩
  · rw [hu, hd]
    exact h.downloading
  · rw [hd, ha]
    exact h.origin

theorem single_idle (hd : s.downloads = []) (hu : s.updateState ≠ .downloading) : Single build ⟨s, t.origins⟩ := by
  refine ⟨⟨by simp [hd], iff_of_false hu (by simp [hd]), fun d hm => ?_⟩, fun _ => hd⟩
  rw [hd] at hm
  cases hm

theorem single_downloadInstaller (h : Single build t) {opens : Bool}
    (hs : step build t.state (.startUpdate opens) = downloadInstaller build opens t.state)
    (hp : build.platform.downloads = true) : Single build (traceStep build t (.startUpdate opens)) := by
  rw [downloadInstaller] at hs
  split at hs
  · rw [traceStep_eq hs rfl]
    exact h
  next hidle =>
    have hnone : t.state.downloads = [] := not_not.mp (mt h.downloading.mpr hidle)
    have herror : Single build ⟨t.state.setUpdateState .downloadError, t.origins⟩ :=
      single_idle hnone (by simp [State.setUpdateState])
    split at hs
    · rw [traceStep_eq hs rfl]
      exact herror
    · split at hs
      · rw [traceStep_eq hs rfl]
        exact herror
      · rw [traceStep, hs, if_neg (Nat.succ_ne_self _)]
        refine ⟨⟨?_, iff_of_true rfl (by simp), fun d hd => ?_⟩, fun hno => absurd hno (by simp [hp])⟩
        · simp [hnone]
        · simp only [hnone, List.nil_append, List.mem_singleton] at hd
          subst hd
          exact ⟨rfl, List.lookup_cons_self⟩

theorem single_startUpdate (h : Single build t) (opens : Bool) :
    Single build (traceStep build t (.startUpdate opens)) := by
  cases hstore : build.platform.isStoreUpdate with
  | true =>
    have hs : step build t.state (.startUpdate opens) = openStorePage build t.state := by
      rw [step, startUpdate, hstore, if_pos rfl]
    have hsame : SameDownloads t.state (openStorePage build t.state) := by
      rcases openStorePage_eq build t.state with he | ⟨url, he⟩ <;> rw [he] <;> exact ⟨rfl, rfl, rfl, rfl⟩
    rw [traceStep_eq hs hsame.2.2.2]
    exact h.same hsame
  | false =>
    cases hp : build.platform.downloads with
    | true =>
      refine single_downloadInstaller h ?_ hp
      rw [step, startUpdate, hstore, hp]
      rfl
    | false =>
      have hs : step build t.state (.startUpdate opens) =
          if tunnelCoreReleasePage (build.url t.state.releasePageUrl) then t.state.openUrl t.state.releasePageUrl
          else t.state.setUpdateState .downloadError := by
        rw [step, startUpdate, hstore, hp]
        rfl
      split at hs
      · rw [traceStep_eq hs rfl]
        exact h.same ⟨rfl, rfl, rfl, rfl⟩
      · rw [traceStep_eq hs rfl]
        exact single_idle (h.platform hp) (by simp [State.setUpdateState])

theorem drain_url (expectedSize : Int) (disk : Nat → Option Nat) (i : Nat) (d : Download) :
    (drain expectedSize disk i d).1.url = d.url := by
  fun_induction drain expectedSize disk i d with
  | case1 | case2 | case3 => rfl
  | case4 _ _ _ _ _ _ _ _ ih => exact ih

theorem downloads_eq (h : Single build t) {d : Download} (hd : d ∈ t.state.downloads) :
    t.state.downloads = [d] := by
  obtain ⟨e, he⟩ := List.length_eq_one_iff.mp (Nat.le_antisymm h.single (List.length_pos_of_mem hd))
  rw [he, List.mem_singleton] at hd
  rw [he, hd]

theorem single_downloadFinished {d e : Download} (hs : s.downloads = [e])
    (hid : e.id = d.id) (hn : s.nextId = t.state.nextId) (ending : DownloadEnd) (disk : Nat → Option Nat) :
    Single build ⟨downloadFinished build ending disk d s, t.origins⟩ ∧
      (downloadFinished build ending disk d s).nextId = t.state.nextId := by
  have hnone : s.downloads.filter (·.id ≠ (drain s.expectedSize disk 0 d).1.id) = [] := by
    rw [hs, drain_id]
    simp [hid]
  rw [downloadFinished]
  split
  · exact ⟨single_idle hnone (by simp [State.setUpdateState]), hn⟩
  · exact ⟨single_idle hnone (by simp [State.setUpdateState]), hn⟩

theorem single_downloadReady (h : Single build t) {d : Download} (hd : d ∈ t.state.downloads)
    (bytes : List UInt8) (disk : Nat → Option Nat) :
    Single build ⟨downloadReady build bytes disk d t.state, t.origins⟩ ∧
      (downloadReady build bytes disk d t.state).nextId = t.state.nextId := by
  have hid := drain_id t.state.expectedSize disk 0 { d with buffer := d.buffer ++ bytes }
  have hurl := drain_url t.state.expectedSize disk 0 { d with buffer := d.buffer ++ bytes }
  rw [downloadReady]
  generalize drain t.state.expectedSize disk 0 { d with buffer := d.buffer ++ bytes } = r at hid hurl
  obtain ⟨d', aborted⟩ := r
  dsimp only at hid hurl ⊢
  have hone := downloads_eq h hd
  have hdownloads : t.state.downloads.map (fun e => if e.id = d'.id then d' else e) = [d'] := by
    rw [hone, List.map_singleton, if_pos hid.symm]
  split
  · exact single_downloadFinished (s := { t.state with downloads := t.state.downloads.map _ }) hdownloads rfl rfl _ disk
  · rw [hdownloads]
    refine ⟨⟨⟨Nat.le_refl 1, iff_of_true ?_ (by simp), fun e he => ?_⟩, fun hp => ?_⟩, rfl⟩
    · exact h.downloading.mpr (by simp [hone])
    · rw [List.mem_singleton] at he
      subst he
      rw [hid, hurl]
      exact h.origin d hd
    · exact absurd (h.platform hp) (by simp [hone])

theorem single_find (h : Single build t) {id : Nat} {f : Download → State → State}
    (hs : step build t.state event = t.state.find id f)
    (hf : ∀ d ∈ t.state.downloads, Single build ⟨f d t.state, t.origins⟩ ∧ (f d t.state).nextId = t.state.nextId) :
    Single build (traceStep build t event) := by
  rw [State.find] at hs
  split at hs
  next d hd =>
    obtain ⟨hsingle, hn⟩ := hf d (List.mem_of_find?_eq_some hd)
    rw [traceStep_eq hs hn]
    exact hsingle
  · rw [traceStep_eq hs rfl]
    exact h

theorem single_step (h : Single build t) (he : Undisturbed build t.state event) :
    Single build (traceStep build t event) := by
  cases event with
  | checkForUpdates =>
    have hs : SameDownloads t.state (step build t.state .checkForUpdates) := by
      rw [step, State.checkForUpdates]
      split <;> exact ⟨rfl, rfl, rfl, rfl⟩
    rw [traceStep_eq rfl hs.2.2.2]
    exact h.same hs
  | startUpdate opens => exact single_startUpdate h opens
  | installUpdate =>
    have hs : SameDownloads t.state (step build t.state .installUpdate) := by
      rw [step, installUpdate]
      split <;> exact ⟨rfl, rfl, rfl, rfl⟩
    rw [traceStep_eq rfl hs.2.2.2]
    exact h.same hs
  | metadataFinished reply =>
    cases hrunning : t.state.updateCheckRunning with
    | false =>
      have hs : step build t.state (.metadataFinished reply) = t.state := by
        rw [step, hrunning]
        rfl
      rw [traceStep_eq hs rfl]
      exact h
    | true =>
      have hs : step build t.state (.metadataFinished reply) = metadataFinished build reply t.state := by
        rw [step, hrunning, if_pos rfl]
      cases hr : reply.resets build with
      | false =>
        have hsame := metadataFinished_calm hr t.state
        rw [traceStep_eq hs hsame.2.2.2]
        exact h.same hsame
      | true =>
        obtain ⟨hidle, hd, hn⟩ := metadataFinished_resets hr t.state
        rw [traceStep_eq hs hn]
        exact single_idle (hd.trans (he hrunning hr)) (by simp [hidle])
  | downloadReady id bytes disk => exact single_find h rfl fun d hd => single_downloadReady h hd bytes disk
  | downloadFinished id ending disk =>
    exact single_find h rfl fun d hd => single_downloadFinished (downloads_eq h hd) rfl rfl ending disk

theorem undisturbed_of_oneAtATime (h : OneAtATime (traceStep build t event)) :
    Undisturbed build t.state event := by
  cases event with
  | metadataFinished reply =>
    intro hrunning hr
    have hs : (traceStep build t (.metadataFinished reply)).state = metadataFinished build reply t.state := by
      rw [traceStep, step, hrunning, if_pos rfl]
    obtain ⟨hidle, hd, -⟩ := metadataFinished_resets hr t.state
    have hiff := h.downloading
    rw [hs, hidle, hd] at hiff
    by_contra hne
    exact absurd (hiff.mpr hne) (by decide)
  | checkForUpdates | startUpdate | installUpdate | downloadReady | downloadFinished => trivial

theorem trace_state (installer : Option (List UInt8)) (events : List Event) :
    (trace build installer events).state = events.foldl (step build) (start installer) := by
  induction events using List.reverseRecOn with
  | nil => rfl
  | append_singleton events event ih =>
    rw [trace, List.foldl_concat, List.foldl_concat, ← ih]
    rfl

theorem single_trace {installer : Option (List UInt8)} {events : List Event}
    (h : Along (step build) (Undisturbed build) (start installer) events) : Single build (trace build installer events) := by
  induction events using List.reverseRecOn with
  | nil => exact single_start installer
  | append_singleton events event ih =>
    obtain ⟨hbefore, hlast⟩ := h.concat
    rw [← trace_state] at hlast
    rw [trace, List.foldl_concat]
    exact single_step (ih hbefore) hlast

end

/-- There is one download at a time in every state of a run exactly when no metadata reply resets
the state while a download is in flight. -/
theorem one_download_at_a_time_iff (build : Build) (installer : Option (List UInt8)) (events : List Event) :
    (∀ before, before <+: events → OneAtATime (trace build installer before)) ↔
      Along (step build) (Undisturbed build) (start installer) events := by
  constructor
  · intro h
    induction events using List.reverseRecOn with
    | nil => trivial
    | append_singleton events event ih =>
      refine along_concat_iff.mpr ⟨ih fun before hb => h before (hb.trans (List.prefix_append _ _)), ?_⟩
      have hlast := h _ (List.prefix_refl _)
      rw [trace, List.foldl_concat] at hlast
      rw [← trace_state]
      exact undisturbed_of_oneAtATime hlast
  · intro h before hb
    exact (single_trace (h.of_prefix hb)).toOneAtATime

def site : List Char := "https://github.com".toList

/-- A Linux build. Its URL parser knows one site, its versions are compared digit by digit, and for a digest it takes
the first 32 bytes. -/
def sampleBuild : Build where
  platform := .linux
  appVersion := "1.0.0"
  iosStoreUrlFallback := ""
  androidPackage := ""
  url s :=
    if site.isPrefixOf s.toList then ⟨"https", "github.com", .ofList (s.toList.drop site.length), "", ""⟩
    else ⟨"", "", s, "", ""⟩
  urlText s := s
  urlIsEmpty s := s = ""
  validVersion s := s.toList.all fun c => c.isDigit || c = '.'
  compareVersions a b := if a = b then 0 else if a.toList < b.toList then -1 else 1
  isSha256 s := s.toList.length = 64 && s.toList.all fun c => c.isDigit || ('a' ≤ c && c ≤ 'f')
  toLower s := .ofList (s.toList.map Char.toLower)
  sha256 content := .ofList (Hex.encode (content.takeD 32 0))

def releases : String := "https://github.com/VnextDevelopment/tunnelcore-vpn/releases"

def announce (version sha256 : String) (size : Int) : MetadataReply where
  error := false
  status := 200
  document := some (.object [("updateAvailable", .bool true), ("updateVersion", .string version),
    ("releasePageUrl", .string (releases ++ "/tag/v" ++ version)),
    ("downloadUrl", .string (releases ++ "/download/v" ++ version ++ "/TunnelCoreVPN_" ++ version ++
      "_linux_x64.run")),
    ("sha256", .string sha256), ("downloadSize", .number size)])

/-- A new version is announced while the installer of the last one is loading. -/
def overlap : List Event :=
  [.checkForUpdates, .metadataFinished (announce "1.1.0" (String.ofList (.replicate 64 'a')) 10), .startUpdate true,
    .checkForUpdates, .metadataFinished (announce "1.2.0" (String.ofList (.replicate 64 'b')) 20)]

/-- The state is idle during the download, which would be verified against the new digest, and a
second download can be started beside it. -/
theorem second_check_resets_download :
    (trace sampleBuild none overlap).state.updateState = .idle ∧
    (trace sampleBuild none overlap).state.downloads.map (fun d => (d.id, d.url)) =
      [(0, releases ++ "/download/v1.1.0/TunnelCoreVPN_1.1.0_linux_x64.run")] ∧
    (trace sampleBuild none overlap).state.expectedSize = 20 ∧
    (trace sampleBuild none (overlap ++ [.startUpdate true])).state.downloads.length = 2 ∧
    ¬OneAtATime (trace sampleBuild none overlap) := by
  have hrun : (trace sampleBuild none overlap).state.updateState = .idle ∧
      (trace sampleBuild none overlap).state.downloads.map (fun d => (d.id, d.url)) =
        [(0, releases ++ "/download/v1.1.0/TunnelCoreVPN_1.1.0_linux_x64.run")] ∧
      (trace sampleBuild none overlap).state.expectedSize = 20 ∧
      (trace sampleBuild none (overlap ++ [.startUpdate true])).state.downloads.length = 2 := by decide +kernel
  obtain ⟨hidle, hdownload, hsize, hsecond⟩ := hrun
  refine ⟨hidle, hdownload, hsize, hsecond, fun h => ?_⟩
  have hnone : (trace sampleBuild none overlap).state.downloads = [] :=
    not_not.mp (mt h.downloading.mpr (by simp [hidle]))
  rw [hnone] at hdownload
  cases hdownload

end TunnelCore.Update
