import TunnelCore.Update.Controller

namespace TunnelCore.Update

variable {build : Build}

def Matches (build : Build) (content : List UInt8) (size : Int) (sha256 : String) : Prop :=
  content.length = size ∧ build.sha256 content = sha256

/-- Unless a write has failed, what is in the file has been counted and hashed. -/
def Download.Clean (d : Download) : Prop :=
  d.file.failed = false → d.file.content = d.digest ∧ d.bytesWritten = d.file.content.length

theorem drain_id (expectedSize : Int) (disk : Nat → Option Nat) (i : Nat) (d : Download) :
    (drain expectedSize disk i d).1.id = d.id := by
  fun_induction drain expectedSize disk i d with
  | case1 => rfl
  | case2 => rfl
  | case3 => rfl
  | case4 _ _ _ _ _ _ _ _ ih => exact ih

variable {d : Download} {s : State}

theorem drain_clean (expectedSize : Int) (disk : Nat → Option Nat) (i : Nat) (hd : d.Clean) :
    (drain expectedSize disk i d).1.Clean ∨
      (drain expectedSize disk i d).2 = true ∧ expectedSize < (drain expectedSize disk i d).1.bytesWritten := by
  fun_induction drain expectedSize disk i d with
  | case1 => exact .inl hd
  | case2 _ _ _ _ _ _ hlt => exact .inr ⟨rfl, hlt⟩
  | case3 => exact .inl fun h => nomatch h
  | case4 _ d _ chunk _ _ _ _ ih =>
    refine ih fun hf => ?_
    obtain ⟨hc, hb⟩ := hd hf
    exact ⟨by rw [hc], by simp only [List.length_append]; omega⟩

/-- What holds in every state of a run: downloads are clean, a file that is ready is the last one
committed and has the expected size and digest, and so had every file that was launched. -/
structure Verified (build : Build) (s : State) : Prop where
  clean : ∀ d ∈ s.downloads, d.Clean
  ready : s.updateState = .readyToInstall →
    ∃ content, s.installer = some content ∧ s.commits.getLast? = some content ∧
      Matches build content s.expectedSize s.expectedSha256
  launched : ∀ launch ∈ s.launches, ∃ content ∈ s.commits, launch.file = some content ∧
    Matches build content launch.expectedSize launch.expectedSha256

theorem Verified.of_not_ready {s s' : State} (h : Verified build s) (hd : ∀ d ∈ s'.downloads, d.Clean)
    (hu : s'.updateState ≠ .readyToInstall) (hc : s'.commits = s.commits) (hl : s'.launches = s.launches) :
    Verified build s' :=
  ⟨hd, fun hr => absurd hr hu, by rw [hl, hc]; exact h.launched⟩

theorem verified_downloadInstaller (h : Verified build s) (opens : Bool) :
    Verified build (downloadInstaller build opens s) := by
  rw [downloadInstaller]
  split
  · exact h
  · split
    · exact h.of_not_ready h.clean nofun rfl rfl
    · split
      · exact h.of_not_ready h.clean nofun rfl rfl
      · refine h.of_not_ready (fun d hd => ?_) nofun rfl rfl
        rcases List.mem_append.mp hd with hd | hd
        · exact h.clean d hd
        · obtain rfl := List.mem_singleton.mp hd
          exact fun _ => ⟨rfl, rfl⟩

theorem openStorePage_eq (build : Build) (s : State) :
    openStorePage build s = s ∨ ∃ url, openStorePage build s = s.openUrl url := by
  rw [openStorePage]
  cases build.platform <;> dsimp only <;> repeat' split
  all_goals first | exact .inl rfl | exact .inr ⟨_, rfl⟩

theorem verified_startUpdate (h : Verified build s) (opens : Bool) :
    Verified build (startUpdate build opens s) := by
  have hopen (url : String) : Verified build (s.openUrl url) := ⟨h.clean, h.ready, h.launched⟩
  rw [startUpdate]
  split
  · rcases openStorePage_eq build s with he | ⟨url, he⟩ <;> rw [he]
    · exact h
    · exact hopen url
  · split
    · exact verified_downloadInstaller h opens
    · split
      · exact hopen _
      · exact h.of_not_ready h.clean nofun rfl rfl

theorem verified_metadataFinished (h : Verified build s) (reply : MetadataReply) :
    Verified build (metadataFinished build reply s) := by
  have hemit (signal : Signal) : Verified build (State.emit signal { s with updateCheckRunning := false }) :=
    ⟨h.clean, h.ready, h.launched⟩
  rw [metadataFinished]
  split
  · exact hemit _
  · split
    · rw [metadataReceived]
      dsimp only
      split
      · exact h.of_not_ready h.clean nofun rfl rfl
      · split
        · exact hemit _
        · split
          · exact hemit _
          · split
            · exact hemit _
            · exact h.of_not_ready h.clean nofun rfl rfl
    · exact hemit _

theorem verified_downloadFinished {ending : DownloadEnd}
    (hd : d.Clean ∨ ending.error = true) (hothers : ∀ e ∈ s.downloads, e.id ≠ d.id → e.Clean)
    (hlaunched : ∀ launch ∈ s.launches, ∃ content ∈ s.commits, launch.file = some content ∧
      Matches build content launch.expectedSize launch.expectedSha256) (disk : Nat → Option Nat) :
    Verified build (downloadFinished build ending disk d s) := by
  have hrest : ∀ e ∈ s.downloads.filter (·.id ≠ (drain s.expectedSize disk 0 d).1.id), e.Clean := by
    intro e he
    rw [drain_id, List.mem_filter, decide_eq_true_eq] at he
    exact hothers e he.1 he.2
  rw [downloadFinished]
  dsimp only
  split
  next hvalid =>
    simp only [Bool.and_eq_true, Bool.not_eq_true', decide_eq_true_eq] at hvalid
    obtain ⟨⟨⟨⟨herror, -⟩, hsize⟩, hsha⟩, hfailed, -⟩ := hvalid
    have hclean : (drain s.expectedSize disk 0 d).1.Clean := by
      refine (drain_clean _ _ _ (hd.resolve_right (by simp [herror]))).resolve_right fun h => ?_
      omega
    obtain ⟨hcontent, hlength⟩ := hclean hfailed
    refine ⟨hrest, fun _ => ?_, fun launch hl => ?_⟩
    · exact ⟨_, rfl, List.getLast?_concat, hlength.symm.trans hsize, by rw [hcontent]; exact hsha⟩
    · obtain ⟨content, hmem, hfile⟩ := hlaunched launch hl
      exact ⟨content, List.mem_append_left _ hmem, hfile⟩
  · exact ⟨hrest, nofun, hlaunched⟩

theorem verified_downloadReady (h : Verified build s) (hd : d ∈ s.downloads)
    (bytes : List UInt8) (disk : Nat → Option Nat) : Verified build (downloadReady build bytes disk d s) := by
  have hbuffer : Download.Clean { d with buffer := d.buffer ++ bytes } := h.clean d hd
  have hid := drain_id s.expectedSize disk 0 { d with buffer := d.buffer ++ bytes }
  have hdrain := drain_clean s.expectedSize disk 0 hbuffer
  rw [downloadReady]
  generalize drain s.expectedSize disk 0 { d with buffer := d.buffer ++ bytes } = r at hid hdrain
  obtain ⟨d', aborted⟩ := r
  dsimp only at hid hdrain ⊢
  have hmap : ∀ e ∈ s.downloads.map (fun e => if e.id = d'.id then d' else e), e.Clean ∨ e = d' := by
    intro e he
    obtain ⟨e', he', rfl⟩ := List.mem_map.mp he
    split
    · exact .inr rfl
    · exact .inl (h.clean e' he')
  split
  · refine verified_downloadFinished (by exact .inr rfl) (fun e he hne => ?_) (by exact h.launched) disk
    exact (hmap e he).resolve_right fun heq => hne (heq ▸ rfl)
  next hab =>
    have hclean : d'.Clean := hdrain.resolve_right fun hlt => hab hlt.1
    exact ⟨fun e he => (hmap e he).elim id fun heq => heq ▸ hclean, h.ready, h.launched⟩

theorem verified_find (h : Verified build s) (id : Nat) {f : Download → State → State}
    (hf : ∀ d ∈ s.downloads, Verified build (f d s)) : Verified build (s.find id f) := by
  rw [State.find]
  split
  next d hd => exact hf d (List.mem_of_find?_eq_some hd)
  · exact h

theorem verified_step (h : Verified build s) (event : Event) : Verified build (step build s event) := by
  cases event with
  | checkForUpdates =>
    rw [step, State.checkForUpdates]
    split
    · exact h
    · exact ⟨h.clean, h.ready, h.launched⟩
  | startUpdate opens => exact verified_startUpdate h opens
  | installUpdate =>
    rw [step, installUpdate]
    split
    next hr =>
      simp only [Bool.and_eq_true, decide_eq_true_eq] at hr
      obtain ⟨content, hfile, hlast, hmatch⟩ := h.ready hr.2
      refine ⟨h.clean, h.ready, fun launch hl => ?_⟩
      rcases List.mem_append.mp hl with hl | hl
      · exact h.launched launch hl
      · obtain rfl := List.mem_singleton.mp hl
        exact ⟨content, List.mem_of_getLast? hlast, hfile, hmatch⟩
    · exact h
  | metadataFinished reply =>
    rw [step]
    split
    · exact verified_metadataFinished h reply
    · exact h
  | downloadReady id bytes disk => exact verified_find h id fun d hd => verified_downloadReady h hd bytes disk
  | downloadFinished id ending disk =>
    exact verified_find h id fun d hd =>
      verified_downloadFinished (.inl (h.clean d hd)) (fun e he _ => h.clean e he) h.launched disk

theorem verified_run (h : Verified build s) (events : List Event) : Verified build (run build events s) := by
  induction events generalizing s with
  | nil => exact h
  | cons event events ih => exact ih (verified_step h event)

/-- In every interleaving, a file that is ready to install is the last one committed and has the
size and digest now expected, and every file launched had those expected when it was launched. -/
theorem installer_verified (build : Build) (installer : Option (List UInt8)) (events : List Event) :
    ((run build events (start installer)).updateState = .readyToInstall →
      ∃ content, (run build events (start installer)).installer = some content ∧
        (run build events (start installer)).commits.getLast? = some content ∧
        Matches build content (run build events (start installer)).expectedSize
          (run build events (start installer)).expectedSha256) ∧
    ∀ launch ∈ (run build events (start installer)).launches,
      ∃ content ∈ (run build events (start installer)).commits, launch.file = some content ∧
        Matches build content launch.expectedSize launch.expectedSha256 := by
  have hstart : Verified build (start installer) := ⟨nofun, nofun, nofun⟩
  have hrun := verified_run hstart events
  exact ⟨hrun.ready, hrun.launched⟩

end TunnelCore.Update
