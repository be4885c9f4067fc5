import TunnelCore.Account.Selection
import TunnelCore.Library.Runs

namespace TunnelCore.Account

variable {ρ : Type}

section

variable (qt : Qt)

/-- The object that a successful reply of the current generation gives to this handler. -/
def answered (continuation : Continuation) (w : World ρ) : Input → Option JsonObject
  | .reply id r =>
    (w.pending.find? (·.id = id)).bind fun p =>
      match p.handler with
      | .api _ sent =>
        if p.generation = w.controller.generation ∧ sent = continuation ∧ r.successful ∧ !r.error then r.okObject
        else none
      | _ => none
  | _ => none

def selectionId (object : JsonObject) : Int :=
  (qt.variantLongLong ((object.value "selection").toObject.value "config_id")).getD 0

/-- The configuration id that a successful `selectVpnCountry` reply announces. -/
def announced (w : World ρ) (input : Input) : Option Int :=
  (answered .selectVpnCountry w input).bind fun object =>
    (applyVpnCountrySelection qt object w).map fun _ => selectionId qt object

def listedId (config : Json) : Option Int := qt.variantLongLong (config.toObject.value "id")

/-- The configuration that the reply to `refreshConfigs` selects by itself. -/
def autoSelected (w : World ρ) (input : Input) : Option Json :=
  (answered .configs w input).bind fun object =>
    if (object.value "configs").isArray ∧ 0 < w.controller.pendingConfigId then
      (object.value "configs").toArray.find? fun config => listedId qt config = some w.controller.pendingConfigId
    else none

inductive Uses (config : Json) : Event → Prop
  | ready (fileName mode profile : String) :
      Uses config (.configReady (qt.trimmed (qt.variantString (config.toObject.value "config"))) fileName mode profile)
  | download (n : Nat) :
      Uses config (.sent n (.download (qt.trimmed (qt.variantString (config.toObject.value "config")))))
  | request (n : Nat) (deviceId : Option String) (token : String) {id : Int} (hid : listedId qt config = some id) :
      Uses config (.sent n (.api (.config id deviceId) false (some token) []))

end

section

variable {qt : Qt} {app : App ρ} {env : Env} (w : World ρ)

theorem retains_call (c : UserCall) : Retains w (c.run qt app env w) := by
  by_cases hc : ∃ countryCode, c = .selectGeoRoutingCountry countryCode
  · obtain ⟨countryCode, rfl⟩ := hc
    simp only [UserCall.run, selectGeoRoutingCountry]
    repeat' split
    · exact .inl rfl
    · exact .inl rfl
    · exact .inr rfl
    · exact .trans (.inl rfl) (light_refreshRouting _).retains
  · exact (light_call w fun countryCode h => hc ⟨countryCode, h⟩).retains

theorem retains_succeeded (object : JsonObject) {continuation : Continuation} (hc : continuation ≠ .configs)
    (hs : continuation ≠ .selectVpnCountry) : Retains w (succeeded qt app env object w continuation) := by
  by_cases hg : continuation = .geoRoutingCountries
  · subst hg
    simp only [succeeded, geoRoutingCountriesSucceeded]
    split
    · exact .inr rfl
    · split
      · exact .trans (.inl rfl) (light_refreshRouting _).retains
      · exact .trans (.inl rfl) (light_refreshRouting _).retains
  · exact (light_succeeded w object hg hc hs).retains

theorem retains_failed (status : Int) (apiError : String) {continuation : Continuation} {w' : World ρ}
    (h : failed qt app env status apiError w continuation = some w') : Retains w w' := by
  by_cases hc : continuation = .geoRoutingCountries ∧ status = 404
  · obtain ⟨rfl, hstatus⟩ := hc
    cases h
    rw [geoRoutingCountriesFailed, if_pos hstatus]
    exact .trans (.inl rfl) (light_refreshRouting _).retains
  · exact (light_failed w status apiError hc h).retains

theorem pendingConfigId_configsSucceeded (object : JsonObject) :
    (configsSucceeded qt object w).controller.pendingConfigId ≤ 0 := by
  simp only [configsSucceeded]
  split
  · exact Int.le_refl 0
  · split
    next hid => exact hid
    · split
      next index _ =>
        rcases (light_selectConfig _ index).retains with h | h
        · exact Int.le_of_eq h
        · exact Int.le_of_eq h
      · exact Int.le_refl 0

theorem applyVpnCountrySelection_isSome (object : JsonObject) (w' : World ρ) :
    (applyVpnCountrySelection qt object w).isSome = (applyVpnCountrySelection qt object w').isSome := by
  simp only [applyVpnCountrySelection]
  split <;> rfl

theorem selectVpnCountrySucceeded_announces {object : JsonObject} {k : Int} (hk : 0 < k)
    (h : (selectVpnCountrySucceeded qt app env object w).controller.pendingConfigId = k) :
    (applyVpnCountrySelection qt object w).isSome ∧ selectionId qt object = k := by
  simp only [selectVpnCountrySucceeded] at h
  cases hw' : applyVpnCountrySelection qt object w with
  | none =>
    rw [hw'] at h
    exact absurd h (Int.ne_of_lt hk)
  | some w' =>
    rw [hw'] at h
    refine ⟨rfl, ?_⟩
    -- the routing keeps the id that the reply has just announced, or fails
    have hid : (if 0 < selectionId qt object then selectionId qt object else 0) = k := by
      rcases (light_refreshRouting _).retains with hr | hr
      · exact hr.symm.trans h
      · exact absurd (hr.symm.trans h) (Int.ne_of_lt hk)
    split at hid
    · exact hid
    · exact absurd hid (Int.ne_of_lt hk)

end

section

variable {qt : Qt} {app : App ρ} {env : Env} {w : World ρ} {k : Int}

theorem Retains.eq {w' : World ρ} (h : Retains w w') (hk : 0 < k) (hw' : w'.controller.pendingConfigId = k) :
    w.controller.pendingConfigId = k := by
  rcases h with h | h
  · exact h.symm.trans hw'
  · exact absurd (h.symm.trans hw') (Int.ne_of_lt hk)

variable {r : Reply}

theorem answered_api {id : Nat} {p : Pending} {post : Bool} {sent : Continuation}
    (hp : w.pending.find? (·.id = id) = some p) (hsent : p.handler = .api post sent) (continuation : Continuation) :
    answered continuation w (.reply id r) =
      if p.generation = w.controller.generation ∧ sent = continuation ∧ r.successful ∧ !r.error then r.okObject
      else none := by
  simp only [answered, hp, Option.bind_some, hsent]

theorem answered_eq_none {id : Nat} (continuation : Continuation)
    (h : ∀ p post, w.pending.find? (·.id = id) = some p → p.handler ≠ .api post continuation) :
    answered continuation w (.reply id r) = none := by
  simp only [answered]
  cases hp : w.pending.find? (·.id = id) with
  | none => rfl
  | some p =>
    obtain ⟨_, generation, handler⟩ := p
    cases handler with
    | api post sent =>
      refine if_neg ?_
      rintro ⟨-, rfl, -⟩
      exact h _ post hp rfl
    | background cacheKey country | download fileName mode profile => rfl

/-- What is pending after the answer to a request: the id it announced, or the one of before if the answer is no
successful one to `selectVpnCountry` or `refreshConfigs`. -/
theorem pending_apiFinished {post : Bool} {continuation : Continuation} (hk : 0 < k)
    (h : (apiFinished qt app env post continuation r w).controller.pendingConfigId = k) :
    (∃ object, continuation = .selectVpnCountry ∧ (r.successful = true ∧ r.error = false) ∧ r.okObject = some object ∧
      (applyVpnCountrySelection qt object w).isSome ∧ selectionId qt object = k) ∨
    (w.controller.pendingConfigId = k ∧ ((r.successful = true ∧ r.error = false) → r.okObject = none ∨
      (continuation ≠ .selectVpnCountry ∧ continuation ≠ .configs))) := by
  have hunhandled : Retains w (unhandled post r (w.modify fun c => { c with reply := none })) :=
    .trans (.inl rfl) (light_unhandled _ post r).retains
  simp only [apiFinished] at h
  split at h
  case isTrue hok =>
    cases hobject : r.okObject with
    | none =>
      rw [hobject] at h
      exact .inr ⟨hunhandled.eq hk h, fun _ => .inl rfl⟩
    | some object =>
      simp only [hobject] at h
      split at h
      case isTrue herror => exact .inr ⟨hunhandled.eq hk h, fun hr => by simp [hr.2] at herror⟩
      case isFalse herror =>
        by_cases hs : continuation = .selectVpnCountry
        · subst hs
          obtain ⟨hsome, hid⟩ := selectVpnCountrySucceeded_announces _ hk h
          rw [applyVpnCountrySelection_isSome _ object w] at hsome
          exact .inl ⟨object, rfl, ⟨hok, by simpa using herror⟩, rfl, hsome, hid⟩
        · by_cases hc : continuation = .configs
          · subst hc
            exact absurd h (Int.ne_of_lt (Int.lt_of_le_of_lt (pendingConfigId_configsSucceeded _ object) hk))
          · have hw := (retains_succeeded _ object hc hs).eq hk h
            exact .inr ⟨hw, fun _ => .inr ⟨hs, hc⟩⟩
  case isFalse hok =>
    refine .inr ⟨?_, fun hr => absurd hr.1 hok⟩
    split at h
    · cases hf : failed qt app env r.status (r.object.value "error").toString
          ((w.modify fun c => { c with reply := none }).modify fun c => { c with busy := false }) continuation with
      | none =>
        rw [hf] at h
        exact hunhandled.eq hk h
      | some w' =>
        rw [hf] at h
        exact (Retains.trans (.inl rfl) (retains_failed _ _ _ hf)).eq hk h
    · exact hunhandled.eq hk h

/-- An answer that leaves an announcement pending made it, or is none to `selectVpnCountry` or `refreshConfigs`. -/
theorem pending_reply {id : Nat} (hk : 0 < k) (h : (deliver qt app env id r w).controller.pendingConfigId = k) :
    announced qt w (.reply id r) = some k ∨
      (announced qt w (.reply id r) = none ∧ autoSelected qt w (.reply id r) = none) ∧
        w.controller.pendingConfigId = k := by
  have hother (hw : w.controller.pendingConfigId = k)
      (hnone : ∀ continuation, (continuation = .selectVpnCountry ∨ continuation = .configs) →
        answered continuation w (.reply id r) = none) :
      (announced qt w (.reply id r) = none ∧ autoSelected qt w (.reply id r) = none) ∧
        w.controller.pendingConfigId = k := by
    refine ⟨⟨?_, ?_⟩, hw⟩
    · rw [announced, hnone _ (.inl rfl), Option.bind_none]
    · rw [autoSelected, hnone _ (.inr rfl), Option.bind_none]
  simp only [deliver] at h
  cases hp : w.pending.find? (·.id = id) with
  | none =>
    rw [hp] at h
    exact .inr (hother h fun _ _ => answered_eq_none _ fun p _ hp' => by simp [hp] at hp')
  | some p =>
    obtain ⟨_, generation, handler⟩ := p
    rw [hp] at h
    cases handler with
    | api post continuation =>
      simp only at h
      by_cases hg : generation = w.controller.generation
      · rw [if_pos (show generation = (w.finish id).controller.generation from hg)] at h
        rcases pending_apiFinished hk h with ⟨object, rfl, hok, hobject, hsome, hid⟩ | ⟨hw, hanswer⟩
        · refine .inl ?_
          rw [applyVpnCountrySelection_isSome _ object w] at hsome
          obtain ⟨w', hw'⟩ := Option.isSome_iff_exists.mp hsome
          rw [announced, answered_api hp rfl, if_pos ⟨hg, rfl, hok.1, by simp [hok.2]⟩, hobject, Option.bind_some,
            hw', Option.map_some, hid]
        · refine .inr (hother hw fun sent hsent => ?_)
          rw [answered_api hp rfl]
          split
          case isTrue hcond =>
            obtain ⟨-, rfl, hsuccessful, herror⟩ := hcond
            rcases hanswer ⟨hsuccessful, by simpa using herror⟩ with hnone | ⟨hs, hc⟩
            · exact hnone
            · rcases hsent with rfl | rfl
              · exact (hs rfl).elim
              · exact (hc rfl).elim
          case isFalse => rfl
      · rw [if_neg (show generation ≠ (w.finish id).controller.generation from hg)] at h
        refine .inr (hother h fun sent _ => ?_)
        rw [answered_api hp rfl]
        exact if_neg fun hcond => hg hcond.1
    | background cacheKey country =>
      refine .inr (hother ?_ fun sent _ => answered_eq_none _ fun p _ hp' => ?_)
      · simp only at h
        split at h
        · have hw := (light_backgroundFinished _ cacheKey country r).retains.eq hk h
          exact hw
        · exact h
      · rw [hp] at hp'
        cases hp'
        exact Handler.noConfusion
    | download fileName mode profile =>
      refine .inr (hother ?_ fun sent _ => answered_eq_none _ fun p _ hp' => ?_)
      · simp only at h
        split at h
        · have hw := (light_downloadFinished _ fileName mode profile r).retains.eq hk h
          exact hw
        · exact h
      · rw [hp] at hp'
        cases hp'
        exact Handler.noConfusion

theorem pending_step {s : Step} (hk : 0 < k) (h : (s.run qt app w).controller.pendingConfigId = k) :
    announced qt w s.input = some k ∨
      (announced qt w s.input = none ∧ autoSelected qt w s.input = none) ∧ w.controller.pendingConfigId = k := by
  obtain ⟨env, input⟩ := s
  cases input with
  | call c => exact .inr ⟨⟨rfl, rfl⟩, (retains_call w c).eq hk h⟩
  | reply id r => exact pending_reply hk h
  | purchase id outcome => exact .inr ⟨⟨rfl, rfl⟩, (light_purchaseFinished w id outcome).retains.eq hk h⟩

theorem pendingConfigId_start (env : Env) (store : Store ρ) : (start qt app env store).controller.pendingConfigId = 0 := by
  simp only [start]
  repeat' split
  · exact (light_registerDevice _ false).retains.elim id id
  · rfl
  · rfl

theorem autoSelected_spec {input : Input} {config : Json} (h : autoSelected qt w input = some config) :
    0 < w.controller.pendingConfigId ∧ listedId qt config = some w.controller.pendingConfigId := by
  obtain ⟨object, -, hfind⟩ := Option.bind_eq_some_iff.mp h
  split at hfind
  next hc => exact ⟨hc.2, by simpa using List.find?_some hfind⟩
  · cases hfind

end

section

variable (qt : Qt) (app : App ρ)

theorem logs_nothing {w w' : World ρ} {P : Event → Prop} (h : w'.log = w.log) :
    ∃ events, w'.log = w.log ++ events ∧ ∀ e ∈ events, P e :=
  ⟨[], h.trans (List.append_nil _).symm, fun _ he => absurd he List.not_mem_nil⟩

theorem logs_one {w w' : World ρ} {P : Event → Prop} {e : Event} (h : w'.log = w.log ++ [e]) (he : P e) :
    ∃ events, w'.log = w.log ++ events ∧ ∀ e ∈ events, P e :=
  ⟨[e], h, fun _ hmem => List.mem_singleton.mp hmem ▸ he⟩

theorem useConfig_log (w : World ρ) (config : Json) :
    ∃ events, (useConfig qt config.toObject w).log = w.log ++ events ∧ ∀ e ∈ events, Uses qt config e := by
  simp only [useConfig, deliverConfig]
  split
  · split
    · exact logs_one rfl (.ready ..)
    · split
      · exact logs_nothing rfl
      · exact logs_one rfl (.download ..)
  · split
    next id hid =>
      split
      · exact logs_nothing rfl
      · exact logs_one rfl (.request _ _ _ hid)
    · exact logs_nothing rfl

theorem selectConfig_log (w : World ρ) (index : Nat) :
    ∃ events, (selectConfig qt index w).log = w.log ++ events ∧
      ∀ e ∈ events, ∃ config, w.controller.configs[index]? = some config ∧ Uses qt config e := by
  simp only [selectConfig, Int.toNat_natCast]
  split
  · exact logs_nothing rfl
  · cases hconfig : w.controller.configs[index]? with
    | none => exact logs_nothing rfl
    | some config =>
      obtain ⟨events, hlog, huses⟩ := useConfig_log qt w config
      exact ⟨events, hlog, fun e he => ⟨config, rfl, huses e he⟩⟩

theorem find?_of_findIdx? {configs : List Json} {p : Json → Bool} {index : Nat} {config : Json}
    (h : configs.findIdx? p = some index) (hconfig : configs[index]? = some config) :
    configs.find? p = some config := by
  obtain ⟨hlt, hp, hbefore⟩ := List.findIdx?_eq_some_iff_getElem.mp h
  obtain ⟨_, rfl⟩ := List.getElem?_eq_some_iff.mp hconfig
  exact List.find?_eq_some_iff_getElem.mpr ⟨hp, index, hlt, rfl, fun j hj => by simpa using hbefore j hj⟩

theorem configsSucceeded_log (w : World ρ) (object : JsonObject) :
    ∃ events, (configsSucceeded qt object w).log = w.log ++ events ∧
      ∀ e ∈ events, ∃ config, ((object.value "configs").isArray ∧ 0 < w.controller.pendingConfigId) ∧
        (object.value "configs").toArray.find? (fun config => listedId qt config = some w.controller.pendingConfigId) =
          some config ∧ Uses qt config e := by
  simp only [configsSucceeded]
  split
  · exact logs_nothing rfl
  next harray =>
    split
    · exact logs_nothing rfl
    next hpending =>
      split
      next index hindex =>
        obtain ⟨events, hlog, huses⟩ := selectConfig_log qt _ index
        refine ⟨events, hlog, fun e he => ?_⟩
        obtain ⟨config, hconfig, hu⟩ := huses e he
        exact ⟨config, ⟨by simpa using harray, Int.not_le.mp hpending⟩, find?_of_findIdx? hindex hconfig, hu⟩
      · exact logs_nothing rfl

variable {w : World ρ}

theorem answered_eq_some {continuation : Continuation} {s : Step} {object : JsonObject}
    (h : answered continuation w s.input = some object) :
    ∃ id, s.run qt app w = succeeded qt app s.env object
      (((w.finish id).modify fun c => { c with reply := none }).modify fun c => { c with busy := false })
      continuation := by
  obtain ⟨env, input⟩ := s
  cases input with
  | call c | purchase id outcome => cases h
  | reply id r =>
    obtain ⟨p, hp, hanswer⟩ := Option.bind_eq_some_iff.mp h
    obtain ⟨_, generation, handler⟩ := p
    cases handler with
    | background cacheKey country | download fileName mode profile => cases hanswer
    | api post sent =>
      simp only at hanswer
      split at hanswer
      case isFalse => cases hanswer
      case isTrue hcond =>
        obtain ⟨hg, rfl, hsuccessful, herror⟩ := hcond
        have herror : r.error = false := by simpa using herror
        refine ⟨id, ?_⟩
        rw [Step.run]
        simp only [deliver, hp]
        rw [if_pos (show generation = (w.finish id).controller.generation from hg)]
        simp only [apiFinished, hsuccessful, hanswer, herror, if_true, Bool.false_eq_true, if_false]

/-- All that a successful reply to `refreshConfigs` requests or delivers is the configuration it selects by itself. -/
theorem configs_reply_log {s : Step} {object : JsonObject} (h : answered .configs w s.input = some object) :
    ∃ id events, (s.run qt app w).log = w.log ++ .delivered id :: events ∧
      ∀ e ∈ events, ∃ config, autoSelected qt w s.input = some config ∧ Uses qt config e := by
  obtain ⟨id, hrun⟩ := answered_eq_some qt app h
  obtain ⟨events, hlog, huses⟩ := configsSucceeded_log qt
    (((w.finish id).modify fun c => { c with reply := none }).modify fun c => { c with busy := false }) object
  refine ⟨id, events, ?_, fun e he => ?_⟩
  · rw [hrun]
    exact hlog.trans (List.append_assoc ..)
  · obtain ⟨config, hcond, hfind, hu⟩ := huses e he
    have hcond : (object.value "configs").isArray ∧ 0 < w.controller.pendingConfigId := hcond
    refine ⟨config, ?_, hu⟩
    rw [autoSelected, h, Option.bind_some, if_pos hcond]
    exact hfind

/-- The id is announced by a step since which no other was announced, no configuration was selected automatically, and
the id stayed pending. -/
def AnnouncedSince (w₀ : World ρ) (past : List Step) (id : Int) : Prop :=
  ∃ before a since, past = before ++ a :: since ∧ announced qt (run qt app before w₀) a.input = some id ∧
    Along (Step.run qt app) (fun w s => announced qt w s.input = none ∧ autoSelected qt w s.input = none)
      (a.run qt app (run qt app before w₀)) since ∧
    ∀ part, part <+: since → (run qt app (before ++ a :: part) w₀).controller.pendingConfigId = id

theorem announcedSince_start (env : Env) (store : Store ρ) {past : List Step} {id : Int} (hid : 0 < id)
    (h : (run qt app past (start qt app env store)).controller.pendingConfigId = id) :
    AnnouncedSince qt app (start qt app env store) past id := by
  have hstart : ¬(start qt app env store).controller.pendingConfigId = id := by
    rw [pendingConfigId_start]
    exact Int.ne_of_lt hid
  have hstep (w : World ρ) (s : Step) (hs : (s.run qt app w).controller.pendingConfigId = id) := pending_step hid hs
  exact exists_since (I := fun w : World ρ => w.controller.pendingConfigId = id) hstep hstart h

theorem none_pending_step {s : Step} (hw : w.controller.pendingConfigId ≤ 0) (hs : announced qt w s.input = none) :
    (s.run qt app w).controller.pendingConfigId ≤ 0 ∧ autoSelected qt w s.input = none := by
  constructor
  · by_contra hpos
    rcases pending_step (Int.not_le.mp hpos) rfl with h | ⟨-, h⟩
    · rw [hs] at h
      cases h
    · rw [h] at hw
      exact hpos hw
  · by_contra hselected
    obtain ⟨config, hconfig⟩ := Option.ne_none_iff_exists'.mp hselected
    exact Int.not_le.mpr (autoSelected_spec hconfig).1 hw

theorem none_selected_until_announced (hw : w.controller.pendingConfigId = 0) (steps : List Step)
    (h : Along (Step.run qt app) (fun w s => announced qt w s.input = none) w steps) :
    Along (Step.run qt app) (fun w s => autoSelected qt w s.input = none) w steps :=
  Along.of_invariant (fun _ _ => none_pending_step qt app) (Int.le_of_eq hw) h

theorem selectCurrentConfig_log (hid : 0 < w.controller.selectedConfigId) :
    ∃ events, (selectCurrentConfig qt w).log = w.log ++ events ∧ ∀ e ∈ events, ∃ config ∈ w.controller.configs,
      listedId qt config = some w.controller.selectedConfigId ∧ Uses qt config e := by
  simp only [selectCurrentConfig]
  split
  · exact logs_nothing rfl
  · split
    next index hindex =>
      obtain ⟨events, hlog, huses⟩ := selectConfig_log qt w index
      refine ⟨events, hlog, fun e he => ?_⟩
      obtain ⟨config, hconfig, hu⟩ := huses e he
      have hfind := find?_of_findIdx? hindex hconfig
      have hselected := List.find?_some hfind
      simp only [hid, decide_true, Bool.true_and, decide_eq_true_eq] at hselected
      refine ⟨config, List.mem_of_find?_eq_some hfind, ?_, hu⟩
      rw [listedId]
      cases hl : qt.variantLongLong (config.toObject.value "id") with
      | none =>
        rw [hl] at hselected
        exact absurd hselected (Int.ne_of_lt hid)
      | some id => rw [← hselected, hl, Option.getD_some]
    · rw [if_neg (by simp [Int.not_le.mpr hid])]
      exact logs_nothing rfl

/-- A configuration is only selected automatically on the announcement of its id, which nothing has used, replaced or
withdrawn since; and the selected location is never served by the configuration of another. -/
theorem auto_selection_announced (env : Env) (store : Store ρ) :
    (∀ (w : World ρ) (s : Step) (object : JsonObject), answered .configs w s.input = some object →
      ∃ id events, (s.run qt app w).log = w.log ++ .delivered id :: events ∧
        ∀ e ∈ events, ∃ config, autoSelected qt w s.input = some config ∧ Uses qt config e) ∧
    (∀ (past : List Step) (s : Step) (config : Json),
      autoSelected qt (run qt app past (start qt app env store)) s.input = some config →
        ∃ id, listedId qt config = some id ∧ AnnouncedSince qt app (start qt app env store) past id) ∧
    (∀ (w w' : World ρ) (message : String) (steps : List Step), w' = fail message w ∨ w' = clearSession w →
      Along (Step.run qt app) (fun w s => announced qt w s.input = none) w' steps →
        Along (Step.run qt app) (fun w s => autoSelected qt w s.input = none) w' steps) ∧
    ∀ w : World ρ, 0 < w.controller.selectedConfigId →
      ∃ events, (selectCurrentConfig qt w).log = w.log ++ events ∧ ∀ e ∈ events, ∃ config ∈ w.controller.configs,
        listedId qt config = some w.controller.selectedConfigId ∧ Uses qt config e := by
  refine ⟨fun w s object => configs_reply_log qt app, fun past s config h => ?_, ?_, fun w => selectCurrentConfig_log qt⟩
  · obtain ⟨hpending, hlisted⟩ := autoSelected_spec h
    exact ⟨_, hlisted, announcedSince_start qt app env store hpending rfl⟩
  · rintro w w' message steps (rfl | rfl) h
    · exact none_selected_until_announced qt app (show (fail message w).controller.pendingConfigId = 0 from rfl) steps h
    · exact none_selected_until_announced qt app (show (clearSession w).controller.pendingConfigId = 0 from rfl) steps h

end

end TunnelCore.Account
