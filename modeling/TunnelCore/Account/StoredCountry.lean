import TunnelCore.Account.Selection
import TunnelCore.Library.Runs

namespace TunnelCore.Account

variable {ρ : Type}

section

variable {qt : Qt} {app : App ρ} {env : Env} (w : World ρ)

theorem selection_configsSucceeded (object : JsonObject) : (configsSucceeded qt object w).selection = w.selection := by
  simp only [configsSucceeded]
  repeat' split
  · rfl
  · rfl
  · exact (light_selectConfig _ _).selection
  · rfl

theorem selection_succeeded (object : JsonObject) {continuation : Continuation}
    (hc : continuation ≠ .geoRoutingCountries) :
    (succeeded qt app env object w continuation).selection = w.selection := by
  by_cases hconfigs : continuation = .configs
  · subst hconfigs
    exact selection_configsSucceeded w object
  · by_cases hs : continuation = .selectVpnCountry
    · subst hs
      simp only [succeeded, selectVpnCountrySucceeded]
      split
      · rfl
      next w' h =>
        exact (light_refreshRouting _).selection.trans (light_applyVpnCountrySelection w h).selection
    · exact (light_succeeded w object hc hconfigs hs).selection

end

section

variable (qt : Qt) (app : App ρ)

def Handler.asksCountries : Handler → Bool
  | .api _ .geoRoutingCountries => true
  | _ => false

/-- The event is the answer of a server without country lists, and a country is selected. -/
def dropsCountry (w : World ρ) : Input → Bool
  | .reply id r =>
    r.status = 404 && w.controller.geoRoutingCountry ≠ "" &&
      (w.pending.find? (·.id = id)).any fun p =>
        p.generation = w.controller.generation && p.handler.asksCountries
  | _ => false

def Mirrored (w : World ρ) : Prop :=
  qt.toUpper (qt.trimmed w.store.geoRoutingCountry) = w.controller.geoRoutingCountry

/-- Trimming and upper-casing a text a second time changes nothing. -/
structure Normalizes : Prop where
  again (text : String) : qt.toUpper (qt.trimmed (qt.toUpper (qt.trimmed text))) = qt.toUpper (qt.trimmed text)
  empty : qt.toUpper (qt.trimmed "") = ""

/-- What an event makes of the two countries; the index says whether it drops the one in memory. -/
inductive MovesCountry (w w' : World ρ) : Bool → Prop
  | keeps (h : w'.selection = w.selection) : MovesCountry w w' false
  | stores (text : String) (h : w'.selection = (qt.toUpper (qt.trimmed text), qt.toUpper (qt.trimmed text))) :
      MovesCountry w w' false
  | drops (hw : w.controller.geoRoutingCountry ≠ "") (h : w'.selection = ("", w.store.geoRoutingCountry)) :
      MovesCountry w w' true

end

section

variable {qt : Qt} {app : App ρ}

theorem MovesCountry.mirrored_iff (hqt : Normalizes qt) {w w' : World ρ} {drops : Bool} (h : MovesCountry qt w w' drops)
    (hw : Mirrored qt w) : Mirrored qt w' ↔ drops = false := by
  unfold Mirrored at hw ⊢
  cases h with
  | keeps h =>
    obtain ⟨hc, hs⟩ := Prod.mk.inj h
    rw [hc, hs]
    exact iff_of_true hw rfl
  | stores text h =>
    obtain ⟨hc, hs⟩ := Prod.mk.inj h
    rw [hc, hs]
    exact iff_of_true (hqt.again text) rfl
  | drops hne h =>
    obtain ⟨hc, hs⟩ := Prod.mk.inj h
    rw [hc, hs, hw]
    exact iff_of_false hne Bool.noConfusion

theorem MovesCountry.of_selection {w₀ w w' : World ρ} {drops : Bool} (h : MovesCountry qt w₀ w' drops)
    (hw : w₀.selection = w.selection) : MovesCountry qt w w' drops := by
  obtain ⟨hc, hs⟩ := Prod.mk.inj hw
  cases h with
  | keeps h => exact .keeps (h.trans hw)
  | stores text h => exact .stores text h
  | drops hne h => exact .drops (hc ▸ hne) (hs ▸ h)

theorem movesCountry_call (env : Env) (w : World ρ) (c : UserCall) : MovesCountry qt w (c.run qt app env w) false := by
  by_cases hc : ∃ countryCode, c = .selectGeoRoutingCountry countryCode
  · obtain ⟨countryCode, rfl⟩ := hc
    simp only [UserCall.run, selectGeoRoutingCountry]
    repeat' split
    · exact .keeps rfl
    · exact .keeps rfl
    · exact .keeps rfl
    · exact .stores countryCode (light_refreshRouting _).selection
  · exact .keeps (light_call w fun countryCode h => hc ⟨countryCode, h⟩).selection

theorem movesCountry_countries (hqt : Normalizes qt) (env : Env) (w : World ρ) (object : JsonObject) :
    MovesCountry qt w (geoRoutingCountriesSucceeded qt app env object w) false := by
  simp only [geoRoutingCountriesSucceeded]
  split
  · exact .keeps rfl
  · split
    · exact .stores "" (by rw [(light_refreshRouting _).selection, hqt.empty]; rfl)
    · exact .keeps (light_refreshRouting _).selection

theorem movesCountry_noCountries (env : Env) (w : World ρ) :
    MovesCountry qt w (geoRoutingCountriesFailed qt app env 404 w) (w.controller.geoRoutingCountry ≠ "") := by
  have h : (geoRoutingCountriesFailed qt app env 404 w).selection = ("", w.store.geoRoutingCountry) := by
    rw [geoRoutingCountriesFailed, if_pos rfl]
    exact (light_refreshRouting _).selection
  by_cases hw : w.controller.geoRoutingCountry = ""
  · simp only [hw, ne_eq, not_true_eq_false, decide_false]
    exact .keeps (by rw [h, World.selection, hw])
  · simp only [hw, ne_eq, not_false_eq_true, decide_true]
    exact .drops hw h

theorem asksCountries_api (post : Bool) (continuation : Continuation) :
    (Handler.api post continuation).asksCountries = true ↔ continuation = .geoRoutingCountries := by
  cases continuation <;> simp [Handler.asksCountries]

theorem movesCountry_succeeded (hqt : Normalizes qt) (env : Env) (w : World ρ) (object : JsonObject)
    (continuation : Continuation) : MovesCountry qt w (succeeded qt app env object w continuation) false := by
  by_cases hc : continuation = .geoRoutingCountries
  · subst hc
    exact movesCountry_countries hqt env w object
  · exact .keeps (selection_succeeded w object hc)

theorem movesCountry_api (hqt : Normalizes qt) (env : Env) (w : World ρ) (post : Bool) (continuation : Continuation)
    (r : Reply) :
    MovesCountry qt w (apiFinished qt app env post continuation r w)
      (r.status = 404 && w.controller.geoRoutingCountry ≠ "" && (Handler.api post continuation).asksCountries) := by
  have hunhandled : MovesCountry qt w (unhandled post r (w.modify fun c => { c with reply := none })) false :=
    .keeps ((light_unhandled _ post r).selection.trans rfl)
  by_cases hdrop : r.status = 404 ∧ continuation = .geoRoutingCountries
  -- the one answer whose handler does not write to the storage
  · obtain ⟨hstatus, rfl⟩ := hdrop
    have hfailed : MovesCountry qt w (geoRoutingCountriesFailed qt app env 404
        ((w.modify fun c => { c with reply := none }).modify fun c => { c with busy := false }))
        (w.controller.geoRoutingCountry ≠ "") := (movesCountry_noCountries env _).of_selection rfl
    simpa [apiFinished, Reply.successful, hstatus, failed, Handler.asksCountries] using hfailed
  · have hindex : (decide (r.status = 404) && decide (w.controller.geoRoutingCountry ≠ "") &&
        (Handler.api post continuation).asksCountries) = false := by
      rw [Bool.eq_false_iff]
      intro h
      simp only [Bool.and_eq_true, decide_eq_true_eq, asksCountries_api] at h
      exact hdrop ⟨h.1.1, h.2⟩
    rw [hindex, apiFinished]
    split
    · split
      · split
        · exact hunhandled
        · exact (movesCountry_succeeded hqt env _ _ continuation).of_selection rfl
      · exact hunhandled
    · split
      · cases hf : failed qt app env r.status (r.object.value "error").toString
            ((w.modify fun c => { c with reply := none }).modify fun c => { c with busy := false }) continuation with
        | none => exact hunhandled
        | some w' => exact .keeps ((light_failed _ _ _ (fun h => hdrop h.symm) hf).selection.trans rfl)
      · exact hunhandled

theorem movesCountry_reply (hqt : Normalizes qt) (env : Env) (w : World ρ) (id : Nat) (r : Reply) :
    MovesCountry qt w (deliver qt app env id r w) (dropsCountry w (.reply id r)) := by
  simp only [deliver, dropsCountry]
  cases hp : w.pending.find? (·.id = id) with
  | none => exact (Bool.and_false _).symm ▸ .keeps rfl
  | some p =>
    obtain ⟨_, generation, handler⟩ := p
    simp only [Option.any_some]
    cases handler with
    | api post continuation =>
      have hanswer : MovesCountry qt w (apiFinished qt app env post continuation r (w.finish id))
          (r.status = 404 && w.controller.geoRoutingCountry ≠ "" &&
            (Handler.api post continuation).asksCountries) :=
        (movesCountry_api hqt env _ post continuation r).of_selection rfl
      by_cases hg : generation = w.controller.generation
      · simpa [hg, World.finish] using hanswer
      · simp only [hg, decide_false, Bool.false_and, Bool.and_false]
        exact .keeps (by rw [if_neg (show generation ≠ (w.finish id).controller.generation from hg)]; rfl)
    | background cacheKey country =>
      simp only [Handler.asksCountries, Bool.and_false]
      refine .keeps ?_
      split
      · exact (light_backgroundFinished _ cacheKey country r).selection
      · rfl
    | download fileName mode profile =>
      simp only [Handler.asksCountries, Bool.and_false]
      refine .keeps ?_
      split
      · exact (light_downloadFinished _ fileName mode profile r).selection
      · rfl

theorem movesCountry_step (hqt : Normalizes qt) (w : World ρ) (s : Step) :
    MovesCountry qt w (s.run qt app w) (dropsCountry w s.input) := by
  unfold Step.run
  cases s.input with
  | call c => exact movesCountry_call s.env w c
  | reply id r => exact movesCountry_reply hqt s.env w id r
  | purchase id outcome => exact .keeps (light_purchaseFinished w id outcome).selection

theorem selection_start (env : Env) (store : Store ρ) :
    (start qt app env store).selection =
      (qt.toUpper (qt.trimmed store.geoRoutingCountry), store.geoRoutingCountry) := by
  simp only [start]
  repeat' split
  · exact (light_registerDevice _ false).selection
  · rfl
  · rfl

theorem mirrored_start (env : Env) (store : Store ρ) : Mirrored qt (start qt app env store) := by
  obtain ⟨hc, hs⟩ := Prod.mk.inj (selection_start env store)
  rw [Mirrored, hc, hs]

end

section

variable (qt : Qt) (app : App ρ)

inductive Happening
  | step (s : Step)
  | restart (env : Env)

def happen (w : World ρ) : Happening → World ρ
  | .step s => s.run qt app w
  | .restart env => start qt app env w.store

def Happening.dropsCountry (w : World ρ) : Happening → Bool
  | .step s => Account.dropsCountry w s.input
  | .restart _ => false

def lived (env : Env) (store : Store ρ) (life : List Happening) : World ρ :=
  life.foldl (happen qt app) (start qt app env store)

def RestartRestores (w : World ρ) : Prop :=
  ∀ env, (start qt app env w.store).controller.geoRoutingCountry = w.controller.geoRoutingCountry

theorem mirrored_happen_iff {qt : Qt} (hqt : Normalizes qt) {w : World ρ} (h : Happening) (hw : Mirrored qt w) :
    Mirrored qt (happen qt app w h) ↔ h.dropsCountry w = false := by
  cases h with
  | step s => exact (movesCountry_step hqt w s).mirrored_iff hqt hw
  | restart env => exact iff_of_true (mirrored_start env w.store) rfl

theorem restartRestores_iff (w : World ρ) : RestartRestores qt app w ↔ Mirrored qt w := by
  have hstart (env : Env) : (start qt app env w.store).controller.geoRoutingCountry =
      qt.toUpper (qt.trimmed w.store.geoRoutingCountry) := congrArg Prod.fst (selection_start env w.store)
  constructor
  · intro h
    exact (hstart ⟨0, ""⟩).symm.trans (h ⟨0, ""⟩)
  · intro h env
    exact (hstart env).trans h

theorem mirrored_throughout_iff {qt : Qt} (hqt : Normalizes qt) (env : Env) (store : Store ρ) (life : List Happening) :
    (∀ past, past <+: life → Mirrored qt (lived qt app env store past)) ↔
      Along (happen qt app) (fun w h => h.dropsCountry w = false) (start qt app env store) life :=
  forall_prefix_iff_along (mirrored_start env store)
    (fun _ h hw => mirrored_happen_iff app hqt h hw) life

/-- The storage mirrors the selection for as long as no server without country lists answers while
a country is selected. -/
theorem stored_country_mirrored_iff (hqt : Normalizes qt) (env : Env) (store : Store ρ) (life : List Happening) :
    (∀ past, past <+: life →
      Mirrored qt (lived qt app env store past) ∧ RestartRestores qt app (lived qt app env store past)) ↔
      Along (happen qt app) (fun w h => h.dropsCountry w = false) (start qt app env store) life := by
  rw [← mirrored_throughout_iff app hqt]
  refine forall₂_congr fun past _ => ?_
  rw [restartRestores_iff, and_self]

end

def countryStore : Store Unit := { signedInStore with geoRoutingCountry := "RU" }

theorem plainQt_normalizes : Normalizes plainQt := ⟨fun _ => rfl, rfl⟩

/-- The selected country is on the server's list, and the application is restarted. -/
theorem stored_country_mirrored_listed :
    Normalizes plainQt ∧ ∀ past, past <+: (untilRouting.take 3).map Happening.step ++
        [.step (plainStep (.reply 3 (okReply [("countries", .array [.string "RU"])]))), .restart plainEnv] →
      Mirrored plainQt (lived plainQt plainApp plainEnv countryStore past) ∧
        RestartRestores plainQt plainApp (lived plainQt plainApp plainEnv countryStore past) :=
  ⟨plainQt_normalizes,
    (stored_country_mirrored_iff plainQt plainApp plainQt_normalizes plainEnv countryStore _).mpr (by decide +kernel)⟩

/-- The stored country is read at the start; a 404 for the country list then drops it in memory
only, and the next start selects it again. -/
theorem country_dropped_in_memory_only :
    (start plainQt plainApp plainEnv countryStore).controller.geoRoutingCountry = "RU" ∧
      (lived plainQt plainApp plainEnv countryStore (untilRouting.map .step)).selection = ("", "RU") ∧
      ¬Mirrored plainQt (lived plainQt plainApp plainEnv countryStore (untilRouting.map .step)) ∧
      (lived plainQt plainApp plainEnv countryStore
        (untilRouting.map .step ++ [.restart plainEnv])).controller.geoRoutingCountry = "RU" := by
  have hs : (lived plainQt plainApp plainEnv countryStore (untilRouting.map .step)).selection = ("", "RU") := by
    decide +kernel
  refine ⟨by decide +kernel, hs, fun hm => ?_, by decide +kernel⟩
  obtain ⟨hc, hr⟩ := Prod.mk.inj hs
  rw [Mirrored, hc, hr] at hm
  exact absurd hm (by decide)

end TunnelCore.Account
