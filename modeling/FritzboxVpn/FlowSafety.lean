import FritzboxVpn.FailedPolls
import FritzboxVpn.MemoryEntries
import FritzboxVpn.StoredLogins

namespace FritzboxVpn.FlowSafety

open ConfigEntries ConfigFlow Constants Exceptions FlowForms FlowRuns FlowSteps FritzConfigSource
  HostValidation JsonValue OrderedDict Pools Runs SharedInvariants StoredLogins UpdateInterval
open FritzconnectionSession (ofPyError)

def shownForm : FlowM FlowResult → Option (String × Dict String String)
  | .ret (.form stepId _ errors) => some (stepId, errors)
  | _ => none

theorem form_of_shownForm {t : FlowM FlowResult} {stepId : String} {errors : Dict String String}
    (h : shownForm t = some (stepId, errors)) : ∃ schema, t = .ret (.form stepId schema errors) := by
  cases t with
  | ret result =>
      cases result with
      | form name schema shown =>
          cases h
          exact ⟨schema, rfl⟩
      | createEntry title data => cases h
      | abort reason => cases h
  | raise e => cases h
  | look k => cases h
  | change f t => cases h
  | ask r k => cases h
  | pause t => cases h

section Safety

variable {L : Libraries} {calls : List Call}
  {hist : List (Record FlowPool (Nat × Answer) (Option (Ask × Answer)))} {p : FlowPool}

theorem flows_sound (h : Run (flowsMachine L calls) hist p) :
    Sound (goodInvariant L calls) Reporting p := by
  refine run_sound good_init (fun t ht => ?_) h
  obtain ⟨c, hc, rfl⟩ := List.mem_map.mp ht
  intro said s _ hs
  exact Preserves.mono (task_keeps hs hc) (fun _ _ _ hb => hb.2) fun _ _ _ he => he.2.1

theorem goodEntry_of_run (h : Run (flowsMachine L calls) hist p) {entryId : Nat} {e : Entry}
    (he : p.shared.entries.get? entryId = some e) : GoodEntry L calls p.trace e :=
  (flows_sound h).holds.entries entryId e he

/-- Whatever the order of the flows' steps, the coordinator of an entry makes its session
with a login that a fetch has succeeded with, as a whole. -/
theorem stored_login_fetched (h : Run (flowsMachine L calls) hist p) {entryId : Nat} {e : Entry}
    (he : p.shared.entries.get? entryId = some e) : ∃ host username password,
      coordinatorLogin e.data = .ok (host, username, .str password) ∧
        ∃ a, (.fetch host username password, a) ∈ p.trace ∧
          fetched L.lib host username password a = .ok () := by
  obtain ⟨host, username, password, hlogin, hfetched, -⟩ := (goodEntry_of_run h he).login
  refine ⟨host, username, password, ?_, hfetched⟩
  rw [coordinatorLogin, getItem_of_get? hlogin.username, getItem_of_get? hlogin.password, hostFromConfig,
    hlogin.host]
  rfl

/-- The host of an entry was accepted, or a router's entry of another integration had it
when it was asked. -/
theorem stored_host_vetted (h : Run (flowsMachine L calls) hist p) {entryId : Nat} {e : Entry}
    (he : p.shared.entries.get? entryId = some e) :
    (∃ text, hostFromConfig e.data = .str text ∧ validateHost L.chars (.str text) = .ok text) ∨
      ∃ a, (.foreignEntries, a) ∈ p.trace ∧ ∃ domain ∈ fritzIntegrationDomains, ∃ entries,
        a.foreign domain = some entries ∧ ∃ entry ∈ entries, entry.state = .other ∧
          isRepeater entry = false ∧ (loginOf L.lib.repr entry).1 = hostFromConfig e.data := by
  obtain ⟨host, _, _, hlogin, -, hvetted⟩ := (goodEntry_of_run h he).login
  have hhost : hostFromConfig e.data = host := by
    rw [hostFromConfig, hlogin.host, Option.getD_some]
  rw [hhost]
  rcases hvetted with haccepted | ⟨a, config, ha, hconfig, hhost⟩
  · exact Or.inl haccepted
  · obtain ⟨domain, hdomain, entries, hentries, entry, hmem, hstate, hrepeater, hentry⟩ :=
      getExistingFritzConfig_source hconfig
    refine Or.inr ⟨a, ha, domain, hdomain, entries, hentries, entry, hmem, hstate, hrepeater, ?_⟩
    rw [hostUsernamePasswordFromEntry] at hentry
    split at hentry
    · obtain rfl := Option.some.inj hentry
      rw [loginData_get?] at hhost
      exact Option.some.inj hhost
    · cases hentry

/-- No two entries have one unique id. -/
theorem uniqueIds_differ (h : Run (flowsMachine L calls) hist p) {i j : Nat} {e e' : Entry}
    {uniqueId : String} (hi : p.shared.entries.get? i = some e) (hj : p.shared.entries.get? j = some e')
    (hu : e.uniqueId = some uniqueId) (hu' : e'.uniqueId = some uniqueId) : i = j :=
  (flows_sound h).holds.unique i j e e' uniqueId hi hj hu hu'

theorem readers_agree {data options : Config} {n : Int} (chars : CharClass)
    (coordinator : Option Coordinator.State) (hdata : data.get? confUpdateInterval = none)
    (hoptions : (options.get? confUpdateInterval = none ∧ n = defaultUpdateInterval) ∨
      options.get? confUpdateInterval = some (.int n))
    (hmin : updateIntervalMin ≤ n) (hmax : n ≤ updateIntervalMax) :
    resolveUpdateIntervalSeconds data options = .ok n ∧
      (asyncGetConfigEntryDiagnostics data options coordinator).map
        Diagnostics.updateIntervalSeconds = .ok n ∧
      (configureSchema chars data options).map ConfigureSchema.updateInterval = .ok n := by
  have hvalue : value data confUpdateInterval = .null := by
    rw [value, hdata, Option.getD_none]
  rcases hoptions with ⟨hnone, rfl⟩ | hsome
  · have hvalue' : value options confUpdateInterval = .null := by
      rw [value, hnone, Option.getD_none]
    rw [resolveUpdateIntervalSeconds, asyncGetConfigEntryDiagnostics, configureSchema, hvalue, hvalue', hnone]
    exact ⟨rfl, rfl, rfl⟩
  · have hclamp : normalizeUpdateInterval (.int n) = .ok n := by
      rw [normalizeUpdateInterval, clamp, if_pos ⟨hmin, hmax⟩]
    have htrue : truthy (.int n) = true := by
      have hpos : 5 ≤ n := hmin
      refine bne_iff_ne.mpr ?_
      omega
    have hpick : ∀ v, pyOr (.int n) v = .int n := fun v => if_pos htrue
    rw [resolveUpdateIntervalSeconds, asyncGetConfigEntryDiagnostics, configureSchema,
      value_of_get? hsome, hsome, hpick, hpick, Option.getD_some, hclamp]
    exact ⟨rfl, rfl, rfl⟩

/-- The coordinator, the diagnostics and the form read one interval of every entry: the
default, or one that was submitted. -/
theorem stored_interval_agreed (h : Run (flowsMachine L calls) hist p) {entryId : Nat} {e : Entry}
    (he : p.shared.entries.get? entryId = some e) (coordinator : Option Coordinator.State) :
    ∃ n, (n = defaultUpdateInterval ∨ ∃ c ∈ calls, c.interval = some n) ∧
      resolveUpdateIntervalSeconds e.data e.options = .ok n ∧
      (asyncGetConfigEntryDiagnostics e.data e.options coordinator).map
        Diagnostics.updateIntervalSeconds = .ok n ∧
      (configureSchema L.chars e.data e.options).map ConfigureSchema.updateInterval = .ok n := by
  have hgood := goodEntry_of_run h he
  cases ho : e.options.get? confUpdateInterval with
  | none =>
      exact ⟨defaultUpdateInterval, Or.inl rfl,
        readers_agree L.chars coordinator hgood.data (Or.inl ⟨ho, rfl⟩) (by decide) (by decide)⟩
  | some v =>
      obtain ⟨c, hc, n, hn, hmin, hmax, rfl⟩ := hgood.options v ho
      exact ⟨n, Or.inr ⟨c, hc, hn⟩, readers_agree L.chars coordinator hgood.data (Or.inr ho) hmin hmax⟩

/-- A form shows no error, or one of its step: where a login is asked for, a rejected host or
one of the two ways a test fails; where a cleanup is to be confirmed, why it cannot be told what
is gone. The error of anything else is never shown. -/
theorem shown_errors (h : Run (flowsMachine L calls) hist p)
    {th : Thread Store Ask Answer FlowError FlowResult} (hth : th ∈ p.threads) {stepId : String}
    {errors : Dict String String} (hshown : shownForm th.task = some (stepId, errors)) :
    errors = Dict.empty ∨
      (stepId ∈ ["user", "confirm", "reauth_confirm", "reconfigure", "configure"] ∧
        (errors = Dict.ofList [(confHost, errorKeyInvalidHost)] ∨
          errors = Dict.ofList [("base", errorKeyCannotConnect)] ∨
            errors = Dict.ofList [("base", errorKeyInvalidAuth)])) ∨
      stepId = "cleanup_confirm" ∧
        (errors = Dict.ofList [("base", "integration_not_loaded")] ∨
          errors = Dict.ofList [("base", "coordinator_not_ready")]) := by
  obtain ⟨schema, hform⟩ := form_of_shownForm hshown
  have hreporting : Reporting (.form stepId schema errors) := (flows_sound h).result hth hform
  rcases hreporting with hnone | ⟨hstep, hreported⟩ | ⟨hstep, hunavailable⟩
  · exact Or.inl hnone
  · refine Or.inr (Or.inl ⟨hstep, ?_⟩)
    cases hreported with
    | host => exact Or.inl rfl
    | cannotConnect => exact Or.inr (Or.inl rfl)
    | invalidAuth => exact Or.inr (Or.inr rfl)
  · refine Or.inr (Or.inr ⟨hstep, ?_⟩)
    cases hunavailable with
    | notLoaded => exact Or.inl rfl
    | notReady => exact Or.inr rfl

end Safety

def officeLibraries : Libraries := ⟨FailedPolls.flatLibrary, asciiChars, id, MemoryEntries.memoryEntries⟩

def officeLogin : Credentials := ⟨"fritz.box", "admin", "secret"⟩

def userCalls : List Call :=
  [.submitUser 1 {} officeLogin,
    .submitReconfigure 0 ⟨{ officeLogin with password := "" }, 60, by decide, by decide⟩]

def discoveryCalls : List Call :=
  [.submitConfirm 1 "fritz.box" "uuid" none officeLogin, .submitConfirm 2 "fritz.box" "uuid" none officeLogin]

def played (calls : List Call) (turns : List (Nat × Answer)) : FlowPool :=
  ((flowsMachine officeLibraries calls).play turns).2

theorem played_run (calls : List Call) (turns : List (Nat × Answer)) :
    Run (flowsMachine officeLibraries calls) ((flowsMachine officeLibraries calls).play turns).1
      (played calls turns) := run_play _ turns

def userTurns : List (Nat × Answer) := [(1, {}), (1, {}), (0, {}), (0, {})]

def refused : Answer where
  box _ _ := { done := .error (ofPyError (osError "No route to host")) }

def refusedTurns : List (Nat × Answer) := [(0, refused), (0, {})]

theorem user_entry : ((played userCalls userTurns).shared.entries.get? 0).isSome = true := by
  decide +kernel

theorem user_login_fetched : ∃ e, (played userCalls userTurns).shared.entries.get? 0 = some e ∧
    ∃ host username password, coordinatorLogin e.data = .ok (host, username, .str password) ∧
      ∃ a, (.fetch host username password, a) ∈ (played userCalls userTurns).trace ∧
        fetched officeLibraries.lib host username password a = .ok () := by
  obtain ⟨e, he⟩ := Option.isSome_iff_exists.mp user_entry
  exact ⟨e, he, stored_login_fetched (played_run userCalls userTurns) he⟩

theorem user_host_vetted : ∃ e, (played userCalls userTurns).shared.entries.get? 0 = some e ∧
    ((∃ text, hostFromConfig e.data = .str text ∧
        validateHost officeLibraries.chars (.str text) = .ok text) ∨
      ∃ a, (.foreignEntries, a) ∈ (played userCalls userTurns).trace ∧
        ∃ domain ∈ fritzIntegrationDomains, ∃ entries, a.foreign domain = some entries ∧
          ∃ entry ∈ entries, entry.state = .other ∧ isRepeater entry = false ∧
            (loginOf officeLibraries.lib.repr entry).1 = hostFromConfig e.data) := by
  obtain ⟨e, he⟩ := Option.isSome_iff_exists.mp user_entry
  exact ⟨e, he, stored_host_vetted (played_run userCalls userTurns) he⟩

theorem user_interval_agreed : ∃ e, (played userCalls userTurns).shared.entries.get? 0 = some e ∧
    ∃ n, (n = defaultUpdateInterval ∨ ∃ c ∈ userCalls, c.interval = some n) ∧
      resolveUpdateIntervalSeconds e.data e.options = .ok n ∧
      (asyncGetConfigEntryDiagnostics e.data e.options none).map
        Diagnostics.updateIntervalSeconds = .ok n ∧
      (configureSchema officeLibraries.chars e.data e.options).map ConfigureSchema.updateInterval = .ok n := by
  obtain ⟨e, he⟩ := Option.isSome_iff_exists.mp user_entry
  exact ⟨e, he, stored_interval_agreed (played_run userCalls userTurns) he none⟩

def discoveryTurns : List (Nat × Answer) := [(1, {}), (0, {}), (1, {}), (0, {})]

/-- The second flow finds the entry of the first. -/
theorem discovery_uniqueIds : ∃ e, (played discoveryCalls discoveryTurns).shared.entries.get? 0 = some e ∧
    ∀ j e', (played discoveryCalls discoveryTurns).shared.entries.get? j = some e' →
      e'.uniqueId = some "uuid" → 0 = j := by
  have hfound : ((played discoveryCalls discoveryTurns).shared.entries.get? 0).bind Entry.uniqueId =
      some "uuid" := by decide +kernel
  obtain ⟨e, he, hu⟩ := Option.bind_eq_some_iff.mp hfound
  exact ⟨e, he, fun j e' hj hu' => uniqueIds_differ (played_run discoveryCalls discoveryTurns) he hj hu hu'⟩

theorem refused_errors : ∃ th ∈ (played userCalls refusedTurns).threads, ∃ stepId errors,
    shownForm th.task = some (stepId, errors) ∧
      (errors = Dict.empty ∨
        (stepId ∈ ["user", "confirm", "reauth_confirm", "reconfigure", "configure"] ∧
          (errors = Dict.ofList [(confHost, errorKeyInvalidHost)] ∨
            errors = Dict.ofList [("base", errorKeyCannotConnect)] ∨
              errors = Dict.ofList [("base", errorKeyInvalidAuth)])) ∨
        stepId = "cleanup_confirm" ∧
          (errors = Dict.ofList [("base", "integration_not_loaded")] ∨
            errors = Dict.ofList [("base", "coordinator_not_ready")])) := by
  have hshown : (played userCalls refusedTurns).threads.any (fun th => (shownForm th.task).isSome) =
      true := by decide +kernel
  obtain ⟨th, hth, hsome⟩ := List.any_eq_true.mp hshown
  obtain ⟨⟨stepId, errors⟩, hform⟩ := Option.isSome_iff_exists.mp hsome
  exact ⟨th, hth, stepId, errors, hform, shown_errors (played_run userCalls refusedTurns) hth hform⟩

end FritzboxVpn.FlowSafety
