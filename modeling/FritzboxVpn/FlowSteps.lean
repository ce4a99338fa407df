import FritzboxVpn.FlowRuns

namespace FritzboxVpn.FlowSteps

open ConfigEntries ConfigFlow Constants Exceptions FlowForms FlowRuns FritzConfigSource HostValidation
  JsonValue OptionsFlow OrderedDict SharedInvariants Tasks Tasks.Task UpdateInterval

theorem loginData_get? (host username password : Json) (key : String) :
    (loginData host username password).get? key =
      if key = confPassword then some password
      else if key = confUsername then some username else if key = confHost then some host else none := by
  simp only [loginData, Dict.ofList, List.foldl_cons, List.foldl_nil, Dict.get?_insert, Dict.get?_empty]

theorem hasLogin_loginData (host username : Json) (password : String) :
    HasLogin (loginData host username (.str password)) host username password := by
  constructor <;> rw [loginData_get?] <;> rfl

theorem hasLogin_congr {config config' : Config} {host username : Json} {password : String}
    (h : HasLogin config host username password)
    (hsame : ∀ key ∈ [confHost, confUsername, confPassword, "pass"], config'.get? key = config.get? key) :
    HasLogin config' host username password := by
  refine ⟨?_, ?_, ?_, ?_⟩
  · exact (hsame confHost (by simp)).trans h.host
  · exact (hsame confUsername (by simp)).trans h.username
  · exact (hsame confPassword (by simp)).trans h.password
  · exact (hsame "pass" (by simp)).trans h.pass

theorem value_of_get? {config : Config} {key : String} {v : Json} (h : config.get? key = some v) :
    value config key = v := by
  rw [value, h, Option.getD_some]

theorem isEmpty_of_get? {config : Config} {key : String} {v : Json} (h : config.get? key = some v) :
    config.isEmpty = false := by
  rw [Bool.eq_false_iff]
  intro hempty
  rw [Dict.isEmpty_iff] at hempty
  have hkey : key ∈ config.keys := Dict.mem_keys_iff.mpr ⟨v, h⟩
  rw [hempty] at hkey
  exact absurd hkey (Finset.notMem_empty key)

theorem passwordFromSource_of_hasLogin {config : Config} {host username : Json} {password : String}
    (h : HasLogin config host username password) (repr : Json → String) :
    passwordFromSource repr (some config) = password := by
  have hpassword := value_of_get? h.password
  have hpass : value config "pass" = .null := by
    rw [value, h.pass, Option.getD_none]
  have hsame : value config "password" = .str password := hpassword
  rw [passwordFromSource, isEmpty_of_get? h.host, if_neg Bool.false_ne_true, hpassword, hsame, hpass]
  by_cases hempty : password = ""
  · subst hempty
    rfl
  · have htrue : truthy (.str password) = true := bne_iff_ne.mpr hempty
    simp only [pyOr, htrue, if_true, pyStr_str]

theorem passwordFromSources_of_hasLogin {config : Config} {host username : Json} {password : String}
    (h : HasLogin config host username password) (repr : Json → String) :
    passwordFromSources repr [some config] = password := by
  rw [passwordFromSources, passwordFromSource_of_hasLogin h, passwordFromSources]
  split
  · rfl
  · rename_i hempty
    exact (not_not.mp hempty).symm

theorem fillPasswordIfMissing_hasLogin {config : Config} {host username : Json} {password : String}
    (h : HasLogin config host username password) (repr : Json → String) (sources : List (Option Config)) :
    ∃ filled, HasLogin (fillPasswordIfMissing repr config sources) host username filled ∧
      ∀ key ≠ confPassword, (fillPasswordIfMissing repr config sources).get? key = config.get? key := by
  rw [fillPasswordIfMissing]
  split
  · exact ⟨password, h, fun _ _ => rfl⟩
  · have hsame : ∀ key ≠ confPassword, (config.insert confPassword
        (.str (passwordFromSources repr sources))).get? key = config.get? key :=
      fun key hkey => Dict.get?_insert_ne config hkey _
    refine ⟨passwordFromSources repr sources, ⟨?_, ?_, Dict.get?_insert_self _ _ _, ?_⟩, hsame⟩
    · exact (hsame confHost (by decide)).trans h.host
    · exact (hsame confUsername (by decide)).trans h.username
    · exact (hsame "pass" (by decide)).trans h.pass

theorem validateHost_eq {chars : CharClass} {host result : String}
    (h : validateHost chars (.str host) = .ok result) : result = host := by
  rw [validateHost] at h
  split at h
  · cases h
  · split at h
    · exact (Except.ok.inj h).symm
    · split at h
      · cases h
      · split at h
        · cases h
        · split at h
          · cases h
          · exact (Except.ok.inj h).symm

inductive Reported : Dict String String → Prop
  | host : Reported (Dict.empty.insert confHost errorKeyInvalidHost)
  | cannotConnect : Reported (Dict.empty.insert "base" errorKeyCannotConnect)
  | invalidAuth : Reported (Dict.empty.insert "base" errorKeyInvalidAuth)

def loginSteps : List String := ["user", "confirm", "reauth_confirm", "reconfigure", "configure"]

def Reporting : FlowResult → Prop
  | .form stepId _ errors => errors = Dict.empty ∨ (stepId ∈ loginSteps ∧ Reported errors) ∨
      (stepId = "cleanup_confirm" ∧ Unavailable errors)
  | _ => True

theorem reporting_empty (stepId : String) (schema : Schema) :
    Reporting (.form stepId schema Dict.empty) := Or.inl rfl

theorem Reported.reporting {errors : Dict String String} (h : Reported errors) {stepId : String}
    (hstep : stepId ∈ loginSteps) (schema : Schema) : Reporting (.form stepId schema errors) :=
  Or.inr (Or.inl ⟨hstep, h⟩)

def Failed (err : FlowError) : Prop := err = .cannotConnect ∨ err = .invalidAuth

theorem Failed.reported {err : FlowError} (h : Failed err) :
    Reported (setValidationError Dict.empty err) := by
  rcases h with rfl | rfl
  · exact .cannotConnect
  · exact .invalidAuth

theorem validateHostOnSubmit_cases (chars : CharClass) (repr : Json → String) {userInput : Config}
    {host : String} (h : userInput.get? confHost = some (.str host)) :
    (validateHostOnSubmit chars repr userInput Dict.empty = (true, Dict.empty) ∧
        validateHost chars (.str host) = .ok host) ∨
      ∃ errors, validateHostOnSubmit chars repr userInput Dict.empty = (false, errors) ∧ Reported errors := by
  have hsubmitted : submittedHost repr userInput = host := by
    rw [submittedHost, h, Option.getD_some, pyStr_str]
  rw [validateHostOnSubmit, hsubmitted]
  cases hv : validateHost chars (.str host) with
  | ok result =>
      rw [validateHost_eq hv]
      exact Or.inl ⟨rfl, rfl⟩
  | error e => exact Or.inr ⟨_, rfl, .host⟩

section Keeps

variable (L : Libraries) (calls : List Call) {β γ : Type}

/-- From the store on the task keeps the entries good, whatever others do meanwhile. -/
abbrev Keeps (said : List (Ask × Answer)) (s : Store) (t : FlowM β)
    (ok : List (Ask × Answer) → β → Prop) (err : FlowError → Prop) : Prop :=
  Maintains (goodInvariant L calls) said s t ok err

variable {L calls} {said : List (Ask × Answer)} {s : Store} {ok : List (Ask × Answer) → β → Prop}
  {err : FlowError → Prop}

theorem keeps_pure (hs : Good L calls said s) {b : β} (h : ok said b) :
    Keeps L calls said s (pure b) ok err := maintains_pure hs h

theorem keeps_throw (hs : Good L calls said s) {e : FlowError} (h : err e) :
    Keeps L calls said s (throw e : FlowM β) ok err := maintains_throw hs h

theorem keeps_ended (hs : Good L calls said s) {x : Except FlowError β}
    {P : List (Ask × Answer) → β → Prop} (hok : ∀ b, x = .ok b → P said b)
    (herr : ∀ e, x = .error e → err e) : Keeps L calls said s (ended x) P err :=
  maintains_ended hs hok herr

theorem Keeps.bind {t : FlowM γ} {f : γ → FlowM β} {m : List (Ask × Answer) → γ → Prop}
    (h : Keeps L calls said s t m err)
    (hf : ∀ later s' c, said ⊆ later → Good L calls later s' → m later c →
      Keeps L calls later s' (f c) ok err) : Keeps L calls said s (t >>= f) ok err :=
  Maintains.bind h hf

theorem Keeps.tryCatch {t : FlowM β} {h : FlowError → FlowM β} {E : FlowError → Prop}
    (ht : Keeps L calls said s t ok E)
    (hh : ∀ later s' e, said ⊆ later → Good L calls later s' → E e →
      Keeps L calls later s' (h e) ok err) : Keeps L calls said s (tryCatch t h) ok err :=
  Maintains.tryCatch ht hh

theorem keeps_request (hs : Good L calls said s) {r : Ask} {P : List (Ask × Answer) → Answer → Prop}
    (h : ∀ a later, (r, a) ∈ later → P later a) : Keeps L calls said s (request r) P err :=
  maintains_request hs trivial h

theorem keeps_getEntry (hs : Good L calls said s) (entryId : Nat)
    {P : List (Ask × Answer) → Entry → Prop}
    (h : ∀ entry, s.entries.get? entryId = some entry → GoodEntry L calls said entry → P said entry)
    (herr : err (unknownEntry entryId)) : Keeps L calls said s (getEntry entryId) P err := by
  rw [getEntry, Keeps, Maintains, preserves_bind, preserves_read]
  cases he : s.entries.get? entryId with
  | none => exact keeps_throw hs herr
  | some entry => exact keeps_pure hs (h entry he (hs.entries entryId entry he))

/-- A change of an entry that leaves it good, and leaves its unique id. -/
theorem keeps_asyncUpdateEntry (hs : Good L calls said s) {entryId : Nat} {change : Entry → Entry}
    {P : List (Ask × Answer) → Unit → Prop} (hok : P said ())
    (hchange : ∀ entry, GoodEntry L calls said entry →
      GoodEntry L calls said (change entry) ∧ (change entry).uniqueId = entry.uniqueId)
    (herr : err (unknownEntry entryId)) :
    Keeps L calls said s (asyncUpdateEntry L.entries entryId change) P err := by
  rw [asyncUpdateEntry, getEntry, Keeps, Maintains, preserves_bind, preserves_bind, preserves_read]
  cases he : s.entries.get? entryId with
  | none => exact ⟨List.Subset.refl _, hs, herr⟩
  | some entry =>
      obtain ⟨hgood, hid⟩ := hchange entry (hs.entries entryId entry he)
      exact ⟨List.Subset.refl _, hs.updated he hgood hid, hok⟩

theorem Keeps.managed {t : FlowM FlowResult} {flow : FlowId}
    (h : Keeps L calls said s t (fun _ result => Reporting result) fun _ => True) :
    Keeps L calls said s (managed L.entries flow t) (fun _ result => Reporting result) fun _ => True := by
  refine Keeps.tryCatch h fun later s' e _ hs' _ => ?_
  cases e with
  | abortFlow reason =>
      rw [Keeps, Maintains, preserves_bind, preserves_update, preserves_pure]
      exact ⟨List.Subset.refl _, hs'.leaves_none (L.entries.aborted s' flow), trivial⟩
  | cannotConnect => exact keeps_throw hs' trivial
  | invalidAuth => exact keeps_throw hs' trivial
  | other err => exact keeps_throw hs' trivial

end Keeps

section Validation

variable {L : Libraries} {calls : List Call} {said : List (Ask × Answer)} {s : Store} {data : Config}
  {host username : Json} {password : String}

theorem getItem_of_get? {config : Config} {key : String} {v : Json} (h : config.get? key = some v) :
    getItem config key = .ok v := by
  rw [getItem, h]

theorem validateInput_keeps (hs : Good L calls said s) (hlogin : HasLogin data host username password) :
    Keeps L calls said s (validateInput L.lib data)
      (fun later _ => Fetched L later host username password) Failed := by
  rw [validateInput, getItem_of_get? hlogin.host, getItem_of_get? hlogin.username,
    passwordFromSources_of_hasLogin hlogin L.lib.repr]
  refine Keeps.bind (m := fun _ v => v = host) (keeps_pure hs rfl) ?_
  rintro said s v - hs rfl
  refine Keeps.bind (m := fun _ w => w = username) (keeps_pure hs rfl) ?_
  rintro said s w - hs rfl
  refine Keeps.bind (m := fun later a => (.fetch v w password, a) ∈ later)
    (keeps_request hs fun a later ha => ha) ?_
  intro later s' a _ hs' ha
  refine keeps_ended hs' ?_ ?_
  · intro title htitle
    cases hf : fetched L.lib v w password a with
    | ok u => exact ⟨a, ha, hf⟩
    | error e =>
        rw [hf, verdict] at htitle
        split at htitle <;> cases htitle
  · intro err herr
    cases hf : fetched L.lib v w password a with
    | ok u =>
        rw [hf, verdict] at herr
        cases herr
    | error e =>
        rw [hf, verdict] at herr
        split at herr <;> cases herr
        · exact Or.inr rfl
        · exact Or.inl rfl

theorem tested_keeps (hs : Good L calls said s) (hlogin : HasLogin data host username password)
    {err : FlowError → Prop} :
    Keeps L calls said s (tested L data Dict.empty)
      (fun later x => (∀ title, x = .ok title → Fetched L later host username password) ∧
        ∀ errors, x = .error errors → Reported errors) err := by
  refine Keeps.tryCatch (E := Failed) ?_ ?_
  · refine (validateInput_keeps hs hlogin).bind ?_
    intro later s' title _ hs' hfetched
    refine keeps_pure hs' ⟨fun _ _ => hfetched, ?_⟩
    intro errors h
    cases h
  · intro later s' e _ hs' he
    refine keeps_pure hs' ⟨?_, ?_⟩
    · intro title h
      cases h
    · intro errors h
      cases h
      exact he.reported

/-- The form is valid only with a login that was tested and a host that was accepted. -/
theorem asyncValidateConfigureInput_keeps {text : String} {sources : List (Option Config)}
    {err : FlowError → Prop} (hs : Good L calls said s)
    (hlogin : HasLogin data (.str text) username password) :
    Keeps L calls said s (asyncValidateConfigureInput L.chars L.lib data Dict.empty sources)
      (fun later x => (∀ u, x.1 = .ok u → ∃ filled, HasLogin x.2 (.str text) username filled ∧
          Fetched L later (.str text) username filled ∧ Vetted L later (.str text) ∧
            x.2.get? confUpdateInterval = data.get? confUpdateInterval) ∧
        ∀ errors, x.1 = .error errors → Reported errors) err := by
  obtain ⟨filled, hfilled, hsame⟩ := fillPasswordIfMissing_hasLogin hlogin L.lib.repr sources
  have hinterval := hsame confUpdateInterval (by decide)
  rw [asyncValidateConfigureInput]
  dsimp only
  rcases validateHostOnSubmit_cases L.chars L.lib.repr hfilled.host with
    ⟨hvalid, haccepted⟩ | ⟨errors, hinvalid, hreported⟩
  · rw [hvalid]
    refine Keeps.tryCatch (E := Failed) ?_ ?_
    · refine (validateInput_keeps hs hfilled).bind ?_
      intro later s' title _ hs' hfetched
      refine keeps_pure hs' ⟨fun _ _ => ?_, ?_⟩
      · exact ⟨filled, hfilled, hfetched, Or.inl ⟨text, rfl, haccepted⟩, hinterval⟩
      · intro errors h
        cases h
    · intro later s' e _ hs' he
      refine keeps_pure hs' ⟨?_, ?_⟩
      · intro u h
        cases h
      · intro errors h
        cases h
        exact he.reported
  · rw [hinvalid]
    refine keeps_pure hs ⟨?_, ?_⟩
    · intro u h
      cases h
    · intro errors' h
      cases h
      exact hreported

end Validation

end FritzboxVpn.FlowSteps
