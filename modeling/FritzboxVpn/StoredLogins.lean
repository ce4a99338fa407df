import FritzboxVpn.FlowSteps

namespace FritzboxVpn.StoredLogins

open ConfigEntries ConfigFlow Constants Exceptions FlowForms FlowRuns FlowSteps FritzConfigSource
  HostValidation JsonValue OptionsFlow OrderedDict SharedInvariants Tasks Tasks.Task UpdateInterval

structure Login (config : Config) (host username : Json) (password : String) : Prop where
  hasLogin : HasLogin config host username password
  interval : config.get? confUpdateInterval = none

theorem login_loginData (host username : Json) (password : String) :
    Login (loginData host username (.str password)) host username password :=
  ⟨hasLogin_loginData host username password, by rw [loginData_get?]; rfl⟩

theorem hostUsernamePasswordFromEntry_login {repr : Json → String} {entry : ForeignEntry} {config : Config}
    (h : hostUsernamePasswordFromEntry repr entry = some config) :
    ∃ host username password, Login config host username password := by
  rw [hostUsernamePasswordFromEntry] at h
  split at h
  · exact ⟨_, _, _, Option.some.inj h ▸ login_loginData _ _ _⟩
  · cases h

theorem getExistingFritzConfig_login {repr : Json → String} {foreign : Foreign} {config : Config}
    (h : getExistingFritzConfig repr foreign = some config) :
    ∃ host username password, Login config host username password := by
  obtain ⟨-, -, -, -, entry, -, -, -, hentry⟩ := getExistingFritzConfig_source h
  exact hostUsernamePasswordFromEntry_login hentry

section Steps

variable {L : Libraries} {calls : List Call} {said : List (Ask × Answer)} {s : Store}

theorem goodEntry_new {data : Config} {host username : Json} {password : String} {uniqueId : Option String}
    (hlogin : Login data host username password) (hfetched : Fetched L said host username password)
    (hvetted : Vetted L said host) : GoodEntry L calls said ⟨data, Dict.empty, uniqueId⟩ := by
  refine ⟨⟨host, username, password, hlogin.hasLogin, hfetched, hvetted⟩, hlogin.interval, ?_⟩
  intro v hv
  cases hv

/-- A flow of the user has no unique id, a discovered one has. -/
def Owned (flow : FlowId) (uniqueId : Option String) : Prop :=
  (flow.source = .user ∧ uniqueId = none) ∨ flow.source = .ssdp ∧ uniqueId.isSome = true

/-- Where a discovered flow has claimed its unique id, no entry has it. -/
theorem claimUniqueId_discovered (hs : Good L calls said s) {flow : FlowId} (hflow : flow.source = .ssdp)
    (uniqueId : String) : Preserves (goodInvariant L calls) said s (claimUniqueId L flow (some uniqueId))
      (fun later s' _ => later = said ∧ Good L calls later s' ∧
        ∀ u, s'.uniqueIds.get? flow = some u → ∀ i e, s'.entries.get? i = some e → e.uniqueId ≠ some u)
      fun later s' _ => later = said ∧ Good L calls later s' := by
  rw [claimUniqueId, preserves_bind, asyncSetUniqueId, preserves_bind, preserves_read]
  cases hset : L.entries.asyncSetUniqueId s flow uniqueId with
  | error e => exact ⟨rfl, hs⟩
  | ok s' =>
      have hs' := hs.claimed hflow (L.entries.claimed s flow uniqueId s' hset)
      dsimp only
      rw [preserves_update, abortIfUniqueIdConfigured, preserves_bind, preserves_read]
      cases hfree : L.entries.abortIfUniqueIdConfigured s' flow with
      | error e => exact ⟨rfl, hs'⟩
      | ok u => exact ⟨rfl, hs', L.entries.notConfigured s' flow hfree⟩

/-- The entry of a tested login is added; nobody else comes in between the check of
the unique id and the entry. -/
theorem createEntry_keeps (hs : Good L calls said s) {flow : FlowId} {uniqueId : Option String}
    (howned : Owned flow uniqueId) {title : String} {data : Config} {host username : Json}
    {password : String} (hlogin : Login data host username password)
    (hfetched : Fetched L said host username password) (hvetted : Vetted L said host) {γ : Type}
    {ok : List (Ask × Answer) → γ → Prop} {f : FlowResult → γ}
    (hok : ∀ later, ok later (f (.createEntry title data))) :
    Keeps L calls said s
      (do
        claimUniqueId L flow uniqueId
        let result ← asyncCreateEntry L.entries flow title data
        pure (f result)) ok fun _ => True := by
  have hadd : ∀ s', Good L calls said s' →
      (∀ u, s'.uniqueIds.get? flow = some u → ∀ i e, s'.entries.get? i = some e → e.uniqueId ≠ some u) →
        Preserves (goodInvariant L calls) said s'
          (asyncCreateEntry L.entries flow title data >>= fun result => pure (f result))
          (fun later s' b => said ⊆ later ∧ Good L calls later s' ∧ ok later b)
          fun later s' (_ : FlowError) => said ⊆ later ∧ Good L calls later s' ∧ True := by
    intro s' hs' hfree
    rw [preserves_bind, asyncCreateEntry, preserves_bind, preserves_update]
    exact ⟨List.Subset.refl _, hs'.added flow (goodEntry_new hlogin hfetched hvetted) hfree, hok said⟩
  rw [Keeps, Maintains, preserves_bind]
  rcases howned with ⟨hsource, rfl⟩ | ⟨hsource, hsome⟩
  · refine hadd s hs fun u hu => ?_
    obtain ⟨source, n⟩ := flow
    obtain rfl : source = .user := hsource
    rw [hs.users n] at hu
    cases hu
  · obtain ⟨u, rfl⟩ := Option.isSome_iff_exists.mp hsome
    refine Preserves.mono (claimUniqueId_discovered hs hsource u) ?_ ?_
    · rintro later s' - ⟨rfl, hs', hfree⟩
      exact hadd s' hs' hfree
    · rintro later s' - ⟨rfl, hs'⟩
      exact ⟨List.Subset.refl _, hs', trivial⟩

theorem tryCreateEntry_keeps (hs : Good L calls said s) {flow : FlowId} {uniqueId : Option String}
    (howned : Owned flow uniqueId) (input : Credentials) (sources : List (Option Config)) :
    Keeps L calls said s
      (tryCreateEntryFromCredentials L flow input.input Dict.empty sources uniqueId)
      (fun _ x => (∀ result, x = .ok result → Reporting result) ∧
        ∀ shown, x = .error shown → Reported shown.2) fun _ => True := by
  have hinput : Login input.input (.str input.host) (.str input.username) input.password :=
    login_loginData _ _ _
  obtain ⟨filled, hfilled, hsame⟩ := fillPasswordIfMissing_hasLogin hinput.hasLogin L.lib.repr sources
  have hlogin : Login _ _ _ filled :=
    ⟨hfilled, (hsame confUpdateInterval (by decide)).trans hinput.interval⟩
  rw [tryCreateEntryFromCredentials]
  dsimp only
  rcases validateHostOnSubmit_cases L.chars L.lib.repr hfilled.host with
    ⟨hvalid, haccepted⟩ | ⟨errors, hinvalid, hreported⟩
  · rw [hvalid]
    refine (tested_keeps hs hfilled).bind ?_
    rintro later s' x - hs' ⟨hok, herror⟩
    cases x with
    | ok title =>
        have hvetted : Vetted L later (.str input.host) := Or.inl ⟨input.host, rfl, haccepted⟩
        refine createEntry_keeps hs' howned hlogin (hok title rfl) hvetted fun _ => ⟨?_, ?_⟩
        · intro result hresult
          cases hresult
          trivial
        · intro shown h
          cases h
    | error errors =>
        refine keeps_pure hs' ⟨?_, ?_⟩
        · intro result h
          cases h
        · intro shown h
          cases h
          exact herror errors rfl
  · rw [hinvalid]
    refine keeps_pure hs ⟨?_, ?_⟩
    · intro result h
      cases h
    · intro shown h
      cases h
      exact hreported

theorem getExisting_keeps (hs : Good L calls said s) {err : FlowError → Prop} :
    Keeps L calls said s (getExisting L)
      (fun later existing => ∀ config, existing = some config → ∃ host username password,
        Login config host username password ∧ Vetted L later host) err := by
  refine Keeps.bind (m := fun later a => (.foreignEntries, a) ∈ later)
    (keeps_request hs fun a later ha => ha) ?_
  intro later s' a _ hs' ha
  refine keeps_pure hs' fun config hconfig => ?_
  obtain ⟨host, username, password, hlogin⟩ := getExistingFritzConfig_login hconfig
  exact ⟨host, username, password, hlogin, Or.inr ⟨a, config, ha, hconfig, hlogin.hasLogin.host⟩⟩

theorem autoconfigured_keeps (hs : Good L calls said s) (n : Nat) {config : Config}
    {host username : Json} {password : String} (hlogin : Login config host username password)
    (hvetted : Vetted L said host) :
    Keeps L calls said s (autoconfigured L ⟨.user, n⟩ config)
      (fun _ x => (∀ result, x = .ok result → Reporting result) ∧
        ∀ errors, x = .error errors → Reported errors) fun _ => True := by
  refine Keeps.tryCatch (E := Failed) ?_ ?_
  · refine (validateInput_keeps hs hlogin.hasLogin).bind ?_
    intro later s' title hsub hs' hfetched
    have hnew := hs'.added ⟨.user, n⟩
      (goodEntry_new hlogin hfetched (hvetted.mono hsub)) fun u hu => by
        rw [hs'.users n] at hu
        cases hu
    rw [asyncCreateEntry, Keeps, Maintains, preserves_bind, preserves_bind, preserves_update]
    refine ⟨List.Subset.refl _, hnew, ?_, ?_⟩
    · intro result h
      cases h
      trivial
    · intro errors h
      cases h
  · intro later s' e _ hs' he
    have hreported : Reported (Dict.ofList [("base", errorKeyCannotConnect)]) ∧
        Reported (Dict.ofList [("base", errorKeyInvalidAuth)]) := ⟨.cannotConnect, .invalidAuth⟩
    rcases he with rfl | rfl
    · refine keeps_pure hs' ⟨?_, ?_⟩
      · intro result h
        cases h
      · intro errors h
        cases h
        exact hreported.1
    · refine keeps_pure hs' ⟨?_, ?_⟩
      · intro result h
        cases h
      · intro errors h
        cases h
        exact hreported.2

theorem asyncStepUserInit_keeps (hs : Good L calls said s) (n : Nat) :
    Keeps L calls said s (asyncStepUserInit L ⟨.user, n⟩) (fun _ x => Reporting x.1) fun _ => True := by
  refine (getExisting_keeps hs).bind ?_
  intro later s' existing _ hs' hexisting
  cases existing with
  | none => exact keeps_pure hs' (reporting_empty _ _)
  | some config =>
      obtain ⟨host, username, password, hlogin, hvetted⟩ := hexisting config rfl
      dsimp only
      split
      · refine (autoconfigured_keeps hs' n hlogin hvetted).bind ?_
        rintro latest s'' x - hs'' ⟨hok, herror⟩
        cases x with
        | ok result => exact keeps_pure hs'' (hok result rfl)
        | error errors => exact keeps_pure hs'' ((herror errors rfl).reporting (by decide) _)
      · exact keeps_pure hs' (reporting_empty _ _)

theorem asyncStepUser_keeps (hs : Good L calls said s) (n : Nat) (object : FlowObject)
    (input : Credentials) :
    Keeps L calls said s (asyncStepUser L ⟨.user, n⟩ object input.input) (fun _ x => Reporting x)
      fun _ => True := by
  have howned : Owned ⟨.user, n⟩ none := Or.inl ⟨rfl, rfl⟩
  refine (tryCreateEntry_keeps hs howned input [object.existingConfig]).bind ?_
  rintro later s' x - hs' ⟨hok, herror⟩
  cases x with
  | ok result => exact keeps_pure hs' (hok result rfl)
  | error shown => exact keeps_pure hs' ((herror shown rfl).reporting (by decide) _)

theorem asyncStepConfirm_keeps (hs : Good L calls said s) (n : Nat) (object : FlowObject)
    (hobject : object.discoveredUniqueId.isSome = true) (input : Credentials) :
    Keeps L calls said s (asyncStepConfirm L ⟨.ssdp, n⟩ object input.input) (fun _ x => Reporting x)
      fun _ => True := by
  have howned : Owned ⟨.ssdp, n⟩ object.discoveredUniqueId := Or.inr ⟨rfl, hobject⟩
  refine (tryCreateEntry_keeps hs howned input [object.existingConfig]).bind ?_
  rintro later s' x - hs' ⟨hok, herror⟩
  cases x with
  | ok result => exact keeps_pure hs' (hok result rfl)
  | error shown => exact keeps_pure hs' ((herror shown rfl).reporting (by decide) _)

theorem asyncStepSsdp_keeps (hs : Good L calls said s) (n : Nat) (info : SsdpUniqueId.SsdpServiceInfo) :
    Keeps L calls said s (asyncStepSsdp L ⟨.ssdp, n⟩ info) (fun _ x => Reporting x.1) fun _ => True := by
  refine (getExisting_keeps hs).bind ?_
  intro later s' existing _ hs' _
  dsimp only
  split
  · exact keeps_pure hs' trivial
  · split
    · exact keeps_pure hs' trivial
    · cases (SsdpUniqueId.hostFromSsdp L.nfkc info).filter (· ≠ "") with
      | none => exact keeps_pure hs' trivial
      | some host =>
          dsimp only
          split
          · exact keeps_pure hs' trivial
          · have hclaim : Keeps L calls later s' (claimUniqueId L ⟨.ssdp, n⟩
                (some (SsdpUniqueId.uniqueIdForDiscovery info host))) (fun _ _ => True) fun _ => True := by
              refine Preserves.mono (claimUniqueId_discovered hs' rfl _) ?_ ?_
              · rintro _ _ _ ⟨rfl, hs'', -⟩
                exact ⟨List.Subset.refl _, hs'', trivial⟩
              · rintro _ _ _ ⟨rfl, hs''⟩
                exact ⟨List.Subset.refl _, hs'', trivial⟩
            refine hclaim.bind ?_
            intro latest s'' _ _ hs'' _
            refine (getExisting_keeps hs'').bind ?_
            intro _ _ _ _ hs₃ _
            exact keeps_pure hs₃ (reporting_empty _ _)

theorem asyncStepReauthConfirmInit_keeps (hs : Good L calls said s) (entryId : Nat) :
    Keeps L calls said s (asyncStepReauthConfirmInit entryId) (fun _ x => Reporting x) fun _ => True := by
  refine (keeps_getEntry hs entryId (P := fun _ _ => True) (fun _ _ _ => trivial) trivial).bind ?_
  intro later s' entry _ hs' _
  exact keeps_pure hs' (reporting_empty _ _)

/-- A new login of an entry, with the host it had when the login was submitted. -/
theorem goodEntry_withLogin {e : Entry} (h : GoodEntry L calls said e) {host username : Json}
    {password : String} (hfetched : Fetched L said host username password) (hvetted : Vetted L said host) :
    GoodEntry L calls said (withLogin host username (.str password) e) := by
  obtain ⟨_, _, _, hlogin, -, -⟩ := h.login
  have hget : ∀ key, (withLogin host username (.str password) e).data.get? key =
      if key = confPassword then some (.str password)
      else if key = confUsername then some username
      else if key = confHost then some host else e.data.get? key := by
    intro key
    simp only [withLogin, Dict.get?_insert]
  refine ⟨⟨host, username, password, ⟨?_, ?_, ?_, ?_⟩, hfetched, hvetted⟩, ?_, h.options⟩
  · exact (hget confHost).trans rfl
  · exact (hget confUsername).trans rfl
  · exact (hget confPassword).trans rfl
  · exact (hget "pass").trans hlogin.pass
  · exact (hget confUpdateInterval).trans h.data

theorem asyncStepReauthConfirm_keeps (hs : Good L calls said s) (entryId : Nat)
    (username password : String) :
    Keeps L calls said s
      (asyncStepReauthConfirm L entryId
        (Dict.ofList [(confUsername, .str username), (confPassword, .str password)]))
      (fun _ x => Reporting x) fun _ => True := by
  refine (keeps_getEntry hs entryId
    (P := fun later e => ∃ host, hostFromConfig e.data = host ∧ Vetted L later host) ?_ trivial).bind ?_
  · intro entry _ hgood
    obtain ⟨host, _, _, hlogin, -, hvetted⟩ := hgood.login
    exact ⟨host, by rw [hostFromConfig, hlogin.host, Option.getD_some], hvetted⟩
  · rintro later s' entry - hs' ⟨host, hhost, hvetted⟩
    have hinput : ∀ key, (Dict.ofList [(confUsername, Json.str username), (confPassword, .str password)]).get? key =
        if key = confPassword then some (.str password)
        else if key = confUsername then some (.str username) else none := by
      intro key
      simp only [Dict.ofList, List.foldl_cons, List.foldl_nil, Dict.get?_insert, Dict.get?_empty]
    have husername := getItem_of_get? ((hinput confUsername).trans rfl)
    have hpassword := getItem_of_get? ((hinput confPassword).trans rfl)
    dsimp only
    rw [husername, hpassword, hhost]
    refine (tested_keeps hs' (hasLogin_loginData host (.str username) password)).bind ?_
    rintro latest s'' x hsub hs'' ⟨hok, herror⟩
    cases x with
    | ok title =>
        have hfetched := hok title rfl
        refine (keeps_asyncUpdateEntry hs'' (P := fun _ _ => True) trivial ?_ trivial).bind ?_
        · exact fun entry hentry => ⟨goodEntry_withLogin hentry hfetched (hvetted.mono hsub), rfl⟩
        · intro _ _ _ _ hs₃ _
          exact keeps_pure hs₃ trivial
    | error errors => exact keeps_pure hs'' ((herror errors rfl).reporting (by decide) _)

theorem configureForm_keeps (hs : Good L calls said s) {stepId : String}
    (schema : Except PyError ConfigureSchema) {errors : Dict String String}
    (h : ∀ shown, Reporting (.form stepId shown errors)) :
    Keeps L calls said s (configureForm stepId schema errors) (fun _ x => Reporting x)
      fun _ => True := by
  refine (keeps_ended hs (P := fun _ _ => True) (fun _ _ => trivial) fun _ _ => trivial).bind ?_
  intro _ _ shown _ hs' _
  exact keeps_pure hs' (h _)

theorem asyncStepReconfigureInit_keeps (hs : Good L calls said s) (entryId : Nat) :
    Keeps L calls said s (asyncStepReconfigureInit L entryId) (fun _ x => Reporting x)
      fun _ => True := by
  refine (keeps_getEntry hs entryId (P := fun _ _ => True) (fun _ _ _ => trivial) trivial).bind ?_
  intro later s' entry _ hs' _
  exact configureForm_keeps hs' _ (reporting_empty _)

theorem asyncStepConfigureInit_keeps (hs : Good L calls said s) (entryId : Nat) :
    Keeps L calls said s (asyncStepConfigureInit L entryId) (fun _ x => Reporting x) fun _ => True := by
  rw [asyncStepConfigureInit, Keeps, Maintains, preserves_bind, preserves_read]
  cases s.entries.get? entryId with
  | none => exact keeps_pure hs trivial
  | some entry => exact configureForm_keeps hs _ (reporting_empty _)

def AskedFor (calls : List Call) (options : Config) : Prop :=
  ∀ v, options.get? confUpdateInterval = some v →
    ∃ c ∈ calls, ∃ n, c.interval = some n ∧ updateIntervalMin ≤ n ∧ n ≤ updateIntervalMax ∧ v = .int n

theorem configAndOptions_of_input {config : Config} {host username : Json} {password : String}
    (hlogin : HasLogin config host username password) {c : Call} (hc : c ∈ calls) {n : Int}
    (hn : c.interval = some n) (hmin : updateIntervalMin ≤ n) (hmax : n ≤ updateIntervalMax)
    (hinterval : config.get? confUpdateInterval = some (.int n)) :
    ∃ options, configAndOptionsFromConfigureInput config =
        .ok (loginData host username (.str password), options) ∧ AskedFor calls options := by
  have hclamp : normalizeUpdateInterval (.int n) = .ok n := by
    rw [normalizeUpdateInterval, clamp, if_pos ⟨hmin, hmax⟩]
  refine ⟨Dict.ofList [(confUpdateInterval, .int n)], ?_, ?_⟩
  · rw [configAndOptionsFromConfigureInput, getItem_of_get? hlogin.host, getItem_of_get? hlogin.username,
      getItem_of_get? hlogin.password, hinterval]
    change (do
      let interval ← normalizeUpdateInterval (.int n)
      return (loginData host username (.str password), Dict.ofList [(confUpdateInterval, Json.int interval)])) = _
    rw [hclamp]
    rfl
  · intro v hv
    obtain rfl : Json.int n = v := Option.some.inj hv
    exact ⟨c, hc, n, hn, hmin, hmax, rfl⟩

theorem goodEntry_configured {e : Entry} {host username : Json} {password : String} {options : Config}
    (hfetched : Fetched L said host username password) (hvetted : Vetted L said host)
    (hoptions : AskedFor calls options) :
    GoodEntry L calls said { e with data := loginData host username (.str password), options } := by
  have hlogin := login_loginData host username password
  exact ⟨⟨host, username, password, hlogin.hasLogin, hfetched, hvetted⟩, hlogin.interval, hoptions⟩

theorem configureInput_get? (input : ConfigureInput) (key : String) : input.input.get? key =
    if key = confUpdateInterval then some (.int input.updateInterval)
    else input.toCredentials.input.get? key := Dict.get?_insert _ _ _ _

theorem configureInput_hasLogin (input : ConfigureInput) : HasLogin input.input (.str input.host)
    (.str input.username) input.password := by
  have hinput : HasLogin input.toCredentials.input (.str input.host) (.str input.username)
      input.password := hasLogin_loginData _ _ _
  refine hasLogin_congr hinput fun key hkey => ?_
  rw [configureInput_get?, if_neg]
  rintro rfl
  exact absurd hkey (by decide)

theorem erase_get? {config : Config} {key other : String} (h : key ≠ other) :
    (config.erase other).get? key = config.get? key := by
  rw [Dict.get?_erase, if_neg h]

theorem asyncStepReconfigure_keeps (hs : Good L calls said s) (entryId : Nat) (input : ConfigureInput)
    (hc : .submitReconfigure entryId input ∈ calls) :
    Keeps L calls said s (asyncStepReconfigure L entryId input.input) (fun _ x => Reporting x)
      fun _ => True := by
  refine (keeps_getEntry hs entryId (P := fun _ _ => True) (fun _ _ _ => trivial) trivial).bind ?_
  intro later s' entry _ hs' _
  refine (asyncValidateConfigureInput_keeps hs' (configureInput_hasLogin input)).bind ?_
  rintro latest s'' ⟨x, filled⟩ - hs'' ⟨hok, herror⟩
  cases x with
  | ok u =>
      obtain ⟨password, hlogin, hfetched, hvetted, hinterval⟩ := hok u rfl
      obtain ⟨options, hsplit, hoptions⟩ := configAndOptions_of_input hlogin hc rfl input.min_le
        input.le_max (hinterval.trans ((configureInput_get? input confUpdateInterval).trans rfl))
      dsimp only
      rw [hsplit]
      refine (keeps_asyncUpdateEntry hs'' (P := fun _ _ => True) trivial ?_ trivial).bind ?_
      · exact fun e _ => ⟨goodEntry_configured hfetched hvetted hoptions, rfl⟩
      · intro _ _ _ _ hs₃ _
        exact keeps_pure hs₃ trivial
  | error errors => exact configureForm_keeps hs'' _ ((herror errors rfl).reporting (by decide))

theorem asyncStepConfigure_keeps (hs : Good L calls said s) (entryId : Nat) (input : ConfigureInput)
    (hc : .submitConfigure entryId input ∈ calls) :
    Keeps L calls said s (asyncStepConfigure L entryId input.input) (fun _ x => Reporting x)
      fun _ => True := by
  rw [asyncStepConfigure, Keeps, Maintains, preserves_bind, preserves_read]
  cases s.entries.get? entryId with
  | none => exact keeps_pure hs trivial
  | some entry =>
      have hinput : HasLogin (input.input.erase "action") (.str input.host) (.str input.username)
          input.password := by
        refine hasLogin_congr (configureInput_hasLogin input) fun key hkey => erase_get? ?_
        rintro rfl
        exact absurd hkey (by decide)
      refine (asyncValidateConfigureInput_keeps hs hinput).bind ?_
      rintro latest s'' ⟨x, filled⟩ - hs'' ⟨hok, herror⟩
      cases x with
      | ok u =>
          obtain ⟨password, hlogin, hfetched, hvetted, hinterval⟩ := hok u rfl
          have hkept : (input.input.erase "action").get? confUpdateInterval =
              some (.int input.updateInterval) :=
            (erase_get? (by decide)).trans ((configureInput_get? input confUpdateInterval).trans rfl)
          obtain ⟨options, hsplit, hoptions⟩ := configAndOptions_of_input hlogin hc rfl input.min_le
            input.le_max (hinterval.trans hkept)
          dsimp only
          rw [hsplit]
          refine (keeps_asyncUpdateEntry hs'' (P := fun _ _ => True) trivial ?_ trivial).bind ?_
          · exact fun e _ => ⟨goodEntry_configured hfetched hvetted hoptions, rfl⟩
          · intro _ _ _ _ hs₃ _
            refine (keeps_request hs₃ (P := fun _ _ => True) fun _ _ _ => trivial).bind ?_
            intro _ _ a _ hs₄ _
            refine (keeps_ended hs₄ (P := fun _ _ => True) (fun _ _ => trivial) fun _ _ => trivial).bind ?_
            intro _ _ _ _ hs₅ _
            -- the options are written once more, to the entry as it is after the reload
            refine (keeps_asyncUpdateEntry hs₅ (P := fun _ _ => True) trivial ?_ trivial).bind ?_
            · exact fun e he => ⟨⟨he.login, he.data, hoptions⟩, rfl⟩
            · intro _ _ _ _ hs₆ _
              exact keeps_pure hs₆ trivial
      | error errors => exact configureForm_keeps hs'' _ ((herror errors rfl).reporting (by decide))

theorem reloadIf_keeps (hs : Good L calls said s) (entryId : Nat) (reloaded : Bool) :
    Keeps L calls said s (reloadIf entryId reloaded) (fun _ _ => True) fun _ => True := by
  cases reloaded with
  | false => exact keeps_pure hs trivial
  | true =>
      refine (keeps_request hs (P := fun _ _ => True) fun _ _ _ => trivial).bind ?_
      intro _ _ a _ hs' _
      exact keeps_ended hs' (P := fun _ _ => True) (fun _ _ => trivial) fun _ _ => trivial

theorem endStep_keeps (hs : Good L calls said s) (entryId : Nat) {result : OptionsMenu.Confirm}
    (h : Ends result) :
    Keeps L calls said s (endStep L entryId result) (fun _ x => Reporting x) fun _ => True := by
  cases h with
  | checkbox stepId => exact keeps_pure hs (reporting_empty _ _)
  | unavailable errors h => exact keeps_pure hs (Or.inr (Or.inr ⟨rfl, h⟩))
  | abort reason => exact keeps_pure hs trivial
  | createEntry options =>
      refine (keeps_getEntry hs entryId (P := fun _ entry => AskedFor calls entry.options) ?_ trivial).bind ?_
      · exact fun entry _ hgood => hgood.options
      · intro _ _ entry _ hs' hoptions
        refine (keeps_asyncUpdateEntry hs' (P := fun _ _ => True) trivial ?_ trivial).bind ?_
        · exact fun e he => ⟨⟨he.login, he.data, hoptions⟩, rfl⟩
        · intro _ _ _ _ hs'' _
          exact keeps_pure hs'' trivial

theorem confirmStep_keeps (hs : Good L calls said s) (entryId : Nat) (found : Found)
    {step : Option OptionsMenu.MenuEntry → HomeAssistant.RuntimeData → found.σ → OptionsMenu.Outcome found.σ}
    (h : ∀ entry result, (step entry found.known found.state).result = .ok result → Ends result) :
    Keeps L calls said s (confirmStep L entryId found step) (fun _ x => Reporting x) fun _ => True := by
  rw [confirmStep, Keeps, Maintains, preserves_bind, preserves_read]
  refine (reloadIf_keeps hs entryId _).bind ?_
  intro _ _ _ _ hs' _
  refine (keeps_ended hs' (P := fun _ result => Ends result) ?_ fun _ _ => trivial).bind ?_
  · intro result hresult
    refine h ((s.entries.get? entryId).map fun e => ⟨found.live, e.options⟩) result ?_
    revert hresult
    cases (step _ found.known found.state).result with
    | error e =>
        intro hresult
        cases hresult
    | ok confirmed => exact fun hresult => congrArg Except.ok (Except.ok.inj hresult)
  · intro _ _ result _ hs'' hends
    exact endStep_keeps hs'' entryId hends

theorem asyncStepCleanupConfirm_keeps (hs : Good L calls said s) (entryId : Nat) (found : Found)
    (userInput : Option Config) :
    Keeps L calls said s (asyncStepCleanupConfirm L entryId found userInput) (fun _ x => Reporting x)
      fun _ => True :=
  confirmStep_keeps hs entryId found fun _ _ h => asyncStepCleanupConfirm_ends h

theorem asyncStepRepairEntityIdsConfirm_keeps (hs : Good L calls said s) (entryId : Nat) (found : Found)
    (userInput : Option Config) :
    Keeps L calls said s (asyncStepRepairEntityIdsConfirm L entryId found userInput)
      (fun _ x => Reporting x) fun _ => True :=
  confirmStep_keeps hs entryId found fun _ _ h => asyncStepRepairEntityIdsConfirm_ends h

theorem asyncStepInit_keeps (hs : Good L calls said s) (entryId : Nat) (found : Found)
    (userInput : Option Config) :
    Keeps L calls said s (asyncStepInit L entryId found userInput) (fun _ x => Reporting x)
      fun _ => True := by
  rw [asyncStepInit, Keeps, Maintains, preserves_bind, preserves_read]
  split
  · exact keeps_pure hs (reporting_empty _ _)
  · exact asyncStepConfigureInit_keeps hs entryId
  · exact asyncStepCleanupConfirm_keeps hs entryId found none
  · exact asyncStepRepairEntityIdsConfirm_keeps hs entryId found none

/-- Every call keeps the entries good. -/
theorem task_keeps (hs : Good L calls said s) {c : Call} (hc : c ∈ calls) :
    Keeps L calls said s (c.task L) (fun _ x => Reporting x) fun _ => True := by
  have hmap : ∀ {t : FlowM (FlowResult × FlowObject)},
      Keeps L calls said s t (fun _ x => Reporting x.1) (fun _ => True) →
        Keeps L calls said s (Prod.fst <$> t) (fun _ x => Reporting x) fun _ => True := by
    intro t ht
    change Keeps L calls said s (t >>= fun x => pure x.1) _ _
    exact ht.bind fun _ _ _ _ hs' hx => keeps_pure hs' hx
  cases c with
  | user n => exact (hmap (asyncStepUserInit_keeps hs n)).managed
  | submitUser n object input => exact (asyncStepUser_keeps hs n object input).managed
  | ssdp n info => exact (hmap (asyncStepSsdp_keeps hs n info)).managed
  | submitConfirm n host uniqueId existing input =>
      exact (asyncStepConfirm_keeps hs n ⟨some host, some uniqueId, existing⟩ rfl input).managed
  | reauth entryId => exact asyncStepReauthConfirmInit_keeps hs entryId
  | submitReauth entryId username password => exact asyncStepReauthConfirm_keeps hs entryId username password
  | reconfigure entryId => exact asyncStepReconfigureInit_keeps hs entryId
  | submitReconfigure entryId input => exact asyncStepReconfigure_keeps hs entryId input hc
  | menu entryId found userInput => exact asyncStepInit_keeps hs entryId found userInput
  | cleanupConfirm entryId found userInput => exact asyncStepCleanupConfirm_keeps hs entryId found userInput
  | repairEntityIdsConfirm entryId found userInput =>
      exact asyncStepRepairEntityIdsConfirm_keeps hs entryId found userInput
  | configure entryId => exact asyncStepConfigureInit_keeps hs entryId
  | submitConfigure entryId input => exact asyncStepConfigure_keeps hs entryId input hc
  | remove entryId =>
      rw [Call.task, Keeps, Maintains, preserves_bind, preserves_update]
      exact ⟨List.Subset.refl _, hs.leaves_none (L.entries.removed s entryId), trivial⟩

end Steps

end FritzboxVpn.StoredLogins
