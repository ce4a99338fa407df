import FritzboxVpn.SessionRequests

namespace FritzboxVpn.RetryCause

open Constants Exceptions FetchErrors Interaction Interaction.Program JsonValue Listings OrderedDict
  Parsing Session SessionRequests Text

def namesInvalidSid (e : PyError) : Bool := e.isValueError && contains errorMsgInvalidSid e.message

def loadsError (lib : Library) : Exchange → Option PyError
  | (r, .ok response) =>
      if isListing r ∧ response.status = httpStatusOk ∧ isJson response then
        match response.body with
        | .ok content =>
            match lib.loads content with
            | .error e => if e.isJSONDecodeError then none else some e
            | .ok _ => none
        | .error _ => none
      else none
  | (_, .error _) => none

def outsideError (lib : Library) (x : Exchange) : Option PyError :=
  (transportError x).or (loadsError lib x)

def nonJson (lib : Library) (response : Response) : Bool :=
  !isJson response ||
    match response.body with
    | .ok content =>
        match lib.loads content with
        | .error e => e.isJSONDecodeError
        | .ok _ => false
    | .error _ => false

def sidExpired (lib : Library) (x : Exchange) : Bool :=
  isListing x.1 &&
    match x.2 with
    | .ok response =>
        response.status == httpStatusForbidden ||
          (response.status == httpStatusOk && nonJson lib response)
    | .error _ => false

def rejectsMd5 (lib : Library) (x : Exchange) : Bool := ofVersion false x.1 && invalidSidAnswer lib x

def rejectsPbkdf2 (lib : Library) (x : Exchange) : Bool :=
  ofVersion true x.1 && invalidSidAnswer lib x

def raisesExpired (lib : Library) (x : Exchange) : Bool :=
  sidExpired lib x &&
    match x with
    | (.restVpn _ _, .ok response) => response.status == httpStatusForbidden
    | _ => true

def handedOn (r : Request) (e : PyError) : Bool :=
  !(e.isOSError && !(keepsConnectionError r && e.isConnectionError))

/-- An exception from outside that looks like an invalid SID. -/
def foreign (lib : Library) (x : Exchange) : Bool :=
  (outsideError lib x).any fun e => namesInvalidSid e && handedOn x.1 e

def blames (lib : Library) (x : Exchange) : Bool :=
  rejectsMd5 lib x || raisesExpired lib x || foreign lib x

def Blameless (lib : Library) (w : SessionWorld) : Prop :=
  ∃ x rest, w.trace = x :: rest ∧ blames lib x = false

def RaisedAt (lib : Library) (r : Request) (e : PyError) (w : SessionWorld) : Prop :=
  ∃ a rest, w.trace = (r, a) :: rest ∧ (namesInvalidSid e && handedOn r e) = blames lib (r, a)

def Traced (lib : Library) (e : PyError) (w : SessionWorld) : Prop :=
  ∃ x rest, w.trace = x :: rest ∧ namesInvalidSid e = blames lib x

section Texts

theorem namesInvalidSid_of_no_value {e : PyError} (h : e.isValueError = false) :
    namesInvalidSid e = false := by
  rw [namesInvalidSid, h, Bool.false_and]

theorem namesInvalidSid_connectionError (message : String) :
    namesInvalidSid (connectionError message) = false := rfl

theorem contains_ofList (needle : String) (l : List Char) :
    contains needle (String.ofList l) = decide (needle.toList <:+: l) := by
  rw [contains, String.toList_ofList]

theorem contains_append_left {needle a b : String} (h : contains needle a = true) :
    contains needle (a ++ b) = true := by
  rw [contains_iff, String.toList_append]
  exact List.infix_append_of_infix_left (contains_iff.mp h)

theorem namesInvalidSid_valueError (message : String) :
    namesInvalidSid (valueError message) = contains errorMsgInvalidSid message := by
  rw [namesInvalidSid, valueError, Bool.true_and]

theorem namesInvalidSid_loginFailedSid :
    namesInvalidSid (valueError errorMsgLoginFailedSid) = true := by
  rw [namesInvalidSid_valueError]
  unfold errorMsgLoginFailedSid
  iterate 7 apply contains_append_left
  exact (contains_ofList _ _).trans (by decide)

theorem namesInvalidSid_403 : namesInvalidSid (valueError errorMsgInvalidSid403) = true :=
  (namesInvalidSid_valueError _).trans ((contains_ofList _ _).trans (by decide))

theorem namesInvalidSid_html : namesInvalidSid (valueError errorMsgInvalidSidHtml) = true :=
  (namesInvalidSid_valueError _).trans ((contains_ofList _ _).trans (by decide))

theorem namesInvalidSid_noChallenge :
    namesInvalidSid (valueError "Could not parse login response XML or find challenge") = false :=
  (namesInvalidSid_valueError _).trans ((contains_ofList _ _).trans (by decide))

end Texts

section Exchanges

variable {lib : Library} {x : Exchange} {r : Request} {a : Answer} {e : PyError} {w : SessionWorld}
  {rest : List Exchange}

theorem invalidSidAnswer_of_transportError (h : transportError x = some e) :
    invalidSidAnswer lib x = false :=
  (not_refused_of_transportError h).2.2

theorem sidExpired_of_transportError (h : transportError x = some e) : sidExpired lib x = false := by
  obtain ⟨r, err | response⟩ := x
  · exact Bool.and_false _
  · rw [transportError] at h
    split at h
    · rename_i hs
      cases hb : response.body with
      | ok content => rw [hb] at h; cases h
      | error err =>
          rw [sidExpired, Bool.and_eq_false_iff]
          cases hl : isListing r with
          | false => exact Or.inl rfl
          | true =>
              rw [listing_readsBody hl] at hs
              right
              simp [nonJson, hs.1, hs.2, hb, httpStatusOk, httpStatusForbidden]
    · cases h

theorem raisesExpired_of_not_expired (h : sidExpired lib x = false) : raisesExpired lib x = false := by
  unfold raisesExpired
  rw [h, Bool.false_and]

theorem RaisedAt.of_transportError (hw : w.trace = (r, a) :: rest)
    (h : transportError (r, a) = some e) : RaisedAt lib r e w := by
  refine ⟨a, rest, hw, ?_⟩
  rw [blames, rejectsMd5, raisesExpired_of_not_expired (sidExpired_of_transportError h),
    invalidSidAnswer_of_transportError h, Bool.and_false, foreign, outsideError, h, Option.some_or,
    Option.any_some, Bool.or_false, Bool.false_or]

theorem RaisedAt.of_body {response : Response} {err : TransportError}
    (hw : w.trace = (r, .ok response) :: rest) (hs : response.status = httpStatusOk)
    (hr : readsBody r response = true) (hb : response.body = .error err) :
    RaisedAt lib r err.val w := by
  apply RaisedAt.of_transportError hw
  rw [transportError, if_pos ⟨hs, hr⟩, hb]

theorem RaisedAt.of_blameless (hw : w.trace = (r, a) :: rest) (h : blames lib (r, a) = false)
    (he : namesInvalidSid e = false) : RaisedAt lib r e w :=
  ⟨a, rest, hw, by rw [h, he, Bool.false_and]⟩

theorem Blameless.traced (h : Blameless lib w) (he : namesInvalidSid e = false) : Traced lib e w := by
  obtain ⟨x, rest, hw, hx⟩ := h
  exact ⟨x, rest, hw, by rw [he, hx]⟩

theorem RaisedAt.handed_on (h : RaisedAt lib r e w)
    (hos : e.isOSError = true → keepsConnectionError r = true ∧ e.isConnectionError = true) :
    Traced lib e w := by
  obtain ⟨a, rest, hw, hb⟩ := h
  have hhanded : handedOn r e = true := by
    rw [handedOn]
    cases he : e.isOSError with
    | false => rfl
    | true => rw [(hos he).1, (hos he).2]; rfl
  rw [hhanded, Bool.and_true] at hb
  exact ⟨(r, a), rest, hw, hb⟩

/-- An exception that the handlers wrap no longer looks like an invalid SID. -/
theorem RaisedAt.wrapped {account : Account} (h : RaisedAt account.lib r e w)
    (hos : e.isOSError = true) (hc : keepsConnectionError r = true → e.isConnectionError = false) :
    Traced account.lib (cannotConnect account e) w := by
  obtain ⟨a, rest, hw, hb⟩ := h
  have hhanded : handedOn r e = false := by
    rw [handedOn, hos]
    cases hk : keepsConnectionError r with
    | false => rfl
    | true => rw [hc hk]; rfl
  rw [hhanded, Bool.and_false] at hb
  exact ⟨(r, a), rest, hw, hb⟩

/-- Away from the listings only the transport and an MD5 login give a reason. -/
theorem blames_of_not_listing (h : isListing r = false) : blames lib (r, a) =
    (rejectsMd5 lib (r, a) ||
      (transportError (r, a)).any fun e => namesInvalidSid e && handedOn r e) := by
  have hloads : loadsError lib (r, a) = none := by
    cases a with
    | error e => rfl
    | ok response => rw [loadsError, if_neg fun hl => by rw [h] at hl; exact absurd hl.1 (by decide)]
  have hexpired : sidExpired lib (r, a) = false := by rw [sidExpired, h, Bool.false_and]
  rw [blames, raisesExpired_of_not_expired hexpired, foreign, outsideError, hloads, Option.or_none,
    Bool.or_false]

theorem rejectsMd5_of_status {response : Response} (h : response.status ≠ httpStatusOk) :
    rejectsMd5 lib (r, .ok response) = false := by
  rw [rejectsMd5]
  cases r <;> simp [invalidSidAnswer, h]

theorem blames_of_status {response : Response} (hr : isListing r = false)
    (h : response.status ≠ httpStatusOk) : blames lib (r, .ok response) = false := by
  rw [blames_of_not_listing hr, transportError_of_status h, rejectsMd5_of_status h]
  rfl

theorem blames_of_page {response : Response} {content : String} (hr : isLoginPage r = true)
    (hb : response.body = .ok content) : blames lib (r, .ok response) = false := by
  have hnone := transportError_of_body (r := r) hb
  cases r with
  | loginPage protocol v => rw [blames_of_not_listing rfl, hnone]; exact Bool.or_false _ ▸ Bool.and_false _
  | loginPageHttp v => rw [blames_of_not_listing rfl, hnone]; exact Bool.or_false _ ▸ Bool.and_false _
  | _ => cases hr

end Exchanges

section Login

variable {account : Account} {partner : Partner Request Answer} {w : SessionWorld}

theorem handleLoginError_traced {r : Request} {e : PyError} {β : Type} {ok : β → SessionWorld → Prop}
    (h : RaisedAt account.lib r e w) (hr : keepsConnectionError r = true) :
    Yields partner w (handleLoginError account e) ok (Traced account.lib) := by
  rw [handleLoginError, isTransport_eq]
  by_cases hc : e.isConnectionError = true
  · rw [if_pos hc, yields_throw]
    exact h.handed_on fun _ => ⟨hr, hc⟩
  · rw [if_neg hc]
    by_cases hos : e.isOSError = true
    · rw [if_pos hos, raiseTransportError, yields_bind, yields_update, yields_throw]
      exact h.wrapped hos fun _ => Bool.eq_false_iff.mpr hc
    · rw [if_neg hos, yields_throw]
      exact h.handed_on fun h => absurd h hos

theorem handleListingError_traced {r : Request} {e : PyError} {β : Type}
    {ok : β → SessionWorld → Prop} (h : RaisedAt account.lib r e w)
    (hr : keepsConnectionError r = false) :
    Yields partner w (handleListingError account e) ok (Traced account.lib) := by
  rw [handleListingError, isTransport_eq]
  by_cases hos : e.isOSError = true
  · rw [if_pos hos, raiseTransportError, yields_bind, yields_update, yields_throw]
    exact h.wrapped hos fun hk => by rw [hr] at hk; cases hk
  · rw [if_neg hos, yields_throw]
    exact h.handed_on fun h => absurd h hos

theorem handleLoginPageHttpError_traced {v : Bool} {e : PyError} {β : Type}
    {ok : β → SessionWorld → Prop} (h : RaisedAt account.lib (.loginPageHttp v) e w) :
    Yields partner w (handleLoginPageHttpError account e) ok
      (fun e' w' => Traced account.lib e' w' ∧ w'.state = w.state) := by
  rw [handleLoginPageHttpError, isTransport_eq]
  by_cases hc : e.isConnectionError = true
  · rw [if_pos hc, yields_throw]
    exact ⟨h.handed_on fun _ => ⟨rfl, hc⟩, rfl⟩
  · rw [if_neg hc]
    by_cases hos : e.isOSError = true
    · rw [if_pos hos, yields_throw]
      exact ⟨h.wrapped hos fun _ => Bool.eq_false_iff.mpr hc, rfl⟩
    · rw [if_neg hos, yields_throw]
      exact ⟨h.handed_on fun h => absurd h hos, rfl⟩

theorem getLoginPageHttp_traced (v : Bool) :
    Yields partner w (getLoginPageHttp account v) (fun _ w' => Blameless account.lib w')
      (fun e w' => Traced account.lib e w' ∧ w'.state = w.state) := by
  rw [getLoginPageHttp, yields_bind, yields_tryCatch, yields_bind]
  apply send_yields
  · intro response
    by_cases hs : response.status = httpStatusOk
    · rw [if_neg (not_not.mpr hs)]
      apply readText_yields
      · intro content hb
        rw [yields_bind, yields_update, yields_pure]
        exact ⟨_, _, rfl, blames_of_page rfl hb⟩
      · intro e hb
        apply handleLoginPageHttpError_traced (v := v)
        exact .of_body rfl hs rfl hb
    · rw [if_pos hs, yields_throw]
      apply handleLoginPageHttpError_traced (v := v)
      exact .of_blameless rfl (blames_of_status rfl hs) (namesInvalidSid_connectionError _)
  · intro e
    exact handleLoginPageHttpError_traced (v := v) (.of_transportError rfl rfl)

theorem handleLoginPageError_traced {r : Request} {v : Bool} {e : PyError}
    (h : RaisedAt account.lib r e w) (hr : keepsConnectionError r = false) :
    Yields partner w (handleLoginPageError account v e) (fun _ w' => Blameless account.lib w')
      (Traced account.lib) := by
  rw [handleLoginPageError, yields_bind, yields_read, isTransport_eq]
  by_cases hos : e.isOSError = true
  · rw [if_pos hos]
    by_cases hp : w.state.protocol = .https
    · rw [if_neg (not_not.mpr hp)]
      exact (getLoginPageHttp_traced v).mono (fun _ _ h => h) fun _ _ h => h.1
    · rw [if_pos hp, yields_throw]
      exact h.wrapped hos fun hk => by rw [hr] at hk; cases hk
  · rw [if_neg hos, yields_throw]
    exact h.handed_on fun h => absurd h hos

theorem fetchLoginPage_traced (v : Bool) :
    Yields partner w (fetchLoginPage account v) (fun _ w' => Blameless account.lib w')
      (Traced account.lib) := by
  rw [fetchLoginPage, yields_bind, yields_read, yields_tryCatch, yields_bind]
  apply send_yields
  · intro response
    by_cases hs : response.status = httpStatusOk
    · rw [if_pos hs]
      apply readText_yields
      · intro content hb
        exact ⟨_, _, rfl, blames_of_page rfl hb⟩
      · intro e hb
        apply handleLoginPageError_traced (r := .loginPage w.state.protocol v) _ rfl
        exact .of_body rfl hs rfl hb
    · rw [if_neg hs]
      by_cases hf : w.state.protocol = .https ∧ response.status ∈ httpsFallbackStatusCodes
      · rw [if_pos hf]
        refine (getLoginPageHttp_traced v).mono (fun _ _ h => h) ?_
        rintro e w' ⟨he, hw'⟩
        rw [handleLoginPageError, yields_bind, yields_read, hw', isTransport_eq]
        by_cases hos : e.isOSError = true
        · rw [if_pos hos, if_neg (not_not.mpr hf.1)]
          exact (getLoginPageHttp_traced v).mono (fun _ _ h => h) fun _ _ h => h.1
        · rw [if_neg hos, yields_throw]
          exact he
      · rw [if_neg hf, yields_throw]
        apply handleLoginPageError_traced (r := .loginPage w.state.protocol v) _ rfl
        exact .of_blameless rfl (blames_of_status rfl hs) (namesInvalidSid_connectionError _)
  · intro e
    exact handleLoginPageError_traced (.of_transportError rfl rfl) rfl

theorem postPbkdf2_traced (response : String) :
    Yields partner w (postPbkdf2 account response) (fun _ _ => True) (Traced account.lib) := by
  rw [postPbkdf2, yields_bind, yields_read, yields_tryCatch, yields_bind]
  apply send_yields
  · intro answered
    by_cases hs : answered.status = httpStatusOk
    · rw [if_neg (not_not.mpr hs), yields_bind]
      apply readText_yields
      · intro content _
        rw [yields_pure]
        trivial
      · intro e hb
        exact handleLoginError_traced (.of_body rfl hs rfl hb) rfl
    · rw [if_pos hs, yields_pure]
      trivial
  · intro e
    exact handleLoginError_traced (.of_transportError rfl rfl) rfl

/-- Only a ValueError names an invalid SID, and there it stands for an unusable login. -/
theorem pbkdf2With_traced (content : String) (h : Blameless account.lib w) :
    Yields partner w (pbkdf2With account content) (fun _ _ => True)
      (fun e w' => e.isValueError = false → Traced account.lib e w') := by
  have harmless : ∀ e : PyError, e.isValueError = false → Traced account.lib e w :=
    fun e hv => h.traced (namesInvalidSid_of_no_value hv)
  rw [pbkdf2With]
  by_cases hc : content = ""
  · rw [if_pos hc, yields_pure]
    trivial
  rw [if_neg hc]
  cases parseChallengeFromLoginXml account.lib.parseXml content with
  | none => exact yields_pure.mpr trivial
  | some challenge =>
      by_cases h2 : startsWith "2$" challenge = false
      · simp only [if_pos h2, yields_pure]
      simp only [if_neg h2, yields_bind]
      have hsilent : Yields partner w (waitBlocktime account.lib content) (fun _ w' => w' = w)
          (fun e w' => w' = w) := by
        rw [waitBlocktime]
        split
        · exact yields_pure.mpr rfl
        · split
          · rw [yields_ended]
            split <;> rfl
          · exact yields_pure.mpr rfl
      refine hsilent.mono ?_ ?_
      · rintro _ _ rfl
        rw [yields_ended]
        cases calculatePbkdf2Response account.lib challenge account.password with
        | error e => exact harmless e
        | ok response =>
            simp only [yields_pure]
            exact (postPbkdf2_traced response).mono (fun _ _ h => h) fun _ _ he _ => he
      · rintro e _ rfl
        exact harmless e

theorem tryGetSessionViaPbkdf2_traced :
    Yields partner w (tryGetSessionViaPbkdf2 account) (fun _ _ => True)
      (fun e w' => e.isValueError = false → Traced account.lib e w') := by
  change Yields partner w (fetchLoginPage account true >>= pbkdf2With account) _ _
  rw [yields_bind]
  exact (fetchLoginPage_traced true).mono (fun content _ h => pbkdf2With_traced content h)
    fun _ _ he _ => he

theorem postMd5_traced (response : String) :
    Yields partner w (postMd5 account response)
      (fun content w' => ∃ x rest, w'.trace = x :: rest ∧
        blames account.lib x = (validSid account.lib content).isNone)
      (Traced account.lib) := by
  rw [postMd5, yields_bind, yields_read, yields_tryCatch, yields_bind]
  apply send_yields
  · intro answered
    by_cases hs : answered.status = httpStatusOk
    · rw [if_neg (not_not.mpr hs)]
      apply readText_yields
      · intro content hb
        refine ⟨_, _, rfl, ?_⟩
        rw [blames_of_not_listing rfl, transportError_of_body hb, Option.any_none, Bool.or_false]
        simp [rejectsMd5, ofVersion, invalidSidAnswer, hs, hb]
      · intro e hb
        exact handleLoginError_traced (.of_body rfl hs rfl hb) rfl
    · rw [if_pos hs, yields_throw]
      apply handleLoginError_traced (.of_blameless rfl (blames_of_status rfl hs) _) rfl
      exact namesInvalidSid_connectionError _
  · intro e
    exact handleLoginError_traced (.of_transportError rfl rfl) rfl

theorem loginViaMd5_traced :
    Yields partner w (loginViaMd5 account) (fun _ _ => True) (Traced account.lib) := by
  rw [loginViaMd5, yields_bind, yields_tryCatch]
  refine (fetchLoginPage_traced false).mono ?_ ?_
  · intro content w' h
    by_cases hc : content = ""
    · rw [if_pos hc, yields_throw]
      exact h.traced (namesInvalidSid_connectionError _)
    rw [if_neg hc]
    by_cases hch : (parseChallengeFromLoginXml account.lib.parseXml content).getD "" = ""
    · rw [if_pos hch, yields_throw]
      exact h.traced namesInvalidSid_noChallenge
    rw [if_neg hch, yields_bind]
    refine (postMd5_traced _).mono ?_ fun _ _ he => he
    rintro content w'' ⟨x, rest, hw, hb⟩
    cases hv : validSid account.lib content with
    | some sid => simp only [yields_bind, yields_update, yields_pure]
    | none =>
        rw [yields_throw]
        exact ⟨x, rest, hw, by rw [hb, hv, namesInvalidSid_loginFailedSid]; rfl⟩
  · rintro e w' ⟨x, rest, hw, hb⟩
    by_cases hc : (e.isConnectionError || e.isValueError) = true
    · rw [if_pos hc, yields_throw]
      exact ⟨x, rest, hw, hb⟩
    · rw [if_neg hc, yields_throw]
      rw [Bool.not_eq_true, Bool.or_eq_false_iff] at hc
      rw [namesInvalidSid_of_no_value hc.2] at hb
      exact ⟨x, rest, hw, hb⟩

theorem asyncGetSession_traced :
    Yields partner w (asyncGetSession account) (fun _ _ => True) (Traced account.lib) := by
  have next : ∀ sid w', Yields partner w' (keepOrLoginViaMd5 account sid) (fun _ _ => True)
      (Traced account.lib) := by
    intro sid w'
    cases sid with
    | some sid => simp only [keepOrLoginViaMd5, yields_bind, yields_update, yields_pure]
    | none => exact loginViaMd5_traced
  rw [asyncGetSession_eq, yields_bind, yields_read]
  cases w.state.sid with
  | some sid => exact yields_pure.mpr trivial
  | none =>
      simp only [login, pbkdf2OrNone, yields_bind, yields_tryCatch]
      refine tryGetSessionViaPbkdf2_traced.mono (fun sid w' _ => next sid w') ?_
      intro e w' he
      by_cases hv : e.isValueError = true
      · rw [if_pos hv, yields_pure]
        exact next none w'
      · rw [if_neg hv, yields_throw]
        exact he (Bool.eq_false_iff.mpr hv)

end Login

section Listings

variable {account : Account} {partner : Partner Request Answer} {w : SessionWorld} {r : Request}
  {response : Response} {rest : List Exchange}

def requiresJson : Request → Bool
  | .restVpn _ _ => false
  | _ => true

theorem rejectsMd5_of_listing {lib : Library} (h : isListing r = true) {a : Answer} :
    rejectsMd5 lib (r, a) = false := by
  rw [rejectsMd5, listing_invalidSid h, Bool.and_false]

theorem blames_of_forbidden {lib : Library} (h : isListing r = true)
    (hs : response.status = httpStatusForbidden) : blames lib (r, .ok response) = true := by
  have hexpired : raisesExpired lib (r, .ok response) = true := by
    cases r <;> simp [raisesExpired, sidExpired, isListing, hs] at h ⊢
  rw [blames, hexpired, Bool.or_true, Bool.true_or]

theorem loadsError_of_status {lib : Library} (hs : response.status ≠ httpStatusOk) :
    loadsError lib (r, .ok response) = none := by
  rw [loadsError, if_neg fun h => hs h.2.1]

theorem blames_of_refused {lib : Library} (h : isListing r = true)
    (h403 : response.status ≠ httpStatusForbidden) (hs : response.status ≠ httpStatusOk) :
    blames lib (r, .ok response) = false := by
  have hexpired : sidExpired lib (r, .ok response) = false := by
    simp [sidExpired, h403, hs]
  rw [blames, rejectsMd5_of_listing h, raisesExpired_of_not_expired hexpired, foreign, outsideError,
    transportError_of_status hs, loadsError_of_status hs]
  rfl

theorem blames_of_ok {lib : Library} (h : isListing r = true) (hs : response.status = httpStatusOk) :
    blames lib (r, .ok response) =
      ((requiresJson r && nonJson lib response) || foreign lib (r, .ok response)) := by
  have hexpired : raisesExpired lib (r, .ok response) = (requiresJson r && nonJson lib response) := by
    cases r <;> simp [raisesExpired, sidExpired, isListing, hs, requiresJson, httpStatusOk,
      httpStatusForbidden] at h ⊢
  rw [blames, rejectsMd5_of_listing h, hexpired, Bool.false_or]

theorem validateVpnListingStatus_traced {source : String} (hr : isListing r = true)
    (hw : w.trace = (r, .ok response) :: rest) :
    Yields partner w (validateVpnListingStatus response source)
      (fun _ w' => w' = w ∧ response.status = httpStatusOk) (RaisedAt account.lib r) := by
  rw [validateVpnListingStatus]
  by_cases h403 : response.status = httpStatusForbidden
  · rw [if_pos h403, yields_throw]
    exact ⟨_, rest, hw, by rw [blames_of_forbidden hr h403, namesInvalidSid_403]; rfl⟩
  rw [if_neg h403]
  by_cases hs : response.status = httpStatusOk
  · rw [if_neg (not_not.mpr hs), yields_pure]
    exact ⟨rfl, hs⟩
  · rw [if_pos hs, yields_bind, yields_update, yields_throw]
    exact .of_blameless hw (blames_of_refused hr h403 hs) (namesInvalidSid_connectionError _)

theorem missingJson_traced (hr : isListing r = true) (hw : w.trace = (r, .ok response) :: rest)
    (hs : response.status = httpStatusOk) (hn : nonJson account.lib response = true)
    (hf : foreign account.lib (r, .ok response) = false) :
    Yields partner w (missingJson (requiresJson r))
      (fun _ w' => w' = w ∧ blames account.lib (r, .ok response) = false)
      (RaisedAt account.lib r) := by
  rw [missingJson]
  cases hq : requiresJson r with
  | false =>
      rw [if_neg (by decide), yields_pure]
      exact ⟨rfl, by rw [blames_of_ok hr hs, hq, hf]; rfl⟩
  | true =>
      rw [if_pos rfl, yields_throw]
      refine ⟨_, rest, hw, ?_⟩
      rw [blames_of_ok hr hs, hq, hn, namesInvalidSid_html]
      rfl

theorem responseJsonDict_traced (hr : isListing r = true) (hw : w.trace = (r, .ok response) :: rest)
    (hs : response.status = httpStatusOk) :
    Yields partner w (responseJsonDict account.lib response (requiresJson r))
      (fun _ w' => w' = w ∧ blames account.lib (r, .ok response) = false)
      (RaisedAt account.lib r) := by
  rw [responseJsonDict]
  by_cases hj : isJson response = false
  · rw [if_pos hj]
    have hno : ¬(isListing r = true ∧ response.status = httpStatusOk ∧ isJson response = true) := by
      rw [hj]
      exact fun h => absurd h.2.2 (by decide)
    have hnone : transportError (r, .ok response) = none := by
      rw [transportError, listing_readsBody hr, hj, if_neg fun h => absurd h.2 (by decide)]
    apply missingJson_traced hr hw hs
    · rw [nonJson, hj]
      rfl
    · rw [foreign, outsideError, hnone, loadsError, if_neg hno]
      rfl
  have hjson : isJson response = true := Bool.not_eq_false _ ▸ hj
  rw [if_neg hj, yields_tryCatch, yields_bind]
  apply readText_yields
  · intro content hb
    have hbody := transportError_of_body (r := r) hb
    rw [yields_bind, yields_ended]
    have hloads : loadsError account.lib (r, .ok response) =
        match account.lib.loads content with
        | .error e => if e.isJSONDecodeError then none else some e
        | .ok _ => none := by
      rw [loadsError, if_pos ⟨hr, hs, hjson⟩, hb]
    have hnonJson : nonJson account.lib response =
        match account.lib.loads content with
        | .error e => e.isJSONDecodeError
        | .ok _ => false := by
      rw [nonJson, hjson, hb]
      rfl
    cases hl : account.lib.loads content with
    | ok v =>
        rw [hl] at hloads hnonJson
        refine yields_pure.mpr ⟨rfl, ?_⟩
        rw [blames_of_ok hr hs, hnonJson, Bool.and_false, foreign, outsideError, hbody, hloads]
        rfl
    | error e =>
        rw [hl] at hloads hnonJson
        simp only at hloads hnonJson
        by_cases hd : e.isJSONDecodeError = true
        · simp only [hd, if_true] at hloads hnonJson ⊢
          apply missingJson_traced hr hw hs hnonJson
          rw [foreign, outsideError, hbody, hloads]
          rfl
        · rw [if_neg hd] at hloads
          simp only [if_neg hd]
          rw [yields_throw]
          refine ⟨_, rest, hw, ?_⟩
          rw [blames_of_ok hr hs, hnonJson, Bool.eq_false_iff.mpr hd, Bool.and_false, Bool.false_or,
            foreign, outsideError, hbody, hloads, Option.none_or, Option.any_some]
  · intro e hb
    have hd : ¬e.val.isJSONDecodeError = true := by
      rw [e.property]
      decide
    rw [if_neg hd, yields_throw]
    exact .of_body hw hs (by rw [listing_readsBody hr, hjson]) hb

def FoundOrBlameless (lib : Library) (result : Option Listing) (w : SessionWorld) : Prop :=
  result = none → Blameless lib w

theorem fetchVpnConnectionsViaRest_traced (sid : String) :
    Yields partner w (fetchVpnConnectionsViaRest account sid) (FoundOrBlameless account.lib)
      (Traced account.lib) := by
  rw [fetchVpnConnectionsViaRest, yields_bind, yields_read, yields_tryCatch]
  have caught : ∀ e w', RaisedAt account.lib (.restVpn w.state.protocol sid) e w' →
      Yields partner w' (handleListingError account e) (FoundOrBlameless account.lib)
        (Traced account.lib) :=
    fun _ _ h => handleListingError_traced h rfl
  refine Yields.mono ?_ (fun _ _ h => h) caught
  rw [yields_bind]
  apply send_yields
  · intro response
    by_cases h404 : response.status = httpStatusNotFound
    · rw [if_pos h404, yields_pure]
      have h403 : response.status ≠ httpStatusForbidden := by rw [h404]; decide
      have hok : response.status ≠ httpStatusOk := by rw [h404]; decide
      exact fun _ => ⟨_, _, rfl, blames_of_refused rfl h403 hok⟩
    rw [if_neg h404, yields_bind]
    refine (validateVpnListingStatus_traced rfl rfl).mono ?_ fun _ _ h => h
    rintro _ _ ⟨rfl, hs⟩
    rw [yields_bind]
    refine (responseJsonDict_traced (r := .restVpn w.state.protocol sid) rfl rfl hs).mono ?_
      fun _ _ h => h
    rintro data _ ⟨rfl, hb⟩
    cases data with
    | none => exact yields_pure.mpr fun _ => ⟨_, _, rfl, hb⟩
    | some data =>
        rw [yields_ended]
        cases hc : restConnections account.lib data with
        | ok result => exact fun _ => ⟨_, _, rfl, hb⟩
        | error e =>
            rw [restConnections] at hc
            cases hx : extractWireguardConnectionsFromRest account.lib.repr data with
            | ok box => rw [hx] at hc; cases hc
            | error e' =>
                rw [hx] at hc
                cases hc
                rw [extractWireguardConnectionsFromRest_error hx]
                exact .of_blameless rfl hb rfl
  · intro e
    exact .of_transportError rfl rfl

theorem fetchVpnConnectionsViaDataLua_traced (sid : String) :
    Yields partner w (fetchVpnConnectionsViaDataLua account sid) (FoundOrBlameless account.lib)
      (Traced account.lib) := by
  rw [fetchVpnConnectionsViaDataLua, yields_bind, yields_read, yields_tryCatch]
  have caught : ∀ e w', RaisedAt account.lib (.dataLua w.state.protocol sid) e w' →
      Yields partner w' (handleListingError account e) (FoundOrBlameless account.lib)
        (Traced account.lib) :=
    fun _ _ h => handleListingError_traced h rfl
  refine Yields.mono ?_ (fun _ _ h => h) caught
  rw [yields_bind]
  apply send_yields
  · intro response
    rw [yields_bind]
    refine (validateVpnListingStatus_traced rfl rfl).mono ?_ fun _ _ h => h
    rintro _ _ ⟨rfl, hs⟩
    rw [yields_bind]
    refine (responseJsonDict_traced (r := .dataLua w.state.protocol sid) rfl rfl hs).mono ?_
      fun _ _ h => h
    rintro data _ ⟨rfl, hb⟩
    cases data with
    | none => exact yields_pure.mpr fun _ => ⟨_, _, rfl, hb⟩
    | some data => exact yields_pure.mpr fun _ => ⟨_, _, rfl, hb⟩
  · intro e
    exact .of_transportError rfl rfl

theorem fetchListingByMode_traced (sid : String) (mode : ListingMode) :
    Yields partner w (fetchListingByMode account sid mode) (FoundOrBlameless account.lib)
      (Traced account.lib) := by
  cases mode with
  | rest => exact fetchVpnConnectionsViaRest_traced sid
  | dataLua => exact fetchVpnConnectionsViaDataLua_traced sid

theorem probeListing_traced (sid : String) (preferred : Option ListingMode) (modes : List ListingMode)
    (h : Blameless account.lib w ∨ ∃ mode ∈ modes, preferred ≠ some mode) :
    Yields partner w (probeListing account sid preferred modes) (fun _ _ => True)
      (Traced account.lib) := by
  induction modes generalizing w with
  | nil =>
      rw [probeListing, yields_bind, yields_update, yields_throw]
      have hno : ¬∃ mode ∈ ([] : List ListingMode), preferred ≠ some mode := by
        rintro ⟨mode, hm, -⟩
        exact List.not_mem_nil hm
      obtain ⟨x, rest, hw, hx⟩ := h.resolve_right hno
      exact ⟨x, rest, hw, by rw [hx]; rfl⟩
  | cons mode modes ih =>
      rw [probeListing]
      by_cases hp : preferred = some mode
      · rw [if_pos hp]
        apply ih
        refine h.imp_right ?_
        rintro ⟨m, hm, hne⟩
        rcases List.mem_cons.mp hm with rfl | hm
        · exact absurd hp hne
        · exact ⟨m, hm, hne⟩
      · rw [if_neg hp, yields_bind]
        refine (fetchListingByMode_traced sid mode).mono ?_ fun _ _ he => he
        intro result w' hnone
        cases result with
        | some result => simp only [yields_bind, yields_update, yields_pure]
        | none => exact ih (Or.inl (hnone rfl))

/-- The last exchange of a failing fetch tells whether there is a second one. -/
theorem fetchVpnConnectionsOnce_traced :
    Yields partner w (fetchVpnConnectionsOnce account) (fun _ _ => True) (Traced account.lib) := by
  rw [fetchVpnConnectionsOnce_eq, yields_bind]
  refine asyncGetSession_traced.mono ?_ fun _ _ he => he
  intro sid w' _
  rw [fetchUnder, yields_bind, yields_read]
  cases w'.state.listingMode with
  | none => exact probeListing_traced sid none _ (Or.inr ⟨.dataLua, List.mem_cons_self, by decide⟩)
  | some mode =>
      simp only [yields_bind]
      refine (fetchListingByMode_traced sid mode).mono ?_ fun _ _ he => he
      intro result w'' hnone
      cases result with
      | some result => exact yields_pure.mpr trivial
      | none =>
          rw [yields_bind, yields_update]
          exact probeListing_traced sid (some mode) _ (Or.inl (hnone rfl))

end Listings

end FritzboxVpn.RetryCause
