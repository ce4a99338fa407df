import FritzboxVpn.Coordinator
import FritzboxVpn.Session
import Mathlib.Data.List.Basic

namespace FritzboxVpn.FetchErrors

open Constants Coordinator Exceptions Interaction Interaction.Program JsonValue OrderedDict Parsing
  Session Text

abbrev Exchange : Type := Request × Answer

abbrev SessionWorld : Type := World Session.State Request Answer

def authText (text : String) : Bool := authIndicators.any fun ind => contains ind (lower text)

/-- The standard library raises no OSError and no text that marks a credential failure. -/
structure Quiet (lib : Library) : Prop where
  loads : ∀ content e, lib.loads content = .error e → e.isOSError = false ∧ isAuthError e = false
  pbkdf2Hmac : ∀ password salt n e, lib.pbkdf2Hmac password salt n = .error e →
    e.isOSError = false ∧ isAuthError e = false
  sleep : ∀ n e, lib.sleep n = .error e → e.isOSError = false ∧ isAuthError e = false

def readsBody : Request → Response → Bool
  | .restVpn _ _, response | .dataLua _ _, response => isJson response
  | .put _ _ _ _, _ => false
  | _, _ => true

def transportError : Exchange → Option PyError
  | (_, .error err) => some err.val
  | (r, .ok response) =>
      if response.status = httpStatusOk ∧ readsBody r response then
        match response.body with
        | .error err => some err.val
        | .ok _ => none
      else none

def loginRefused : Exchange → Bool
  | (.login _ version2 _ _, .ok response) => !version2 && response.status != httpStatusOk
  | _ => false

def statusWithHost : Exchange → Bool
  | (.loginPage _ _, .ok response) => response.status != httpStatusOk
  | (.restVpn _ _, .ok response) =>
      !([httpStatusOk, httpStatusForbidden, httpStatusNotFound].contains response.status)
  | (.dataLua _ _, .ok response) =>
      !([httpStatusOk, httpStatusForbidden].contains response.status)
  | _ => false

def keepsConnectionError : Request → Bool
  | .loginPageHttp _ | .login _ _ _ _ => true
  | _ => false

def namesHost (x : Exchange) : Bool :=
  statusWithHost x ||
    (transportError x).any fun e => e.isOSError && !(keepsConnectionError x.1 && e.isConnectionError)

/-- A fetch that ends in the exchange is taken for a credential failure although
it is none. -/
def misread (host : String) (x : Exchange) : Bool :=
  loginRefused x || (transportError x).any isAuthError || (namesHost x && authText host)

def invalidSidAnswer (lib : Library) : Exchange → Bool
  | (.login _ _ _ _, .ok response) =>
      response.status == httpStatusOk &&
        match response.body with
        | .ok content => (validSid lib content).isNone
        | .error _ => false
  | _ => false

def Calm (lib : Library) (x : Exchange) : Prop :=
  transportError x = none ∧ loginRefused x = false ∧ statusWithHost x = false ∧
    invalidSidAnswer lib x = false

def LastCalm (lib : Library) (w : SessionWorld) : Prop :=
  ∃ x rest, w.trace = x :: rest ∧ Calm lib x

def RaisedBy (lib : Library) (r : Request) (e : PyError) (w : SessionWorld) : Prop :=
  ∃ a rest, w.trace = (r, a) :: rest ∧
    isAuthError e =
      (loginRefused (r, a) || (transportError (r, a)).any isAuthError ||
        invalidSidAnswer lib (r, a)) ∧
    namesHost (r, a) = (e.isOSError && !(keepsConnectionError r && e.isConnectionError))

def Explained (account : Account) (e : PyError) (w : SessionWorld) : Prop :=
  (e.isOSError = true → e.isConnectionError = true) ∧
    ∃ x rest, w.trace = x :: rest ∧
      isAuthError e = (misread account.host x || invalidSidAnswer account.lib x)

section Texts

theorem isAuthError_eq (e : PyError) : isAuthError e = authText e.message := rfl

theorem authText_append {a b : String}
    (h : ∀ ind ∈ authIndicators, contains ind (lower a ++ lower b) =
      (contains ind (lower a) || contains ind (lower b))) :
    authText (a ++ b) = (authText a || authText b) := by
  rw [Bool.eq_iff_iff, Bool.or_eq_true]
  simp only [authText, List.any_eq_true, lower_append]
  constructor
  · rintro ⟨ind, hi, hc⟩
    rw [h ind hi, Bool.or_eq_true] at hc
    rcases hc with hc | hc
    · exact Or.inl ⟨ind, hi, hc⟩
    · exact Or.inr ⟨ind, hi, hc⟩
  · rintro (⟨ind, hi, hc⟩ | ⟨ind, hi, hc⟩)
    · exact ⟨ind, hi, by rw [h ind hi, hc, Bool.true_or]⟩
    · exact ⟨ind, hi, by rw [h ind hi, hc, Bool.or_true]⟩

theorem authText_append_left {a b : String} (h : authText a = true) : authText (a ++ b) = true := by
  obtain ⟨ind, hi, hc⟩ := List.any_eq_true.mp h
  apply List.any_eq_true.mpr
  refine ⟨ind, hi, ?_⟩
  rw [lower_append, contains_iff, String.toList_append]
  exact List.infix_append_of_infix_left (contains_iff.mp hc)

/-- A colon separates what stands before it from what follows. -/
theorem authText_append_of_colon {a b : String} (h : b.toList.head? = some ':') :
    authText (a ++ b) = (authText a || authText b) := by
  apply authText_append
  intro ind hi
  apply contains_append_of_separator (c := ':')
  · rw [lower, String.toList_map, List.head?_map, h]
    rfl
  · revert ind hi
    decide +kernel

def hasIndicator (l : List Char) : Bool :=
  authIndicators.any fun ind => decide (ind.toList <:+: l.map Char.toLower)

theorem authText_ofList (l : List Char) : authText (String.ofList l) = hasIndicator l := by
  simp only [authText, hasIndicator, contains, lower, String.toList_map, String.toList_ofList]

def noOverlap (l : List Char) : Bool :=
  authIndicators.all fun ind => (List.range ind.toList.length).all fun k =>
    k == 0 || !decide (ind.toList.take k <:+ l.map Char.toLower)

theorem authText_append_of_noOverlap {l : List Char} {b : String} (h : noOverlap l = true) :
    authText (String.ofList l ++ b) = (authText (String.ofList l) || authText b) := by
  apply authText_append
  intro ind hi
  apply contains_append_of_no_overlap
  intro k hk hpos hs
  have hall := List.all_eq_true.mp (List.all_eq_true.mp h ind hi) k (List.mem_range.mpr hk)
  rw [lower, String.toList_map, String.toList_ofList] at hs
  rw [Bool.or_eq_true, beq_iff_eq, Bool.not_eq_true', decide_eq_false_iff_not] at hall
  rcases hall with h0 | hn
  · omega
  · exact hn hs

/-- Behind a harmless text that no indicator overlaps, only what follows counts. -/
theorem authText_behind {l : List Char} {b : String} (h : noOverlap l = true)
    (ha : hasIndicator l = false) : authText (String.ofList l ++ b) = authText b := by
  rw [authText_append_of_noOverlap h, authText_ofList, ha, Bool.false_or]

theorem mem_indicator_i : ∀ ind ∈ authIndicators, 'i' ∈ ind.toList := by decide +kernel

theorem toLower_of_isDigit {c : Char} (h : c.isDigit = true) : c.toLower = c := by
  have hA : ¬(c.val ≥ 'A'.val ∧ c.val ≤ 'Z'.val) := by
    rw [Char.isDigit, Bool.and_eq_true, decide_eq_true_iff, decide_eq_true_iff] at h
    intro hc
    have hlt := UInt32.le_trans hc.1 h.2
    exact absurd hlt (by decide)
  exact dif_neg hA

theorem authText_toString (n : Nat) : authText (toString n) = false := by
  rw [Bool.eq_false_iff]
  intro h
  obtain ⟨ind, hi, hc⟩ := List.any_eq_true.mp h
  have hlow := (contains_iff.mp hc).subset (mem_indicator_i ind hi)
  rw [lower, String.toList_map] at hlow
  obtain ⟨c, hd, hl⟩ := List.mem_map.mp hlow
  have hdigit : c.isDigit = true := by
    apply Nat.isDigit_of_mem_toDigits (b := 10) (n := n) (by omega) (by omega)
    simpa using hd
  rw [toLower_of_isDigit hdigit] at hl
  rw [hl] at hdigit
  exact absurd hdigit (by decide)

theorem authText_cannotConnect (host text : String) :
    authText ("Cannot connect to " ++ (host ++ (": " ++ text))) =
      (authText host || authText text) := by
  have hcolon : (": " ++ text).toList.head? = some ':' := by
    rw [String.toList_append]
    rfl
  calc authText ("Cannot connect to " ++ (host ++ (": " ++ text)))
      = authText (host ++ (": " ++ text)) := authText_behind (by decide) (by decide)
    _ = (authText host || authText (": " ++ text)) := authText_append_of_colon hcolon
    _ = (authText host || authText text) :=
      congrArg (authText host || ·) (authText_behind (by decide) (by decide))

theorem isAuthError_cannotConnect (account : Account) (e : PyError) :
    isAuthError (cannotConnect account e) = (authText account.host || isAuthError e) :=
  authText_cannotConnect account.host e.message

theorem isAuthError_unexpected (e : PyError) :
    isAuthError (connectionError ("Unexpected error: " ++ e.message)) = isAuthError e :=
  authText_behind (by decide) (by decide)

theorem isAuthError_loginPageError (status : Nat) : isAuthError (loginPageError status) = false :=
  calc isAuthError (loginPageError status)
      = authText (toString status) := authText_behind (by decide) (by decide)
    _ = false := authText_toString status

theorem isAuthError_loginFailed (status : Nat) :
    isAuthError (connectionError ("Login failed: " ++ toString status)) = true :=
  authText_append_left ((authText_ofList _).trans (by decide))

theorem isAuthError_listingStatus {source : String} (h : source = "" ∨ source = " via REST")
    (status : Nat) :
    isAuthError (connectionError ("Failed to get VPN connections" ++ source ++
      (": HTTP " ++ toString status))) = false := by
  have hcolon : (": HTTP " ++ toString status).toList.head? = some ':' := by
    rw [String.toList_append]
    rfl
  have hsource : authText source = false := by
    rcases h with rfl | rfl
    · exact (authText_ofList _).trans (by decide)
    · exact (authText_ofList _).trans (by decide)
  calc authText ("Failed to get VPN connections" ++ source ++ (": HTTP " ++ toString status))
      = (authText ("Failed to get VPN connections" ++ source) ||
          authText (": HTTP " ++ toString status)) := authText_append_of_colon hcolon
    _ = (authText source || authText (toString status)) :=
      congrArg₂ (· || ·) (authText_behind (by decide) (by decide))
        (authText_behind (by decide) (by decide))
    _ = false := by rw [hsource, authText_toString, Bool.or_false]

theorem isAuthError_noLoginPage :
    isAuthError (connectionError ("No response from " ++ nameFritzbox ++ " login page")) = false :=
  calc authText ("No response from " ++ nameFritzbox ++ " login page")
      = authText ("No response from " ++ (nameFritzbox ++ " login page")) := by
        rw [String.append_assoc]
    _ = authText (nameFritzbox ++ " login page") := authText_behind (by decide) (by decide)
    _ = authText " login page" := authText_behind (by decide) (by decide)
    _ = false := (authText_ofList _).trans (by decide)

theorem isAuthError_noChallenge :
    isAuthError (valueError "Could not parse login response XML or find challenge") = false :=
  (authText_ofList _).trans (by decide)

theorem isAuthError_loginFailedSid : isAuthError (valueError errorMsgLoginFailedSid) = true := by
  rw [isAuthError_eq]
  change authText errorMsgLoginFailedSid = true
  unfold errorMsgLoginFailedSid
  iterate 7 apply authText_append_left
  exact (authText_ofList _).trans (by decide)

theorem isAuthError_invalidSid403 : isAuthError (valueError errorMsgInvalidSid403) = false :=
  (authText_ofList _).trans (by decide)

theorem isAuthError_invalidSidHtml : isAuthError (valueError errorMsgInvalidSidHtml) = false :=
  (authText_ofList _).trans (by decide)

theorem isAuthError_payloadMissing :
    isAuthError (connectionError errorMsgVpnPayloadMissing) = false :=
  (authText_ofList _).trans (by decide)

theorem isAuthError_infinity :
    isAuthError (otherError "cannot convert float infinity to integer") = false :=
  (authText_ofList _).trans (by decide)

end Texts

section Exchanges

variable {lib : Library} {account : Account} {x : Exchange} {r : Request} {e : PyError}
  {w : SessionWorld}

theorem valueError_os {message : String} (h : (valueError message).isOSError = true) :
    (valueError message).isConnectionError = true := by
  cases h

theorem not_refused_of_transportError (h : transportError x = some e) :
    loginRefused x = false ∧ statusWithHost x = false ∧ invalidSidAnswer lib x = false := by
  obtain ⟨r, err | response⟩ := x
  · cases r <;> exact ⟨rfl, rfl, rfl⟩
  · rw [transportError] at h
    split at h
    · rename_i hs
      cases hb : response.body with
      | ok content => rw [hb] at h; cases h
      | error err =>
          cases r <;> simp [loginRefused, statusWithHost, invalidSidAnswer, hs.1, hb]
    · cases h

theorem raisedBy_of_transportError {a : Answer} {rest : List Exchange}
    (hw : w.trace = (r, a) :: rest) (h : transportError (r, a) = some e) : RaisedBy lib r e w := by
  have hno : loginRefused (r, a) = false ∧ statusWithHost (r, a) = false ∧
      invalidSidAnswer lib (r, a) = false := not_refused_of_transportError h
  obtain ⟨hr, hs, hi⟩ := hno
  refine ⟨a, rest, hw, ?_, ?_⟩
  · rw [hr, hi, h, Option.any_some, Bool.false_or, Bool.or_false]
  · rw [namesHost, hs, h, Option.any_some, Bool.false_or]

theorem raisedBy_of_body {response : Response} {rest : List Exchange} {err : TransportError}
    (hw : w.trace = (r, .ok response) :: rest) (hs : response.status = httpStatusOk)
    (hr : readsBody r response = true) (hb : response.body = .error err) :
    RaisedBy lib r err.val w := by
  apply raisedBy_of_transportError hw
  rw [transportError, if_pos ⟨hs, hr⟩, hb]

theorem transportError_of_body {response : Response} {content : String}
    (h : response.body = .ok content) : transportError (r, .ok response) = none := by
  rw [transportError, h]
  split <;> rfl

theorem transportError_of_status {response : Response} (h : response.status ≠ httpStatusOk) :
    transportError (r, .ok response) = none := by
  rw [transportError, if_neg fun hs => h hs.1]

theorem calm_of_ok {response : Response} (hs : response.status = httpStatusOk)
    (ht : transportError (r, .ok response) = none)
    (hi : invalidSidAnswer lib (r, .ok response) = false) : Calm lib (r, .ok response) := by
  refine ⟨ht, ?_, ?_, hi⟩
  · cases r <;> simp [loginRefused, hs]
  · cases r <;> simp [statusWithHost, hs]

theorem Calm.raisedBy {a : Answer} {rest : List Exchange} (h : Calm lib (r, a))
    (hw : w.trace = (r, a) :: rest) (hos : e.isOSError = false) (ha : isAuthError e = false) :
    RaisedBy lib r e w := by
  obtain ⟨ht, hr, hs, hi⟩ := h
  refine ⟨a, rest, hw, ?_, ?_⟩
  · rw [ha, ht, hr, hi]
    rfl
  · rw [namesHost, ht, hs, hos]
    rfl

theorem LastCalm.explained (h : LastCalm account.lib w)
    (hos : e.isOSError = true → e.isConnectionError = true) (ha : isAuthError e = false) :
    Explained account e w := by
  obtain ⟨x, rest, hw, ht, hr, hs, hi⟩ := h
  refine ⟨hos, x, rest, hw, ?_⟩
  rw [ha, misread, namesHost, ht, hr, hs, hi]
  rfl

theorem RaisedBy.handed_on (h : RaisedBy account.lib r e w)
    (hos : e.isOSError = true → keepsConnectionError r = true ∧ e.isConnectionError = true) :
    Explained account e w := by
  obtain ⟨a, rest, hw, ha, hn⟩ := h
  refine ⟨fun h => (hos h).2, (r, a), rest, hw, ?_⟩
  have hn' : namesHost (r, a) = false := by
    rw [hn]
    cases he : e.isOSError with
    | false => rfl
    | true => rw [(hos he).1, (hos he).2]; rfl
  rw [ha, misread, hn', Bool.false_and, Bool.or_false]

theorem RaisedBy.with_host (h : RaisedBy account.lib r e w) (hos : e.isOSError = true)
    (hc : keepsConnectionError r = true → e.isConnectionError = false) :
    Explained account (cannotConnect account e) w := by
  obtain ⟨a, rest, hw, ha, hn⟩ := h
  refine ⟨fun _ => rfl, (r, a), rest, hw, ?_⟩
  have hn' : namesHost (r, a) = true := by
    rw [hn, hos, Bool.true_and, Bool.not_eq_true', Bool.and_eq_false_iff]
    cases hk : keepsConnectionError r with
    | false => exact Or.inl rfl
    | true => exact Or.inr (hc hk)
  rw [isAuthError_cannotConnect, ha, misread, hn', Bool.true_and]
  cases authText account.host <;> simp

end Exchanges

def FoundOrCalm (lib : Library) (result : Option (Dict String Json)) (w : SessionWorld) : Prop :=
  result = none → LastCalm lib w

section Listings

variable {lib : Library} {r : Request}

def isListing : Request → Bool
  | .restVpn _ _ | .dataLua _ _ => true
  | _ => false

theorem listing_keeps (h : isListing r = true) : keepsConnectionError r = false := by
  cases r <;> first | rfl | cases h

theorem listing_readsBody (h : isListing r = true) (response : Response) :
    readsBody r response = isJson response := by
  cases r <;> first | rfl | cases h

theorem listing_refused (h : isListing r = true) {a : Answer} : loginRefused (r, a) = false := by
  cases r <;> first | rfl | cases h

theorem listing_invalidSid (h : isListing r = true) {a : Answer} :
    invalidSidAnswer lib (r, a) = false := by
  cases r <;> first | rfl | cases h

end Listings

section Specifications

variable {account : Account} {partner : Partner Request Answer} {w : SessionWorld}

theorem send_yields {r : Request} {ok : Response → SessionWorld → Prop}
    {err : PyError → SessionWorld → Prop}
    (hok : ∀ response, ok response { w with trace := (r, .ok response) :: w.trace })
    (herr : ∀ e : TransportError, err e.val { w with trace := (r, .error e) :: w.trace }) :
    Yields partner w (send r) ok err := by
  rw [send, yields_bind]
  apply yields_request
  intro a
  cases a with
  | ok response => exact yields_pure.mpr (hok response)
  | error e => exact yields_throw.mpr (herr e)

theorem send_answered {r : Request} {ok : Response → SessionWorld → Prop}
    {err : PyError → SessionWorld → Prop} :
    Yields partner w (send r) ok err ↔
      match partner w.trace r with
      | .ok response => ok response { w with trace := (r, .ok response) :: w.trace }
      | .error e => err e.val { w with trace := (r, .error e) :: w.trace } := by
  rw [send, yields_bind, yields_request_iff]
  cases partner w.trace r with
  | ok response => exact yields_pure
  | error e => exact yields_throw

theorem readText_yields {response : Response} {ok : String → SessionWorld → Prop}
    {err : PyError → SessionWorld → Prop}
    (hok : ∀ content, response.body = .ok content → ok content w)
    (herr : ∀ e : TransportError, response.body = .error e → err e.val w) :
    Yields partner w (readText response) ok err := by
  rw [readText]
  cases hb : response.body with
  | ok content => exact yields_pure.mpr (hok content hb)
  | error e => exact yields_throw.mpr (herr e hb)

theorem handleLoginError_yields {r : Request} {e : PyError} {β : Type}
    {ok : β → SessionWorld → Prop} (h : RaisedBy account.lib r e w)
    (hr : keepsConnectionError r = true) :
    Yields partner w (handleLoginError account e) ok (Explained account) := by
  rw [handleLoginError, isTransport_eq]
  by_cases hc : e.isConnectionError = true
  · rw [if_pos hc, yields_throw]
    exact h.handed_on fun _ => ⟨hr, hc⟩
  · rw [if_neg hc]
    by_cases hos : e.isOSError = true
    · rw [if_pos hos, raiseTransportError, yields_bind, yields_update, yields_throw]
      exact h.with_host hos fun _ => Bool.eq_false_iff.mpr hc
    · rw [if_neg hos, yields_throw]
      exact h.handed_on fun h => absurd h hos

theorem handleListingError_yields {r : Request} {e : PyError} {β : Type}
    {ok : β → SessionWorld → Prop} (h : RaisedBy account.lib r e w)
    (hr : keepsConnectionError r = false) :
    Yields partner w (handleListingError account e) ok (Explained account) := by
  rw [handleListingError, isTransport_eq]
  by_cases hos : e.isOSError = true
  · rw [if_pos hos, raiseTransportError, yields_bind, yields_update, yields_throw]
    exact h.with_host hos fun hk => by rw [hr] at hk; cases hk
  · rw [if_neg hos, yields_throw]
    exact h.handed_on fun h => absurd h hos

theorem handleLoginPageHttpError_yields {v : Bool} {e : PyError} {β : Type}
    {ok : β → SessionWorld → Prop} (h : RaisedBy account.lib (.loginPageHttp v) e w) :
    Yields partner w (handleLoginPageHttpError account e) ok
      (fun e' w' => Explained account e' w' ∧ w'.state = w.state) := by
  rw [handleLoginPageHttpError, isTransport_eq]
  by_cases hc : e.isConnectionError = true
  · rw [if_pos hc, yields_throw]
    exact ⟨h.handed_on fun _ => ⟨rfl, hc⟩, rfl⟩
  · rw [if_neg hc]
    by_cases hos : e.isOSError = true
    · rw [if_pos hos, yields_throw]
      exact ⟨h.with_host hos fun _ => Bool.eq_false_iff.mpr hc, rfl⟩
    · rw [if_neg hos, yields_throw]
      exact ⟨h.handed_on fun h => absurd h hos, rfl⟩

theorem getLoginPageHttp_yields (v : Bool) :
    Yields partner w (getLoginPageHttp account v) (fun _ w' => LastCalm account.lib w')
      (fun e w' => Explained account e w' ∧ w'.state = w.state) := by
  rw [getLoginPageHttp, yields_bind, yields_tryCatch, yields_bind]
  apply send_yields
  · intro response
    by_cases hs : response.status = httpStatusOk
    · rw [if_neg (not_not.mpr hs)]
      apply readText_yields
      · intro content hb
        rw [yields_bind, yields_update, yields_pure]
        exact ⟨_, _, rfl, calm_of_ok hs (transportError_of_body hb) rfl⟩
      · intro e hb
        apply handleLoginPageHttpError_yields (v := v)
        exact raisedBy_of_body rfl hs rfl hb
    · rw [if_pos hs, yields_throw]
      apply handleLoginPageHttpError_yields (v := v)
      refine ⟨_, _, rfl, ?_, ?_⟩
      · rw [isAuthError_loginPageError, transportError_of_status hs]
        rfl
      · rw [namesHost, transportError_of_status hs]
        rfl
  · intro e
    exact handleLoginPageHttpError_yields (v := v) (raisedBy_of_transportError rfl rfl)

theorem handleLoginPageError_yields {p : Protocol} {v : Bool} {e : PyError}
    (h : RaisedBy account.lib (.loginPage p v) e w) :
    Yields partner w (handleLoginPageError account v e) (fun _ w' => LastCalm account.lib w')
      (Explained account) := by
  rw [handleLoginPageError, yields_bind, yields_read, isTransport_eq]
  by_cases hos : e.isOSError = true
  · rw [if_pos hos]
    by_cases hp : w.state.protocol = .https
    · rw [if_neg (not_not.mpr hp)]
      exact (getLoginPageHttp_yields v).mono (fun _ _ h => h) fun _ _ h => h.1
    · rw [if_pos hp, yields_throw]
      exact h.with_host hos fun hk => Bool.noConfusion hk
  · rw [if_neg hos, yields_throw]
    exact h.handed_on fun h => absurd h hos

theorem fetchLoginPage_yields (v : Bool) :
    Yields partner w (fetchLoginPage account v) (fun _ w' => LastCalm account.lib w')
      (Explained account) := by
  rw [fetchLoginPage, yields_bind, yields_read, yields_tryCatch, yields_bind]
  apply send_yields
  · intro response
    by_cases hs : response.status = httpStatusOk
    · rw [if_pos hs]
      apply readText_yields
      · intro content hb
        exact ⟨_, _, rfl, calm_of_ok hs (transportError_of_body hb) rfl⟩
      · intro e hb
        apply handleLoginPageError_yields (p := w.state.protocol)
        exact raisedBy_of_body rfl hs rfl hb
    · rw [if_neg hs]
      by_cases hf : w.state.protocol = .https ∧ response.status ∈ httpsFallbackStatusCodes
      · rw [if_pos hf]
        -- A failure of the fallback comes back to the handler with the protocol still HTTPS.
        refine (getLoginPageHttp_yields v).mono (fun _ _ h => h) ?_
        rintro e w' ⟨he, hw'⟩
        rw [handleLoginPageError, yields_bind, yields_read, hw', isTransport_eq]
        by_cases hos : e.isOSError = true
        · rw [if_pos hos, if_neg (not_not.mpr hf.1)]
          exact (getLoginPageHttp_yields v).mono (fun _ _ h => h) fun _ _ h => h.1
        · rw [if_neg hos, yields_throw]
          exact he
      · rw [if_neg hf, yields_throw]
        apply handleLoginPageError_yields (p := w.state.protocol)
        refine ⟨_, _, rfl, ?_, ?_⟩
        · rw [isAuthError_loginPageError, transportError_of_status hs]
          rfl
        · simp [namesHost, statusWithHost, transportError_of_status hs, hs, loginPageError,
            connectionError, keepsConnectionError]
  · intro e
    exact handleLoginPageError_yields (raisedBy_of_transportError rfl rfl)

theorem postPbkdf2_yields (response : String) :
    Yields partner w (postPbkdf2 account response) (fun _ _ => True) (Explained account) := by
  rw [postPbkdf2, yields_bind, yields_read, yields_tryCatch, yields_bind]
  apply send_yields
  · intro answered
    by_cases hs : answered.status = httpStatusOk
    · rw [if_neg (not_not.mpr hs), yields_bind]
      apply readText_yields
      · intro content _
        rw [yields_pure]
        trivial
      · intro e hb
        apply handleLoginError_yields
          (r := .login w.state.protocol true account.username response) _ rfl
        exact raisedBy_of_body rfl hs rfl hb
    · rw [if_pos hs, yields_pure]
      trivial
  · intro e
    exact handleLoginError_yields (r := .login w.state.protocol true account.username response)
      (raisedBy_of_transportError rfl rfl) rfl

theorem postMd5_yields (response : String) :
    Yields partner w (postMd5 account response)
      (fun content w' => ∃ x rest, w'.trace = x :: rest ∧
        invalidSidAnswer account.lib x = (validSid account.lib content).isNone)
      (Explained account) := by
  rw [postMd5, yields_bind, yields_read, yields_tryCatch, yields_bind]
  apply send_yields
  · intro answered
    by_cases hs : answered.status = httpStatusOk
    · rw [if_neg (not_not.mpr hs)]
      apply readText_yields
      · intro content hb
        refine ⟨_, _, rfl, ?_⟩
        rw [invalidSidAnswer, hs, hb]
        rfl
      · intro e hb
        apply handleLoginError_yields
          (r := .login w.state.protocol false account.username response) _ rfl
        exact raisedBy_of_body rfl hs rfl hb
    · rw [if_pos hs, yields_throw]
      apply handleLoginError_yields
          (r := .login w.state.protocol false account.username response) _ rfl
      refine ⟨_, _, rfl, ?_, ?_⟩
      · rw [isAuthError_loginFailed, transportError_of_status hs]
        simp [loginRefused, hs]
      · rw [namesHost, transportError_of_status hs]
        rfl
  · intro e
    exact handleLoginError_yields (r := .login w.state.protocol false account.username response)
      (raisedBy_of_transportError rfl rfl) rfl

def ValueErrorOrQuiet (e : PyError) : Prop :=
  e.isValueError = true ∨ (e.isOSError = false ∧ isAuthError e = false)

theorem bind_raises {β γ : Type} {P : PyError → Prop} {c : Except PyError β}
    {f : β → Except PyError γ} (hc : ∀ e, c = .error e → P e)
    (hf : ∀ b e, f b = .error e → P e) : ∀ e, c >>= f = .error e → P e := by
  intro e h
  cases c with
  | error e' => exact hc e (congrArg Except.error (Except.error.inj h))
  | ok b => exact hf b e h

theorem pyInt_raises (repr : Json → String) (text : String) :
    ∀ e, pyInt repr text = .error e → ValueErrorOrQuiet e := by
  intro e h
  rw [pyInt] at h
  split at h
  · cases h
  · rw [← Except.error.inj h]
    exact Or.inl rfl

theorem bytesFromHex_raises (text : String) :
    ∀ e, bytesFromHex text = .error e → ValueErrorOrQuiet e := by
  intro e h
  rw [bytesFromHex] at h
  split at h
  · cases h
  · rw [← Except.error.inj h]
    exact Or.inl rfl

theorem calculatePbkdf2Response_raises (hq : Quiet account.lib) (challenge password : String) :
    ∀ e, calculatePbkdf2Response account.lib challenge password = .error e →
      ValueErrorOrQuiet e := by
  intro e h
  rw [calculatePbkdf2Response] at h
  split at h
  · split at h
    · rw [← Except.error.inj h]
      exact Or.inl rfl
    · revert e
      apply bind_raises (pyInt_raises _ _)
      intro iter1
      apply bind_raises (pyInt_raises _ _)
      intro iter2
      apply bind_raises (bytesFromHex_raises _)
      intro salt1
      apply bind_raises (bytesFromHex_raises _)
      intro salt2
      apply bind_raises fun e h => Or.inr (hq.pbkdf2Hmac _ _ _ e h)
      intro hash1
      apply bind_raises fun e h => Or.inr (hq.pbkdf2Hmac _ _ _ e h)
      intro hash2 e h
      cases h
  · rw [← Except.error.inj h]
    exact Or.inl rfl

theorem waitBlocktime_yields (hq : Quiet account.lib) (content : String)
    (h : LastCalm account.lib w) :
    Yields partner w (waitBlocktime account.lib content) (fun _ w' => w' = w)
      (Explained account) := by
  rw [waitBlocktime]
  cases parseBlocktimeFromLoginXml account.lib.parseXml content with
  | none => exact yields_pure.mpr rfl
  | some blocktime =>
      by_cases hb : blocktime > 0
      · simp only [hb, if_true, yields_ended]
        cases hs : account.lib.sleep blocktime with
        | ok _ => trivial
        | error e =>
            obtain ⟨hos, ha⟩ := hq.sleep _ _ hs
            exact h.explained (fun h => absurd h (by rw [hos]; decide)) ha
      · simp only [hb, if_false, yields_pure]

theorem tryGetSessionViaPbkdf2_yields (hq : Quiet account.lib) :
    Yields partner w (tryGetSessionViaPbkdf2 account) (fun _ _ => True)
      (fun e w' => e.isValueError = false → Explained account e w') := by
  rw [tryGetSessionViaPbkdf2, yields_bind]
  refine (fetchLoginPage_yields true).mono ?_ fun _ _ he _ => he
  intro content w' hcalm
  by_cases hc : content = ""
  · rw [if_pos hc, yields_pure]
    trivial
  rw [if_neg hc]
  cases parseChallengeFromLoginXml account.lib.parseXml content with
  | none => exact yields_pure.mpr trivial
  | some challenge =>
      by_cases h2 : startsWith "2$" challenge = false
      · simp only [if_pos h2, yields_pure]
      simp only [if_neg h2, yields_bind, yields_ended, yields_pure]
      refine (waitBlocktime_yields hq content hcalm).mono ?_ fun _ _ he _ => he
      rintro _ _ rfl
      cases hr : calculatePbkdf2Response account.lib challenge account.password with
      | ok response =>
          exact (postPbkdf2_yields response).mono (fun _ _ h => h) fun _ _ he _ => he
      | error e =>
          intro hv
          rcases calculatePbkdf2Response_raises hq _ _ e hr with hval | ⟨hos, ha⟩
          · rw [hv] at hval
            cases hval
          · exact hcalm.explained (fun h => absurd h (by rw [hos]; decide)) ha

theorem loginViaMd5_yields :
    Yields partner w (loginViaMd5 account) (fun _ _ => True) (Explained account) := by
  rw [loginViaMd5, yields_bind, yields_tryCatch]
  refine (fetchLoginPage_yields false).mono ?_ ?_
  · intro content w' hcalm
    by_cases hc : content = ""
    · rw [if_pos hc, yields_throw]
      exact hcalm.explained (fun _ => rfl) isAuthError_noLoginPage
    rw [if_neg hc]
    by_cases hch : (parseChallengeFromLoginXml account.lib.parseXml content).getD "" = ""
    · rw [if_pos hch, yields_throw]
      exact hcalm.explained valueError_os isAuthError_noChallenge
    rw [if_neg hch, yields_bind]
    refine (postMd5_yields _).mono ?_ fun _ _ he => he
    rintro content w'' ⟨x, rest, hw, hi⟩
    cases hv : validSid account.lib content with
    | some sid =>
        simp only [yields_bind, yields_update, yields_pure]
    | none =>
        rw [yields_throw]
        refine ⟨valueError_os, x, rest, hw, ?_⟩
        rw [hi, hv, Option.isNone_none, Bool.or_true]
        exact isAuthError_loginFailedSid
  · intro e w' he
    by_cases hc : (e.isConnectionError || e.isValueError) = true
    · rw [if_pos hc, yields_throw]
      exact he
    · rw [if_neg hc, yields_throw]
      obtain ⟨_, x, rest, hw, ha⟩ := he
      exact ⟨fun _ => rfl, x, rest, hw, (isAuthError_unexpected e).trans ha⟩

theorem asyncGetSession_yields (hq : Quiet account.lib) :
    Yields partner w (asyncGetSession account) (fun _ _ => True) (Explained account) := by
  rw [asyncGetSession, yields_bind, yields_read]
  cases hs : w.state.sid with
  | some sid => exact yields_pure.mpr trivial
  | none =>
      rw [yields_bind, yields_tryCatch]
      have next : ∀ sid w', Yields partner w'
          (match sid with
            | some sid => do
                update fun s : Session.State => { s with sid := some sid }
                pure sid
            | none => loginViaMd5 account)
          (fun _ _ => True) (Explained account) := by
        intro sid w'
        cases sid with
        | some sid => simp only [yields_bind, yields_update, yields_pure]
        | none => exact loginViaMd5_yields
      refine (tryGetSessionViaPbkdf2_yields hq).mono (fun sid w' _ => next sid w') ?_
      intro e w' he
      by_cases hv : e.isValueError = true
      · rw [if_pos hv, yields_pure]
        exact next none w'
      · rw [if_neg hv, yields_throw]
        exact he (Bool.eq_false_iff.mpr hv)

theorem validateVpnListingStatus_yields {r : Request} {response : Response} {rest : List Exchange}
    {source : String} (hr : isListing r = true) (hw : w.trace = (r, .ok response) :: rest)
    (hsource : source = "" ∨ source = " via REST")
    (hstatus : statusWithHost (r, .ok response) =
      !([httpStatusOk, httpStatusForbidden].contains response.status)) :
    Yields partner w (validateVpnListingStatus response source)
      (fun _ w' => w' = w ∧ response.status = httpStatusOk) (RaisedBy account.lib r) := by
  rw [validateVpnListingStatus]
  by_cases h403 : response.status = httpStatusForbidden
  · rw [if_pos h403, yields_throw]
    refine Calm.raisedBy ⟨transportError_of_status ?_, listing_refused hr, ?_, listing_invalidSid hr⟩
      hw rfl isAuthError_invalidSid403
    · rw [h403]
      decide
    · rw [hstatus, h403]
      decide
  rw [if_neg h403]
  by_cases hs : response.status = httpStatusOk
  · rw [if_neg (not_not.mpr hs), yields_pure]
    exact ⟨rfl, hs⟩
  · rw [if_pos hs, yields_bind, yields_update, yields_throw]
    refine ⟨_, rest, hw, ?_, ?_⟩
    · rw [isAuthError_listingStatus hsource, transportError_of_status hs, listing_refused hr,
        listing_invalidSid hr]
      rfl
    · rw [namesHost, transportError_of_status hs, hstatus, listing_keeps hr]
      simp [hs, h403, connectionError]

theorem missingJson_yields {x : Exchange} {rest : List Exchange} (requireJson : Bool)
    (h : Calm account.lib x) (hw : w.trace = x :: rest) :
    Yields partner w (missingJson requireJson) (fun _ w' => w' = w ∧ Calm account.lib x)
      (RaisedBy account.lib x.1) := by
  rw [missingJson]
  cases requireJson with
  | false => exact yields_pure.mpr ⟨rfl, h⟩
  | true => exact yields_throw.mpr (h.raisedBy hw rfl isAuthError_invalidSidHtml)

theorem responseJsonDict_yields {r : Request} {response : Response} {rest : List Exchange}
    (hq : Quiet account.lib) (requireJson : Bool) (hr : isListing r = true)
    (hw : w.trace = (r, .ok response) :: rest) (hs : response.status = httpStatusOk) :
    Yields partner w (responseJsonDict account.lib response requireJson)
      (fun _ w' => w' = w ∧ Calm account.lib (r, .ok response)) (RaisedBy account.lib r) := by
  rw [responseJsonDict]
  by_cases hj : isJson response = false
  · rw [if_pos hj]
    refine missingJson_yields requireJson (calm_of_ok hs ?_ (listing_invalidSid hr)) hw
    rw [transportError, if_neg fun h => absurd h.2 (by rw [listing_readsBody hr, hj]; decide)]
  rw [if_neg hj, yields_tryCatch, yields_bind]
  have hread : readsBody r response = true := by
    rw [listing_readsBody hr]
    exact Bool.not_eq_false _ ▸ hj
  apply readText_yields
  · intro content hb
    have hcalm : Calm account.lib (r, .ok response) :=
      calm_of_ok hs (transportError_of_body hb) (listing_invalidSid hr)
    rw [yields_bind, yields_ended]
    cases hl : account.lib.loads content with
    | ok v => exact yields_pure.mpr ⟨rfl, hcalm⟩
    | error e =>
        by_cases hd : e.isJSONDecodeError = true
        · simp only [hd, if_true]
          exact missingJson_yields requireJson hcalm hw
        · simp only [if_neg hd]
          rw [yields_throw]
          obtain ⟨hos, ha⟩ := hq.loads _ _ hl
          exact hcalm.raisedBy hw hos ha
  · intro e hb
    have hd : ¬e.val.isJSONDecodeError = true := by
      rw [e.property]
      decide
    rw [if_neg hd, yields_throw]
    exact raisedBy_of_body hw hs hread hb

theorem fetchVpnConnectionsViaRest_yields (hq : Quiet account.lib) (sid : String) :
    Yields partner w (fetchVpnConnectionsViaRest account sid)
      (FoundOrCalm account.lib) (Explained account) := by
  rw [fetchVpnConnectionsViaRest, yields_bind, yields_read, yields_tryCatch]
  have caught : ∀ e w', RaisedBy account.lib (.restVpn w.state.protocol sid) e w' →
      Yields partner w' (handleListingError account e)
        (FoundOrCalm account.lib) (Explained account) :=
    fun _ _ h => handleListingError_yields h rfl
  refine Yields.mono ?_ (fun _ _ h => h) caught
  rw [yields_bind]
  apply send_yields
  · intro response
    by_cases h404 : response.status = httpStatusNotFound
    · rw [if_pos h404, yields_pure]
      refine fun _ => ⟨_, _, rfl, transportError_of_status ?_, rfl, ?_, rfl⟩
      · rw [h404]
        decide
      · rw [statusWithHost, h404]
        decide
    rw [if_neg h404, yields_bind]
    have hstatus : statusWithHost (.restVpn w.state.protocol sid, .ok response) =
        !([httpStatusOk, httpStatusForbidden].contains response.status) := by
      simp [statusWithHost, h404]
    refine (validateVpnListingStatus_yields rfl rfl (Or.inr rfl) hstatus).mono ?_ fun _ _ h => h
    rintro _ _ ⟨rfl, hs⟩
    rw [yields_bind]
    refine (responseJsonDict_yields hq false rfl rfl hs).mono ?_ fun _ _ h => h
    rintro data _ ⟨rfl, hcalm⟩
    cases data with
    | none => exact yields_pure.mpr fun _ => ⟨_, _, rfl, hcalm⟩
    | some data =>
        rw [yields_ended]
        cases hc : restConnections account.lib data with
        | ok result => exact fun _ => ⟨_, _, rfl, hcalm⟩
        | error e =>
            rw [restConnections] at hc
            cases hx : extractWireguardConnectionsFromRest account.lib.repr data with
            | ok box => rw [hx] at hc; cases hc
            | error e' =>
                rw [hx] at hc
                cases hc
                rw [extractWireguardConnectionsFromRest_error hx]
                exact hcalm.raisedBy rfl rfl isAuthError_infinity
  · intro e
    exact raisedBy_of_transportError rfl rfl

theorem fetchVpnConnectionsViaDataLua_yields (hq : Quiet account.lib) (sid : String) :
    Yields partner w (fetchVpnConnectionsViaDataLua account sid)
      (FoundOrCalm account.lib) (Explained account) := by
  rw [fetchVpnConnectionsViaDataLua, yields_bind, yields_read, yields_tryCatch]
  have caught : ∀ e w', RaisedBy account.lib (.dataLua w.state.protocol sid) e w' →
      Yields partner w' (handleListingError account e)
        (FoundOrCalm account.lib) (Explained account) :=
    fun _ _ h => handleListingError_yields h rfl
  refine Yields.mono ?_ (fun _ _ h => h) caught
  rw [yields_bind]
  apply send_yields
  · intro response
    rw [yields_bind]
    refine (validateVpnListingStatus_yields rfl rfl (Or.inl rfl) rfl).mono ?_ fun _ _ h => h
    rintro _ _ ⟨rfl, hs⟩
    rw [yields_bind]
    refine (responseJsonDict_yields hq true rfl rfl hs).mono ?_ fun _ _ h => h
    rintro data _ ⟨rfl, hcalm⟩
    cases data with
    | none => exact yields_pure.mpr fun _ => ⟨_, _, rfl, hcalm⟩
    | some data => exact yields_pure.mpr fun _ => ⟨_, _, rfl, hcalm⟩
  · intro e
    exact raisedBy_of_transportError rfl rfl

theorem fetchListingByMode_yields (hq : Quiet account.lib) (sid : String) (mode : ListingMode) :
    Yields partner w (fetchListingByMode account sid mode)
      (FoundOrCalm account.lib) (Explained account) := by
  cases mode with
  | rest => exact fetchVpnConnectionsViaRest_yields hq sid
  | dataLua => exact fetchVpnConnectionsViaDataLua_yields hq sid

theorem probeListing_yields (hq : Quiet account.lib) (sid : String) (preferred : Option ListingMode)
    (modes : List ListingMode)
    (h : LastCalm account.lib w ∨ ∃ mode ∈ modes, preferred ≠ some mode) :
    Yields partner w (probeListing account sid preferred modes) (fun _ _ => True)
      (Explained account) := by
  induction modes generalizing w with
  | nil =>
      rw [probeListing, yields_bind, yields_update, yields_throw]
      have hcalm : LastCalm account.lib w := h.resolve_right fun ⟨_, hm, _⟩ => List.not_mem_nil hm
      exact LastCalm.explained (w := { w with state := invalidateSession w.state }) hcalm
        (fun _ => rfl) isAuthError_payloadMissing
  | cons mode modes ih =>
      rw [probeListing]
      by_cases hp : preferred = some mode
      · rw [if_pos hp]
        apply ih
        refine h.imp_right ?_
        rintro ⟨m, hm, hne⟩
        rcases List.mem_cons.mp hm with rfl | hm
        · exact absurd hp hne
        · exact ⟨m, hm, hne⟩
      · rw [if_neg hp, yields_bind]
        refine (fetchListingByMode_yields hq sid mode).mono ?_ fun _ _ he => he
        intro result w' hnone
        cases result with
        | some result => simp only [yields_bind, yields_update, yields_pure]
        | none => exact ih (Or.inl (hnone rfl))

theorem fetchVpnConnectionsOnce_yields (hq : Quiet account.lib) :
    Yields partner w (fetchVpnConnectionsOnce account) (fun _ _ => True) (Explained account) := by
  rw [fetchVpnConnectionsOnce, yields_bind]
  refine (asyncGetSession_yields hq).mono ?_ fun _ _ he => he
  intro sid w' _
  rw [yields_bind, yields_read]
  cases w'.state.listingMode with
  | none =>
      exact probeListing_yields hq sid none _ (Or.inr ⟨.dataLua, List.mem_cons_self, by decide⟩)
  | some mode =>
      simp only [yields_bind]
      refine (fetchListingByMode_yields hq sid mode).mono ?_ fun _ _ he => he
      intro result w'' hnone
      cases result with
      | some result => exact yields_pure.mpr trivial
      | none =>
          rw [yields_bind, yields_update]
          exact probeListing_yields hq sid (some mode) _ (Or.inl (hnone rfl))

/-- The last exchange tells which failures count as credential failures. -/
theorem asyncGetVpnConnections_yields (hq : Quiet account.lib) :
    Yields partner w (asyncGetVpnConnections account) (fun _ _ => True) (Explained account) := by
  rw [asyncGetVpnConnections, yields_tryCatch]
  refine (fetchVpnConnectionsOnce_yields hq).mono (fun _ _ h => h) ?_
  intro e w' he
  by_cases hretry : (e.isValueError && contains errorMsgInvalidSid e.message) = true
  · rw [if_pos hretry, yields_bind, yields_update]
    exact fetchVpnConnectionsOnce_yields hq
  · rw [if_neg hretry, yields_throw]
    exact he

end Specifications

end FritzboxVpn.FetchErrors
