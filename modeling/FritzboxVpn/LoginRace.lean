import FritzboxVpn.ListingFallback
import FritzboxVpn.Pools
import FritzboxVpn.SessionTasks

namespace FritzboxVpn.LoginRace

open Constants Exceptions FetchErrors Interaction JsonValue ListingFallback Listings OrderedDict Parsing
  Pools Runs SessionTasks Tasks Tasks.Task Text
open Session (Account Answer Library ListingMode Protocol Request Response State TransportError
  calculatePbkdf2Response isJson listingProbeOrder validSid)

def obtainedSid (lib : Library) : Exchange → Option String
  | (.login _ _ _ _, .ok response) =>
      if response.status = httpStatusOk then response.body.toOption.bind (validSid lib) else none
  | _ => none

def carriedSid : Request → Option String
  | .restVpn _ sid | .dataLua _ sid | .put _ sid _ _ => some sid
  | _ => none

def obtainedSids (lib : Library) (trace : List Exchange) : List String :=
  trace.filterMap (obtainedSid lib)

def pageText : Answer → Option String
  | .ok response => if response.status = httpStatusOk then response.body.toOption else none
  | .error _ => none

def usableChallenge (account : Account) (content challenge : String) : Bool :=
  !startsWith "2$" challenge ||
    ((parseBlocktimeFromLoginXml account.lib.parseXml content).all fun blocktime =>
        blocktime ≤ 0 || (account.lib.sleep blocktime).toBool) &&
      match calculatePbkdf2Response account.lib challenge account.password with
      | .ok _ => true
      | .error err => err.isValueError

def usablePage (account : Account) (version2 : Bool) (content : String) : Bool :=
  if version2 then
    (parseChallengeFromLoginXml account.lib.parseXml content).all (usableChallenge account content)
  else content ≠ "" && (parseChallengeFromLoginXml account.lib.parseXml content).any (· ≠ "")

/-- The endpoint that serves the list sends it; of the other one it is enough that
the session takes it for one without a list. -/
def listsConnections (lib : Library) (serving mode : ListingMode) (a : Answer) : Bool :=
  (sentListing lib mode a).isSome ||
    mode ≠ serving && (jsonBody lib a).any fun document =>
      match connectionList lib mode document with
      | .ok none => true
      | _ => false

def Accepted (account : Account) (serving : ListingMode) : Request → Answer → Bool
  | .loginPage _ version2, a => (pageText a).any (usablePage account version2)
  | .loginPageHttp version2, a => (pageText a).any (usablePage account version2)
  | .login protocol version2 username response, a =>
      (obtainedSid account.lib (.login protocol version2 username response, a)).isSome
  | .restVpn _ _, a => listsConnections account.lib serving .rest a
  | .dataLua _ _, a => listsConnections account.lib serving .dataLua a
  | .put _ _ _ _, .ok response => response.status = httpStatusOk
  | .put _ _ _ _, .error _ => false

inductive Call
  | getVpnConnections
  | toggleVpn (uid : String) (enable : Bool)
deriving DecidableEq

inductive Outcome
  | listed (connections : Listing)
  | toggled (success : Bool)

def Call.task (account : Account) : Call → SessionT Outcome
  | .getVpnConnections => do
      let connections ← asyncGetVpnConnections account
      pure (.listed connections)
  | .toggleVpn uid enable => do
      let success ← asyncToggleVpn account uid enable
      pure (.toggled success)

abbrev Calls : Type := Pool State Request Answer PyError Outcome

def machine (account : Account) (s : State) (calls : List Call) :
    Machine Calls (Nat × Answer) (Option Exchange) :=
  Pool.machine s (calls.map (Call.task account))

abbrev CallStep : Type := Record Calls (Nat × Answer) (Option Exchange)

def WellAnswered (account : Account) (serving : ListingMode) (hist : List CallStep) : Prop :=
  ∀ r ∈ hist, ∀ x ∈ r.output, Accepted account serving x.1 x.2 = true

instance (account : Account) (serving : ListingMode) (hist : List CallStep) :
    Decidable (WellAnswered account serving hist) :=
  inferInstanceAs (Decidable (∀ r ∈ hist, ∀ x ∈ r.output, Accepted account serving x.1 x.2 = true))

def Ended {β : Type} : SessionT β → Prop
  | .ret _ | .raise _ => True
  | _ => False

structure OneLogin (lib : Library) (p : Calls) : Prop where
  once : (obtainedSids lib p.trace).length ≤ 1
  shared : ∀ x ∈ p.trace, ∀ sid, carriedSid x.1 = some sid → obtainedSids lib p.trace = [sid]
  loggedIn : ∀ th ∈ p.threads, th.begun = true → Ended th.task →
    (obtainedSids lib p.trace).length = 1

inductive Phase
  | loggingIn (obtained : Option String)
  | established (sid : String)

namespace Phase

def stored : Phase → Option String
  | loggingIn _ => none
  | established sid => some sid

def obtained : Phase → Option String
  | loggingIn sid => sid
  | established sid => some sid

def Allows : Phase → Request → Prop
  | loggingIn none, r => carriedSid r = none
  | loggingIn (some _), _ => False
  | established sid, r => carriedSid r = some sid

def after (lib : Library) : Phase → Request → Answer → Phase
  | loggingIn _, r, a => loggingIn (obtainedSid lib (r, a))
  | established sid, _, _ => established sid

structure Records (lib : Library) (φ : Phase) (trace : List Exchange) : Prop where
  obtained : obtainedSids lib trace = φ.obtained.toList
  carried : ∀ x ∈ trace, ∀ sid, carriedSid x.1 = some sid → φ.obtained = some sid

def Stores (φ φ' : Phase) : Prop := φ' = φ ∨ ∃ sid, φ = loggingIn (some sid) ∧ φ' = established sid

def Shared (φ : Phase) : Prop := ∃ sid, φ = established sid

theorem obtainedSid_of_carried {lib : Library} {r : Request} (a : Answer) {sid : String}
    (h : carriedSid r = some sid) : obtainedSid lib (r, a) = none := by
  cases r <;> first | rfl | cases h

variable {lib : Library} {φ φ' φ'' : Phase} {r : Request} {trace : List Exchange}

theorem Records.after (h : Records lib φ trace) (hallows : φ.Allows r) (a : Answer) :
    Records lib (φ.after lib r a) ((r, a) :: trace) := by
  cases φ with
  | loggingIn sid =>
      cases sid with
      | some sid => exact hallows.elim
      | none =>
          have hnone : obtainedSids lib trace = [] := h.obtained
          refine ⟨?_, fun x hx sid hsid => ?_⟩
          · change (obtainedSids lib ((r, a) :: trace)) = (obtainedSid lib (r, a)).toList
            rw [obtainedSids, List.filterMap_cons, ← obtainedSids, hnone]
            cases obtainedSid lib (r, a) <;> rfl
          · rcases List.mem_cons.mp hx with rfl | hx
            · exact absurd (hallows.symm.trans hsid) (Option.some_ne_none sid).symm
            · exact absurd (h.carried x hx sid hsid).symm (Option.some_ne_none sid)
  | established sid =>
      refine ⟨?_, fun x hx sid' hsid => ?_⟩
      · rw [obtainedSids, List.filterMap_cons_none (obtainedSid_of_carried a hallows)]
        exact h.obtained
      · rcases List.mem_cons.mp hx with rfl | hx
        · exact hallows.symm.trans hsid
        · exact h.carried x hx sid' hsid

theorem Records.stores (h : Records lib φ trace) (hstores : Stores φ φ') : Records lib φ' trace := by
  rcases hstores with rfl | ⟨sid, rfl, rfl⟩
  · exact h
  · exact ⟨h.obtained, h.carried⟩

theorem Stores.trans (h : Stores φ φ') (h' : Stores φ' φ'') : Stores φ φ'' := by
  rcases h with rfl | ⟨sid, rfl, rfl⟩
  · exact h'
  · rcases h' with rfl | ⟨_, h, -⟩
    · exact Or.inr ⟨sid, rfl, rfl⟩
    · cases h

theorem Stores.of_shared (h : Stores φ φ') (hshared : φ.Shared) : φ' = φ := by
  obtain ⟨sid, rfl⟩ := hshared
  rcases h with rfl | ⟨_, h, -⟩
  · rfl
  · cases h

end Phase

/-- One call logs in, and the others come when its SID is stored. -/
def loginDiscipline (account : Account) (serving : ListingMode) :
    Discipline Phase State Request Answer where
  agrees φ s := s.sid = φ.stored
  records := Phase.Records account.lib
  good r a := Accepted account serving r a
  allows := Phase.Allows
  after := Phase.after account.lib
  stores := Phase.Stores
  shared := Phase.Shared
  agrees_after φ _ _ _ h := by cases φ <;> exact h
  records_after _ _ a _ h hallows _ := h.after hallows a
  records_stores _ _ _ hstores h := h.stores hstores
  stores_refl _ := Or.inl rfl
  stores_trans _ _ _ h h' := h.trans h'
  shared_after φ _ _ h _ := by
    obtain ⟨sid, rfl⟩ := h
    rfl
  shared_stores _ _ hshared h := h.of_shared hshared

section Calls

variable {account : Account} {serving : ListingMode} {φ : Phase} {β : Type} {r : Request}
  {ok : Phase → β → Prop} {err : Phase → PyError → Prop}

theorem accepted_error (r : Request) (e : TransportError) :
    Accepted account serving r (.error e) = false := by
  have hlist : ∀ mode, listsConnections account.lib serving mode (.error e) = false := by
    intro mode
    rw [listsConnections, sentListing, jsonBody, Option.bind_none, Option.any_none, Bool.and_false]
    rfl
  cases r with
  | restVpn => exact hlist .rest
  | dataLua => exact hlist .dataLua
  | _ => rfl

theorem within_keeps {block : Response → SessionT β} (hallows : φ.Allows r)
    (h : ∀ response, Accepted account serving r (.ok response) = true →
      Keeps (loginDiscipline account serving) (φ.after account.lib r (.ok response)) (block response) ok err) :
    Keeps (loginDiscipline account serving) φ (within r block) ok err := by
  rw [within, keeps_bind, send, keeps_bind, keeps_request]
  refine ⟨hallows, fun a ha => ?_⟩
  cases a with
  | ok response => exact keeps_leaving.mpr (h response ha)
  | error e => exact absurd (accepted_error r e ▸ ha) Bool.false_ne_true

theorem readText_keeps {response : Response} {content : String} {ok : Phase → String → Prop}
    (hbody : response.body = .ok content) (h : ok φ content) :
    Keeps (loginDiscipline account serving) φ (readText response) ok err := by
  rw [readText, hbody]
  exact h

theorem pageText_eq {response : Response} {content : String} (h : pageText (.ok response) = some content) :
    response.status = httpStatusOk ∧ response.body = .ok content := by
  rw [pageText] at h
  split at h
  · rename_i hs
    exact ⟨hs, toOption_eq_some h⟩
  · cases h

theorem fetchLoginPage_keeps (version2 : Bool) :
    Keeps (loginDiscipline account serving) (.loggingIn none) (fetchLoginPage account version2)
      (fun φ content => φ = .loggingIn none ∧ usablePage account version2 content = true) err := by
  rw [fetchLoginPage, keeps_bind, keeps_read]
  intro s _
  rw [keeps_tryCatch]
  refine within_keeps rfl fun response haccepted => ?_
  obtain ⟨content, htext, husable⟩ := (Option.any_eq_true _ _).mp haccepted
  obtain ⟨hs, hbody⟩ := pageText_eq htext
  rw [if_pos hs]
  exact readText_keeps hbody ⟨rfl, husable⟩

theorem obtainedSid_eq {protocol : Protocol} {version2 : Bool} {username answered sid : String}
    {response : Response}
    (h : obtainedSid account.lib (.login protocol version2 username answered, .ok response) = some sid) :
    response.status = httpStatusOk ∧ ∃ content, response.body = .ok content ∧
      validSid account.lib content = some sid := by
  rw [obtainedSid] at h
  split at h
  · rename_i hs
    obtain ⟨content, hbody, hsid⟩ := Option.bind_eq_some_iff.mp h
    exact ⟨hs, content, toOption_eq_some hbody, hsid⟩
  · cases h

theorem login_keeps {protocol : Protocol} {version2 : Bool} {response : String} {block : Response → SessionT β}
    (h : ∀ answered content sid, answered.status = httpStatusOk → answered.body = .ok content →
      validSid account.lib content = some sid →
        Keeps (loginDiscipline account serving) (.loggingIn (some sid)) (block answered) ok err) :
    Keeps (loginDiscipline account serving) (.loggingIn none)
      (within (.login protocol version2 account.username response) block) ok err := by
  refine within_keeps rfl fun answered haccepted => ?_
  obtain ⟨sid, hsid⟩ := Option.isSome_iff_exists.mp haccepted
  obtain ⟨hs, content, hbody, hvalid⟩ := obtainedSid_eq hsid
  have hafter : Phase.after account.lib (.loggingIn none)
      (.login protocol version2 account.username response) (.ok answered) = .loggingIn (some sid) :=
    congrArg Phase.loggingIn hsid
  rw [hafter]
  exact h answered content sid hs hbody hvalid

theorem postPbkdf2_keeps (response : String) :
    Keeps (loginDiscipline account serving) (.loggingIn none) (postPbkdf2 account response)
      (fun φ content => ∃ sid, φ = .loggingIn (some sid) ∧
        content.bind (validSid account.lib) = some sid) err := by
  rw [postPbkdf2, keeps_bind, keeps_read]
  intro s _
  rw [keeps_tryCatch]
  apply login_keeps
  intro answered content sid hs hbody hvalid
  rw [if_neg (not_not.mpr hs), keeps_bind]
  exact readText_keeps hbody ⟨sid, rfl, hvalid⟩

theorem postMd5_keeps (response : String) :
    Keeps (loginDiscipline account serving) (.loggingIn none) (postMd5 account response)
      (fun φ content => ∃ sid, φ = .loggingIn (some sid) ∧ validSid account.lib content = some sid) err := by
  rw [postMd5, keeps_bind, keeps_read]
  intro s _
  rw [keeps_tryCatch]
  apply login_keeps
  intro answered content sid hs hbody hvalid
  rw [if_neg (not_not.mpr hs)]
  exact readText_keeps hbody ⟨sid, rfl, hvalid⟩

theorem storeSid_keeps {sid : String} {ok : Phase → Unit → Prop} (h : ok (.established sid) ()) :
    Keeps (loginDiscipline account serving) (.loggingIn (some sid))
      (Task.update fun s : State => { s with sid := some sid }) ok err :=
  keeps_update.mpr ⟨.established sid, Or.inr ⟨sid, rfl, rfl⟩, fun _ _ => rfl, h⟩

theorem waitBlocktime_keeps {content : String} {ok : Phase → Unit → Prop}
    (hwait : ((parseBlocktimeFromLoginXml account.lib.parseXml content).all fun blocktime =>
      blocktime ≤ 0 || (account.lib.sleep blocktime).toBool) = true) (h : ok φ ()) :
    Keeps (loginDiscipline account serving) φ (waitBlocktime account.lib content) ok err := by
  rw [waitBlocktime]
  cases hblock : parseBlocktimeFromLoginXml account.lib.parseXml content with
  | none => exact h
  | some blocktime =>
      rw [hblock, Option.all_some, Bool.or_eq_true, decide_eq_true_eq] at hwait
      by_cases hpositive : blocktime > 0
      · simp only [if_pos hpositive, keeps_pause, keeps_ended]
        have hsleep := hwait.resolve_left (by omega)
        cases hs : account.lib.sleep blocktime with
        | ok _ => exact h
        | error e =>
            rw [hs] at hsleep
            cases hsleep
      · simp only [if_neg hpositive]
        exact h

/-- A login of version 2 ends with its SID, or nothing was sent and version 1 follows. -/
theorem tryGetSessionViaPbkdf2_keeps :
    Keeps (loginDiscipline account serving) (.loggingIn none) (tryGetSessionViaPbkdf2 account)
      (fun φ sid => φ = .loggingIn sid)
      (fun φ e => φ = .loggingIn none ∧ e.isValueError = true) := by
  rw [tryGetSessionViaPbkdf2, keeps_bind]
  refine (fetchLoginPage_keeps true).mono ?_ fun _ _ h => h
  rintro φ content ⟨rfl, husable⟩
  by_cases hc : content = ""
  · rw [if_pos hc]
    exact rfl
  rw [if_neg hc]
  cases hchallenge : parseChallengeFromLoginXml account.lib.parseXml content with
  | none => exact rfl
  | some challenge =>
      by_cases h2 : startsWith "2$" challenge = false
      · simp only [if_pos h2]
        exact rfl
      simp only [if_neg h2]
      rw [usablePage, if_pos rfl, hchallenge, Option.all_some, usableChallenge, Bool.or_eq_true,
        Bool.not_eq_true', or_iff_right h2, Bool.and_eq_true] at husable
      obtain ⟨hwait, hcalculate⟩ := husable
      rw [keeps_bind]
      apply waitBlocktime_keeps hwait
      rw [keeps_bind, keeps_ended]
      cases hresponse : calculatePbkdf2Response account.lib challenge account.password with
      | error e =>
          rw [hresponse] at hcalculate
          exact ⟨rfl, hcalculate⟩
      | ok response =>
          simp only [keeps_bind]
          refine (postPbkdf2_keeps response).mono ?_ fun _ _ h => h
          rintro φ content ⟨sid, rfl, hsid⟩
          exact congrArg Phase.loggingIn hsid.symm

theorem loginViaMd5_keeps :
    Keeps (loginDiscipline account serving) (.loggingIn none) (loginViaMd5 account)
      (fun φ sid => φ = .established sid) err := by
  rw [loginViaMd5, keeps_bind, keeps_tryCatch]
  refine (fetchLoginPage_keeps false).mono ?_ fun _ _ h => h
  rintro φ content ⟨rfl, husable⟩
  rw [usablePage, if_neg Bool.false_ne_true, Bool.and_eq_true, decide_eq_true_eq] at husable
  obtain ⟨hc, hany⟩ := husable
  obtain ⟨challenge, hchallenge, hne⟩ := (Option.any_eq_true _ _).mp hany
  rw [if_neg hc, hchallenge, Option.getD_some, if_neg (of_decide_eq_true hne), keeps_bind]
  refine (postMd5_keeps _).mono ?_ fun _ _ h => h
  rintro φ content ⟨sid, rfl, hsid⟩
  rw [hsid, keeps_bind]
  exact storeSid_keeps rfl

theorem asyncGetSession_keeps (hφ : φ = .loggingIn none ∨ φ.Shared) :
    Keeps (loginDiscipline account serving) φ (asyncGetSession account)
      (fun φ sid => φ = .established sid) err := by
  rw [asyncGetSession, keeps_bind, keeps_read]
  intro s hs
  rcases hφ with rfl | ⟨sid, rfl⟩
  · have hnone : s.sid = none := hs
    rw [hnone, keeps_bind, keeps_tryCatch]
    refine tryGetSessionViaPbkdf2_keeps.mono ?_ ?_
    · rintro φ sid rfl
      cases sid with
      | some sid => exact keeps_bind.mpr (storeSid_keeps rfl)
      | none => exact loginViaMd5_keeps
    · rintro φ e ⟨rfl, hvalue⟩
      rw [if_pos hvalue]
      exact loginViaMd5_keeps
  · have hsid : s.sid = some sid := hs
    rw [hsid]
    exact rfl

theorem update_keeps {f : State → State} {ok : Phase → Unit → Prop} (hf : ∀ s, (f s).sid = s.sid)
    (h : ok φ ()) : Keeps (loginDiscipline account serving) φ (Task.update f) ok err :=
  keeps_update.mpr ⟨φ, Or.inl rfl, fun s hs => (hf s).trans hs, h⟩

variable {sid : String}

theorem validateVpnListingStatus_keeps {response : Response} {source : String} {ok : Phase → Unit → Prop}
    (hs : response.status = httpStatusOk) (h : ok φ ()) :
    Keeps (loginDiscipline account serving) φ (validateVpnListingStatus response source) ok err := by
  have hforbidden : response.status ≠ httpStatusForbidden := by
    rw [hs]
    decide
  rw [validateVpnListingStatus, if_neg hforbidden, if_neg (not_not.mpr hs)]
  exact h

theorem jsonBody_eq {response : Response} {document : Json}
    (h : jsonBody account.lib (.ok response) = some document) :
    response.status = httpStatusOk ∧ isJson response = true ∧
      ∃ content, response.body = .ok content ∧ account.lib.loads content = .ok document := by
  rw [jsonBody] at h
  split at h
  · rename_i hs
    obtain ⟨content, hbody, hloads⟩ := Option.bind_eq_some_iff.mp h
    exact ⟨hs.1, hs.2, content, toOption_eq_some hbody, toOption_eq_some hloads⟩
  · cases h

theorem responseJsonDict_keeps {response : Response} {requireJson : Bool} {document : Json}
    {ok : Phase → Option (Dict String Json) → Prop}
    (hdocument : jsonBody account.lib (.ok response) = some document) (h : ok φ (asDict document)) :
    Keeps (loginDiscipline account serving) φ (responseJsonDict account.lib response requireJson) ok err := by
  obtain ⟨-, hjson, content, hbody, hloads⟩ := jsonBody_eq hdocument
  rw [responseJsonDict, if_neg (Bool.not_eq_false _ ▸ hjson), keeps_tryCatch, keeps_bind]
  apply readText_keeps hbody
  rw [keeps_bind, hloads]
  exact h

theorem connectionList_of_lists {mode : ListingMode} {a : Answer}
    (h : listsConnections account.lib serving mode a = true) :
    ∃ document result, jsonBody account.lib a = some document ∧
      connectionList account.lib mode document = .ok result ∧ (mode = serving → result.isSome = true) := by
  rw [listsConnections, Bool.or_eq_true, Bool.and_eq_true, decide_eq_true_eq] at h
  rcases h with hsent | ⟨hmode, hany⟩
  · obtain ⟨l, hl⟩ := Option.isSome_iff_exists.mp hsent
    obtain ⟨document, hdocument, hlist⟩ := Option.bind_eq_some_iff.mp hl
    exact ⟨document, some l, hdocument, toOption_eq_some (Option.join_eq_some_iff.mp hlist), fun _ => rfl⟩
  · obtain ⟨document, hdocument, hnone⟩ := (Option.any_eq_true _ _).mp hany
    refine ⟨document, none, hdocument, ?_, fun h => absurd h hmode⟩
    split at hnone
    · assumption
    · cases hnone

theorem listing_keeps {mode : ListingMode} {response : Response} {source : String} {requireJson : Bool}
    {found : Option (Dict String Json) → SessionT (Option Listing)}
    (haccepted : listsConnections account.lib serving mode (.ok response) = true)
    (hfound : ∀ document, found (asDict document) = Task.ended (connectionList account.lib mode document)) :
    Keeps (loginDiscipline account serving) (.established sid)
      (validateVpnListingStatus response source >>= fun _ =>
        responseJsonDict account.lib response requireJson >>= found)
      (fun φ result => φ = .established sid ∧ (mode = serving → result.isSome = true)) err := by
  obtain ⟨document, result, hdocument, hlist, hserving⟩ := connectionList_of_lists haccepted
  rw [keeps_bind]
  apply validateVpnListingStatus_keeps (jsonBody_eq hdocument).1
  rw [keeps_bind]
  apply responseJsonDict_keeps hdocument
  rw [hfound, hlist]
  exact ⟨rfl, hserving⟩

theorem fetchListingByMode_keeps (mode : ListingMode) :
    Keeps (loginDiscipline account serving) (.established sid) (fetchListingByMode account sid mode)
      (fun φ result => φ = .established sid ∧ (mode = serving → result.isSome = true)) err := by
  cases mode with
  | rest =>
      rw [fetchListingByMode, fetchVpnConnectionsViaRest, keeps_bind, keeps_read]
      intro s _
      rw [keeps_tryCatch]
      refine within_keeps rfl fun response haccepted => ?_
      obtain ⟨document, -, hdocument, -, -⟩ := connectionList_of_lists haccepted
      have hfound : response.status ≠ httpStatusNotFound := by
        rw [(jsonBody_eq hdocument).1]
        decide
      rw [if_neg hfound]
      apply listing_keeps haccepted
      intro document
      rw [connectionList]
      cases asDict document <;> rfl
  | dataLua =>
      rw [fetchListingByMode, fetchVpnConnectionsViaDataLua, keeps_bind, keeps_read]
      intro s _
      rw [keeps_tryCatch]
      refine within_keeps rfl fun response haccepted => ?_
      apply listing_keeps haccepted
      intro document
      rw [connectionList]
      cases asDict document <;> rfl

/-- The endpoint that serves the list is still to be asked, so the probe finds it. -/
theorem probeListing_keeps {preferred : Option ListingMode} (hpreferred : preferred ≠ some serving)
    {modes : List ListingMode} (hmem : serving ∈ modes) :
    Keeps (loginDiscipline account serving) (.established sid) (probeListing account sid preferred modes)
      (fun φ _ => φ = .established sid) err := by
  induction modes with
  | nil => cases hmem
  | cons mode modes ih =>
      rw [probeListing]
      by_cases hskip : preferred = some mode
      · rw [if_pos hskip]
        apply ih
        refine (List.mem_cons.mp hmem).resolve_left ?_
        rintro rfl
        exact hpreferred hskip
      · rw [if_neg hskip, keeps_bind]
        refine (fetchListingByMode_keeps mode).mono ?_ fun _ _ h => h
        rintro φ result ⟨rfl, hserving⟩
        cases result with
        | some l =>
            simp only [keeps_bind]
            exact update_keeps (fun _ => rfl) rfl
        | none =>
            apply ih
            refine (List.mem_cons.mp hmem).resolve_left ?_
            rintro rfl
            cases hserving rfl

theorem fetchVpnConnectionsOnce_keeps (hφ : φ = .loggingIn none ∨ φ.Shared) :
    Keeps (loginDiscipline account serving) φ (fetchVpnConnectionsOnce account)
      (fun φ _ => φ.Shared) err := by
  have hprobes : ∀ mode, mode ∈ listingProbeOrder := by
    intro mode
    cases mode <;> decide
  rw [fetchVpnConnectionsOnce, keeps_bind]
  refine (asyncGetSession_keeps hφ).mono ?_ fun _ _ h => h
  rintro φ sid rfl
  rw [keeps_bind, keeps_read]
  intro s _
  cases s.listingMode with
  | none =>
      exact (probeListing_keeps (Option.some_ne_none serving).symm (hprobes serving)).mono
        (fun _ _ h => ⟨sid, h⟩) fun _ _ h => h
  | some mode =>
      simp only [keeps_bind]
      refine (fetchListingByMode_keeps mode).mono ?_ fun _ _ h => h
      rintro φ result ⟨rfl, hserving⟩
      cases result with
      | some l => exact ⟨sid, rfl⟩
      | none =>
          simp only [keeps_bind]
          apply update_keeps fun _ => rfl
          refine (probeListing_keeps ?_ (hprobes serving)).mono (fun _ _ h => ⟨sid, h⟩) fun _ _ h => h
          rintro h
          cases hserving (Option.some.inj h)

theorem asyncGetVpnConnections_keeps (hφ : φ = .loggingIn none ∨ φ.Shared) :
    Keeps (loginDiscipline account serving) φ (asyncGetVpnConnections account)
      (fun φ _ => φ.Shared) err := by
  rw [asyncGetVpnConnections, keeps_tryCatch]
  exact fetchVpnConnectionsOnce_keeps hφ

theorem putToggle_keeps {uid : String} {enable : Bool} {sidRetry : Option (SessionT Bool)} (vpnUid : Json)
    (hφ : φ.Shared) : Keeps (loginDiscipline account serving) φ (putToggle account uid enable sidRetry vpnUid)
      (fun φ _ => φ.Shared) err := by
  rw [putToggle, keeps_bind]
  refine (asyncGetSession_keeps (Or.inr hφ)).mono ?_ fun _ _ h => h
  rintro φ sid rfl
  rw [keeps_bind, keeps_read]
  intro s _
  rw [keeps_tryCatch]
  refine within_keeps rfl fun response haccepted => ?_
  have hs : response.status = httpStatusOk := of_decide_eq_true haccepted
  have hchecked : Keeps (loginDiscipline account serving) (.established sid)
      (checkToggle account uid enable response) (fun φ _ => φ.Shared)
      fun φ _ => φ.Shared := by
    rw [checkToggle, if_neg (not_not.mpr hs), verifyToggle, keeps_pause, keeps_bind]
    refine (asyncGetVpnConnections_keeps (Or.inr ⟨sid, rfl⟩)).mono ?_ fun _ _ h => h
    intro φ l hshared
    cases Toggle.connectionOf l uid <;> exact hshared
  have hforbidden : response.status ≠ httpStatusForbidden := by
    rw [hs]
    decide
  cases sidRetry with
  | none => exact hchecked
  | some again =>
      rw [answerToggle, if_neg hforbidden]
      exact hchecked

theorem toggleOnce_keeps {uid : String} {enable : Bool} {sidRetry : Option (SessionT Bool)}
    (hφ : φ = .loggingIn none ∨ φ.Shared) :
    Keeps (loginDiscipline account serving) φ (toggleOnce account uid enable sidRetry)
      (fun φ _ => φ.Shared) err := by
  rw [toggleOnce, keeps_bind]
  refine (asyncGetVpnConnections_keeps hφ).mono ?_ fun _ _ h => h
  intro φ l hshared
  cases Toggle.connectionOf l uid with
  | none => exact hshared
  | some conn =>
      simp only
      cases field conn apiKeyUid with
      | none => exact hshared
      | some vpnUid =>
          simp only
          split
          · exact hshared
          · split
            · exact hshared
            · exact putToggle_keeps vpnUid hshared

/-- Every call keeps to the discipline, whether it is the one that logs in or not. -/
theorem task_keeps (call : Call) (hφ : φ = .loggingIn none ∨ φ.Shared) :
    Keeps (loginDiscipline account serving) φ (call.task account) (fun φ _ => φ.Shared) err := by
  cases call with
  | getVpnConnections =>
      rw [Call.task, keeps_bind]
      exact asyncGetVpnConnections_keeps hφ
  | toggleVpn uid enable =>
      rw [Call.task, keeps_bind]
      exact toggleOnce_keeps hφ

theorem oneLogin_of_kept {tasks : List (SessionT Outcome)} {φ₀ : Phase} {p : Calls}
    (h : Pool.Kept (loginDiscipline account serving) tasks φ₀ φ p) : OneLogin account.lib p := by
  have hobtained : obtainedSids account.lib p.trace = φ.obtained.toList := h.records.obtained
  refine ⟨?_, ?_, ?_⟩
  · rw [hobtained]
    cases φ.obtained <;> simp
  · intro x hx sid hsid
    rw [hobtained, h.records.carried x hx sid hsid]
    rfl
  · intro th hth hbegun hended
    obtain ⟨i, hi⟩ := List.mem_iff_getElem?.mp hth
    have hkeeps := h.keeps i th hi hbegun
    revert hended hkeeps
    cases th.task with
    | ret b =>
        rintro - ⟨sid, rfl⟩
        rw [hobtained]
        rfl
    | raise e => exact fun _ hraised => hraised.elim
    | _ => exact fun hended => hended.elim

end Calls

def NoneBeginsInLogin (hist : List CallStep) : Prop :=
  ∀ r ∈ hist, Pool.BeginsAlone (fun s => s.sid = none) r.before r.input.1

instance (hist : List CallStep) : Decidable (NoneBeginsInLogin hist) :=
  inferInstanceAs (Decidable (∀ r ∈ hist, Pool.BeginsAlone (fun s => s.sid = none) r.before r.input.1))

/-- Whatever turns the calls take, there is one login and they all go by its SID,
if none begins between another's look at the SID and the SID being stored. -/
theorem oneLogin_of_noneBeginsInLogin (account : Account) (serving : ListingMode) (s : State)
    (hs : s.sid = none) (calls : List Call) {hist : List CallStep} {p : Calls}
    (h : Run (machine account s calls) hist p) (hwell : WellAnswered account serving hist)
    (hbegins : NoneBeginsInLogin hist) : OneLogin account.lib p := by
  have htasks : ∀ t ∈ calls.map (Call.task account), ∀ φ, φ = .loggingIn none ∨ Phase.Shared φ →
      Keeps (loginDiscipline account serving) φ t (fun φ _ => φ.Shared) fun _ _ => False := by
    intro t ht φ hφ
    obtain ⟨call, -, rfl⟩ := List.mem_map.mp ht
    exact task_keeps call hφ
  have hbusy : ∀ (φ : Phase) (s : State), s.sid = φ.stored → ¬s.sid = none → φ.Shared := by
    intro φ s hagrees hsid
    cases φ with
    | loggingIn sid => exact absurd hagrees hsid
    | established sid => exact ⟨sid, rfl⟩
  have hnothing : Phase.Records account.lib (.loggingIn none) [] :=
    ⟨rfl, fun x hx => absurd hx List.not_mem_nil⟩
  obtain ⟨φ, hkept⟩ :=
    Pool.run_kept (D := loginDiscipline account serving) htasks hbusy hs hnothing h hwell hbegins
  exact oneLogin_of_kept hkept

def challengePage : Answer :=
  .ok ⟨200, "text/xml", .ok "<SessionInfo><Challenge>1234567z</Challenge></SessionInfo>"⟩

def sessionPage (sid : String) : Answer :=
  .ok ⟨200, "text/xml", .ok ("<SessionInfo><SID>" ++ sid ++ "</SID></SessionInfo>")⟩

def restPage : Answer := .ok ⟨200, "application/json", .ok restText⟩

def loginTurns (i : Nat) (sid : String) : List (Nat × Answer) :=
  (i, sessionPage sid) :: List.replicate 6 (i, challengePage)

def twoPolls : List (Nat × Answer) :=
  loginTurns 1 "fedcba9876543210" ++ loginTurns 0 "0123456789abcdef" ++
    [(1, challengePage), (0, challengePage)]

theorem twoPolls_logInTwice : ∃ hist p,
    Run (machine jsonAccount {} [.getVpnConnections, .getVpnConnections]) hist p ∧
      WellAnswered jsonAccount .rest hist ∧ ¬OneLogin jsonLibrary p := by
  refine ⟨_, _, run_play (machine jsonAccount {} [.getVpnConnections, .getVpnConnections]) twoPolls,
    by decide +kernel, fun h => ?_⟩
  have htwice : (obtainedSids jsonLibrary
      ((machine jsonAccount {} [.getVpnConnections, .getVpnConnections]).play twoPolls).2.trace).length = 2 := by
    decide +kernel
  have honce := h.once
  rw [htwice] at honce
  omega

def pollThenToggle : List (Nat × Answer) :=
  List.replicate 7 (1, restPage) ++ List.replicate 3 (1, restPage) ++ List.replicate 3 (1, emptyPage) ++
    List.replicate 3 (0, restPage) ++ [(1, emptyPage)] ++ List.replicate 5 (0, emptyPage) ++
      loginTurns 0 "0123456789abcdef" ++ [(0, emptyPage)]

theorem pollThenToggle_logsInOnce : OneLogin jsonLibrary
    ((machine jsonAccount {} [.getVpnConnections, .toggleVpn "wg0" false]).play pollThenToggle).2 :=
  oneLogin_of_noneBeginsInLogin jsonAccount .rest {} rfl [.getVpnConnections, .toggleVpn "wg0" false]
    (run_play _ pollThenToggle) (by decide +kernel) (by decide +kernel)

end FritzboxVpn.LoginRace
