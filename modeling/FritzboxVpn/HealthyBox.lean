import FritzboxVpn.BlockTime
import FritzboxVpn.ListingFallback
import FritzboxVpn.RetryCause

namespace FritzboxVpn.HealthyBox

open Constants Coordinator Exceptions FetchErrors Interaction Interaction.Program Listings LoginRace
  Parsing RetryCause Session SessionRequests Text
open BlockTime (challengeResponse)
open ListingFallback (emptyPage jsonAccount jsonBody_emptyPage jsonLibrary restBox_sends restText
  sentListing_of_absent)

def protocolOf : Request → Protocol
  | .loginPage protocol _ | .login protocol _ _ _ | .restVpn protocol _ | .dataLua protocol _
  | .put protocol _ _ _ => protocol
  | .loginPageHttp _ => .http

def rightResponse (account : Account) (version2 : Bool) (content : String) : Option String :=
  if content = "" then none
  else
    (parseChallengeFromLoginXml account.lib.parseXml content).bind fun challenge =>
      if challenge = "" ∨ (version2 = true ∧ startsWith "2$" challenge = false) then none
      else (challengeResponse account version2 challenge).toOption

def Answerable (account : Account) (content : String) : Prop :=
  ∀ challenge e, parseChallengeFromLoginXml account.lib.parseXml content = some challenge →
    startsWith "2$" challenge = true →
    calculatePbkdf2Response account.lib challenge account.password = .error e → e.isValueError = true

structure Box where
  partner : Partner Request Answer
  served : Protocol → Bool
  lists : ListingMode → Bool
  valid : List Exchange → String → Prop
  connections : Listing

def Box.exchange (box : Box) (trace : List Exchange) (r : Request) : Exchange :=
  (r, box.partner trace r)

structure Box.Page (box : Box) (version2 : Bool) (r : Request) : Prop where
  page : isLoginPage r = true
  version : ofVersion version2 r = true
  served : box.served (protocolOf r) = true

def Gone (lib : Library) (mode : ListingMode) (a : Answer) : Prop :=
  Absent lib mode a ∧ (mode = .dataLua → notFound a = false)

/-- The box runs: it takes the right responses, knows the SIDs it gave out, and
lists its connections under them. -/
structure Healthy (account : Account) (box : Box) : Prop where
  sleeps : ∀ seconds, account.lib.sleep seconds = .ok ()
  reachable : ∃ protocol, box.served protocol = true
  refused : ∀ trace r, box.served (protocolOf r) = false → ∃ e : TransportError,
    box.partner trace r = .error e ∧ e.val.isOSError = true ∧
      isAuthError (cannotConnect account e.val) = false
  page : ∀ trace version2 r, box.Page version2 r → ∃ content,
    pageText (box.partner trace r) = some content ∧ Answerable account content
  offers : ∃ version2, ∀ trace r content, box.Page version2 r →
    pageText (box.partner trace r) = some content →
      (rightResponse account version2 content).isSome = true
  accepts : ∀ trace version2 r content response, box.Page version2 r →
    pageText (box.partner trace r) = some content →
    rightResponse account version2 content = some response →
    ∃ text sid,
      pageText (box.partner (box.exchange trace r :: trace)
        (.login (protocolOf r) version2 account.username response)) = some text ∧
      validSid account.lib text = some sid ∧
      box.valid (box.exchange (box.exchange trace r :: trace)
        (.login (protocolOf r) version2 account.username response) :: box.exchange trace r :: trace) sid
  steady : ∀ trace r sid, isListing r = true →
    (box.valid (box.exchange trace r :: trace) sid ↔ box.valid trace sid)
  lister : ∃ mode, box.lists mode = true
  listing : ∀ trace protocol mode sid, box.served protocol = true → box.lists mode = true →
    box.valid trace sid →
    sentListing account.lib mode (box.partner trace (listingRequest mode protocol sid)) =
      some box.connections
  gone : ∀ trace protocol mode sid, box.served protocol = true → box.lists mode = false →
    Gone account.lib mode (box.partner trace (listingRequest mode protocol sid)) ∨
      (¬box.valid trace sid ∧
        raisesExpired account.lib (box.exchange trace (listingRequest mode protocol sid)) = true)
  expired : ∀ trace protocol mode sid, box.served protocol = true → box.lists mode = true →
    ¬box.valid trace sid →
    raisesExpired account.lib (box.exchange trace (listingRequest mode protocol sid)) = true

def CanLogIn (box : Box) (s : Session.State) : Prop :=
  box.served s.protocol = true ∨ s.protocol = .https

/-- The session is held to a protocol that the box no longer serves. -/
def Stranded (box : Box) (s : Session.State) : Prop :=
  box.served s.protocol = false ∧ (s.sid ≠ none ∨ s.protocol = .http)

structure Attached (box : Box) (trace : List Exchange) (s : Session.State) (sid : String)
    (mode : ListingMode) : Prop where
  knows : s.sid = some sid
  cached : s.listingMode = some mode
  valid : box.valid trace sid
  served : box.served s.protocol = true
  lists : box.lists mode = true

structure LoggedIn (box : Box) (before : Session.State) (sid : String) (w : SessionWorld) : Prop where
  knows : w.state.sid = some sid
  mode : w.state.listingMode = before.listingMode
  valid : box.valid w.trace sid
  served : box.served w.state.protocol = true

section Login

variable {account : Account} {box : Box} {w : SessionWorld} {version2 : Bool}

theorem served_http_of_not_https (hb : Healthy account box) (h : box.served .https = false) :
    box.served .http = true := by
  obtain ⟨protocol, hp⟩ := hb.reachable
  cases protocol with
  | http => exact hp
  | https =>
      rw [h] at hp
      cases hp

theorem pageText_some {a : Answer} {content : String} (h : pageText a = some content) :
    ∃ response, a = .ok response ∧ response.status = httpStatusOk ∧ response.body = .ok content := by
  cases a with
  | error e => cases h
  | ok response =>
      rw [pageText] at h
      split at h
      · rename_i hs
        refine ⟨response, rfl, hs, ?_⟩
        cases hbody : response.body with
        | error e =>
            rw [hbody] at h
            cases h
        | ok text =>
            rw [hbody] at h
            cases h
            rfl
      · cases h

structure AtPage (box : Box) (version2 : Bool) (before : Session.State) (content : String)
    (r : Request) (earlier : List Exchange) (w : SessionWorld) : Prop where
  page : box.Page version2 r
  trace : w.trace = box.exchange earlier r :: earlier
  text : pageText (box.partner earlier r) = some content
  state : w.state = { before with protocol := protocolOf r }

theorem getLoginPageHttp_healthy (hb : Healthy account box) (hhttp : box.served .http = true) :
    Yields box.partner w (getLoginPageHttp account version2)
      (fun content w' => ∃ r earlier, AtPage box version2 w.state content r earlier w')
      (fun _ _ => False) := by
  have hpage : box.Page version2 (.loginPageHttp version2) :=
    ⟨rfl, beq_self_eq_true version2, hhttp⟩
  obtain ⟨content, htext, -⟩ := hb.page w.trace version2 _ hpage
  obtain ⟨response, ha, hs, hbody⟩ := pageText_some htext
  rw [getLoginPageHttp, yields_bind, yields_tryCatch, yields_bind, send_answered, ha]
  simp only
  rw [if_neg (not_not.mpr hs), readText, hbody]
  simp only [yields_pure, yields_bind, yields_update]
  refine ⟨_, w.trace, hpage, ?_, htext, rfl⟩
  rw [Box.exchange, ha]

theorem fetchLoginPage_healthy (hb : Healthy account box) (hin : CanLogIn box w.state) :
    Yields box.partner w (fetchLoginPage account version2)
      (fun content w' => ∃ r earlier, AtPage box version2 w.state content r earlier w')
      (fun _ _ => False) := by
  rw [fetchLoginPage, yields_bind, yields_read, yields_tryCatch, yields_bind, send_answered]
  cases hserved : box.served w.state.protocol with
  | true =>
      have hpage : box.Page version2 (.loginPage w.state.protocol version2) :=
        ⟨rfl, beq_self_eq_true version2, hserved⟩
      obtain ⟨content, htext, -⟩ := hb.page w.trace version2 _ hpage
      obtain ⟨response, ha, hs, hbody⟩ := pageText_some htext
      rw [ha]
      simp only
      rw [if_pos hs, readText, hbody]
      refine yields_pure.mpr ⟨_, w.trace, hpage, ?_, htext, rfl⟩
      rw [Box.exchange, ha]
  | false =>
      have hhttps : w.state.protocol = .https := by
        rcases hin with h | h
        · rw [hserved] at h
          cases h
        · exact h
      obtain ⟨e, ha, hos, -⟩ := hb.refused w.trace (.loginPage w.state.protocol version2) hserved
      have hhttp : box.served .http = true := by
        apply served_http_of_not_https hb
        rw [← hhttps]
        exact hserved
      rw [ha]
      simp only
      rw [handleLoginPageError, yields_bind, yields_read, isTransport_eq, if_pos hos,
        if_neg (not_not.mpr hhttps)]
      exact getLoginPageHttp_healthy hb hhttp

theorem posted {r : Request} {text : String} {β : Type} {cont : Response → SessionM β}
    {caught : PyError → SessionM β} {ok : β → SessionWorld → Prop} {err : PyError → SessionWorld → Prop}
    (htext : pageText (box.partner w.trace r) = some text)
    (h : ∀ response, response.status = httpStatusOk → response.body = .ok text →
      Yields box.partner ⟨w.state, box.exchange w.trace r :: w.trace⟩ (cont response) ok
        (fun e w' => Yields box.partner w' (caught e) ok err)) :
    Yields box.partner w (tryCatch (send r >>= cont) caught) ok err := by
  obtain ⟨response, ha, hs, hbody⟩ := pageText_some htext
  have hcont := h response hs hbody
  rw [Box.exchange, ha] at hcont
  rw [yields_tryCatch, yields_bind, send_answered, ha]
  exact hcont

structure GaveUp (account : Account) (before : Session.State) (content : String) (w : SessionWorld) :
    Prop where
  state : w.state = before
  response : rightResponse account true content = none

theorem rightResponse_pbkdf2 {content challenge : String} (hc : content ≠ "")
    (hp : parseChallengeFromLoginXml account.lib.parseXml content = some challenge)
    (h2 : startsWith "2$" challenge = true) : rightResponse account true content =
      (calculatePbkdf2Response account.lib challenge account.password).toOption := by
  have hne : challenge ≠ "" := by
    rintro rfl
    exact absurd h2 (by decide)
  rw [rightResponse, if_neg hc, hp, Option.bind_some, if_neg]
  · rfl
  · rintro (h | ⟨-, h⟩)
    · exact hne h
    · rw [h2] at h
      cases h

theorem waitBlocktime_healthy (hb : Healthy account box) {content : String}
    {ok : Unit → SessionWorld → Prop} {err : PyError → SessionWorld → Prop} (h : ok () w) :
    Yields box.partner w (waitBlocktime account.lib content) ok err := by
  rw [waitBlocktime]
  split
  · exact yields_pure.mpr h
  · split
    · rw [hb.sleeps, yields_ended]
      exact h
    · exact yields_pure.mpr h

/-- The PBKDF2 login gives a valid SID, or it finds nothing to answer. -/
theorem pbkdf2With_healthy (hb : Healthy account box) {before : Session.State} {content : String}
    {r : Request} {earlier : List Exchange} (hat : AtPage box true before content r earlier w) :
    Yields box.partner w (pbkdf2With account content)
      (fun result w' => (∃ sid, result = some sid ∧ box.valid w'.trace sid ∧ w'.state = w.state) ∨
        (result = none ∧ GaveUp account w.state content w'))
      (fun e w' => e.isValueError = true ∧ GaveUp account w.state content w') := by
  obtain ⟨content', htext', hanswerable⟩ := hb.page earlier true r hat.page
  rw [hat.text] at htext'
  cases htext'
  rw [pbkdf2With]
  by_cases hc : content = ""
  · rw [if_pos hc]
    exact yields_pure.mpr (Or.inr ⟨rfl, rfl, if_pos hc⟩)
  rw [if_neg hc]
  cases hp : parseChallengeFromLoginXml account.lib.parseXml content with
  | none =>
      refine yields_pure.mpr (Or.inr ⟨rfl, rfl, ?_⟩)
      rw [rightResponse, if_neg hc, hp, Option.bind_none]
  | some challenge =>
      simp only
      cases h2 : startsWith "2$" challenge with
      | false =>
          rw [if_pos rfl]
          refine yields_pure.mpr (Or.inr ⟨rfl, rfl, ?_⟩)
          rw [rightResponse, if_neg hc, hp, Option.bind_some, if_pos (Or.inr ⟨rfl, h2⟩)]
      | true =>
          have hright := rightResponse_pbkdf2 hc hp h2
          rw [if_neg (by decide), yields_bind]
          apply waitBlocktime_healthy hb
          rw [yields_bind, yields_ended]
          cases hcalc : calculatePbkdf2Response account.lib challenge account.password with
          | error e =>
              rw [hcalc] at hright
              exact ⟨hanswerable challenge e hp h2 hcalc, rfl, hright⟩
          | ok response =>
              rw [hcalc] at hright
              obtain ⟨text, sid, hposted, hsid, hvalid⟩ :=
                hb.accepts earlier true r content response hat.page hat.text hright
              have hprotocol : w.state.protocol = protocolOf r := by rw [hat.state]
              rw [← hat.trace] at hposted hvalid
              simp only
              rw [yields_bind, postPbkdf2, yields_bind, yields_read, hprotocol]
              apply posted hposted
              intro answered hs hbody
              rw [if_neg (not_not.mpr hs), readText, hbody]
              simp only [yields_bind, yields_pure, Option.bind_some]
              exact Or.inl ⟨sid, hsid, hvalid, trivial⟩

/-- The MD5 login gives a valid SID where the page asks for a response. -/
theorem md5With_healthy (hb : Healthy account box) {before : Session.State} {content response : String}
    {r : Request} {earlier : List Exchange} (hat : AtPage box false before content r earlier w)
    (hright : rightResponse account false content = some response) :
    Yields box.partner w (md5With account content)
      (LoggedIn box before) (fun _ _ => False) := by
  have hfound := hright
  rw [rightResponse] at hfound
  split at hfound
  · cases hfound
  rename_i hc
  obtain ⟨challenge, hp, hcase⟩ := Option.bind_eq_some_iff.mp hfound
  split at hcase
  · cases hcase
  rename_i hno
  rw [not_or] at hno
  cases hcase
  obtain ⟨text, sid, hposted, hsid, hvalid⟩ :=
    hb.accepts earlier false r content _ hat.page hat.text hright
  have hprotocol : w.state.protocol = protocolOf r := by rw [hat.state]
  rw [← hat.trace] at hposted hvalid
  rw [md5With, if_neg hc]
  simp only [hp, Option.getD_some]
  rw [if_neg hno.1, yields_bind, postMd5, yields_bind, yields_read, hprotocol]
  apply posted hposted
  intro answered hs hbody
  rw [if_neg (not_not.mpr hs), readText, hbody]
  simp only [yields_pure, hsid, yields_bind, yields_update]
  refine ⟨rfl, ?_, hvalid, ?_⟩
  · rw [hat.state]
  · change box.served w.state.protocol = true
    rw [hprotocol]
    exact hat.page.served

theorem loginViaMd5_healthy (hb : Healthy account box) (hin : CanLogIn box w.state)
    (hoffers : ∀ trace r content, box.Page false r → pageText (box.partner trace r) = some content →
      (rightResponse account false content).isSome = true) :
    Yields box.partner w (loginViaMd5 account) (LoggedIn box w.state) (fun _ _ => False) := by
  rw [loginViaMd5_eq, yields_bind, md5Page, yields_tryCatch]
  refine (fetchLoginPage_healthy hb hin).mono ?_ fun _ _ h => h.elim
  rintro content w' ⟨r, earlier, hat⟩
  obtain ⟨response, hright⟩ := Option.isSome_iff_exists.mp (hoffers earlier r content hat.page hat.text)
  exact md5With_healthy hb hat hright

theorem login_healthy (hb : Healthy account box) (hin : CanLogIn box w.state) :
    Yields box.partner w (login account) (LoggedIn box w.state) (fun _ _ => False) := by
  have toMd5 : ∀ {content : String} {r : Request} {earlier : List Exchange} {w' w'' : SessionWorld},
      AtPage box true w.state content r earlier w' → GaveUp account w'.state content w'' →
      Yields box.partner w'' (loginViaMd5 account) (LoggedIn box w.state) (fun _ _ => False) := by
    intro content r earlier w' w'' hat hgave
    have hserved : box.served w''.state.protocol = true := by
      rw [hgave.state, hat.state]
      exact hat.page.served
    refine (loginViaMd5_healthy hb (Or.inl hserved) ?_).mono ?_ fun _ _ h => h
    · obtain ⟨version2, hoffers⟩ := hb.offers
      cases version2 with
      | false => exact hoffers
      | true =>
          have hsome := hoffers earlier r content hat.page hat.text
          rw [hgave.response] at hsome
          cases hsome
    · intro sid u hu
      refine ⟨hu.knows, ?_, hu.valid, hu.served⟩
      rw [hu.mode, hgave.state, hat.state]
  rw [login, yields_bind, pbkdf2OrNone, yields_tryCatch]
  change Yields _ _ (fetchLoginPage account true >>= pbkdf2With account) _ _
  rw [yields_bind]
  refine (fetchLoginPage_healthy hb hin).mono ?_ fun _ _ h => h.elim
  rintro content w' ⟨r, earlier, hat⟩
  refine (pbkdf2With_healthy hb hat).mono ?_ ?_
  · rintro result w'' (⟨sid, rfl, hvalid, hstate⟩ | ⟨rfl, hgave⟩)
    · rw [hat.state] at hstate
      rw [keepOrLoginViaMd5, yields_bind, yields_update, yields_pure]
      rw [hstate]
      exact ⟨rfl, rfl, hvalid, hat.page.served⟩
    · exact toMd5 hat hgave
  · rintro e w'' ⟨hvalue, hgave⟩
    rw [if_pos hvalue, yields_pure]
    exact toMd5 hat hgave

end Login

section Listing

variable {account : Account} {box : Box} {w : SessionWorld} {sid : String} {mode : ListingMode}

theorem isListing_listingRequest (mode : ListingMode) (protocol : Protocol) (sid : String) :
    isListing (listingRequest mode protocol sid) = true := by
  cases mode <;> rfl

def asked (box : Box) (w : SessionWorld) (mode : ListingMode) (sid : String) : SessionWorld :=
  ⟨w.state, box.exchange w.trace (listingRequest mode w.state.protocol sid) :: w.trace⟩

theorem valid_asked (hb : Healthy account box) (mode : ListingMode) (sid : String) :
    box.valid (asked box w mode sid).trace sid ↔ box.valid w.trace sid :=
  hb.steady w.trace _ sid (isListing_listingRequest mode _ sid)

theorem fetch_listed (hb : Healthy account box) (hserved : box.served w.state.protocol = true)
    (hlists : box.lists mode = true) (hvalid : box.valid w.trace sid)
    {ok : Option Listing → SessionWorld → Prop} {err : PyError → SessionWorld → Prop}
    (h : ok (some box.connections) (asked box w mode sid)) :
    Yields box.partner w (fetchListingByMode account sid mode) ok err := by
  have hs := hb.listing w.trace w.state.protocol mode sid hserved hlists hvalid
  refine fetchListingByMode_answered rfl ⟨?_, ?_, ?_, ?_⟩
  · intro l hl
    rw [hs] at hl
    cases hl
    exact h
  all_goals
    intro hnone
    rw [hs] at hnone
    cases hnone

theorem fetch_gone
    (hgone : Gone account.lib mode (box.partner w.trace (listingRequest mode w.state.protocol sid)))
    {ok : Option Listing → SessionWorld → Prop} {err : PyError → SessionWorld → Prop}
    (h : ok none (asked box w mode sid)) :
    Yields box.partner w (fetchListingByMode account sid mode) ok err := by
  obtain ⟨habsent, h404⟩ := hgone
  refine fetchListingByMode_answered rfl ⟨?_, ?_, ?_, ?_⟩
  · intro l hl
    rw [sentListing_of_absent habsent] at hl
    cases hl
  · exact fun _ _ => h
  · exact fun _ hn => absurd habsent hn
  · intro _ hgone
    obtain ⟨hm, hyes⟩ := hgone habsent
    rw [h404 hm] at hyes
    cases hyes

theorem sidExpired_of_raisesExpired {lib : Library} {x : Exchange} (h : raisesExpired lib x = true) :
    sidExpired lib x = true := by
  unfold raisesExpired at h
  rw [Bool.and_eq_true] at h
  exact h.1

theorem sentListing_of_sidExpired {lib : Library} {r : Request} {a : Answer}
    (h : sidExpired lib (r, a) = true) (mode : ListingMode) : sentListing lib mode a = none := by
  rw [sidExpired, Bool.and_eq_true] at h
  cases a with
  | error e => rfl
  | ok response =>
      by_cases hs : response.status = httpStatusOk
      · have hnone : jsonBody lib (.ok response) = none := by
          have hnon := h.2
          simp only [hs, httpStatusOk, httpStatusForbidden, nonJson] at hnon
          rw [jsonBody]
          split
          · rename_i hjson
            rw [hjson.2] at hnon
            cases hb : response.body with
            | error e => rfl
            | ok content =>
                cases hl : lib.loads content with
                | error e => simp [Except.toOption, hl]
                | ok document => simp [hb, hl] at hnon
          · rfl
        rw [sentListing, hnone, Option.bind_none]
      · exact sentListing_of_status hs

/-- The SID is refused in a way that makes the session log in once more. -/
theorem fetch_expired
    (hexpired : raisesExpired account.lib
      (box.exchange w.trace (listingRequest mode w.state.protocol sid)) = true)
    {ok : Option Listing → SessionWorld → Prop} :
    Yields box.partner w (fetchListingByMode account sid mode) ok
      (fun e _ => namesInvalidSid e = true) := by
  have hblames : blames account.lib
      (box.exchange w.trace (listingRequest mode w.state.protocol sid)) = true := by
    rw [blames, hexpired, Bool.or_true, Bool.true_or]
  have hlast : Yields box.partner w (fetchListingByMode account sid mode)
      (fun result w' => result = none ∧ w'.trace = (asked box w mode sid).trace)
      (fun _ w' => w'.trace = (asked box w mode sid).trace) := by
    refine fetchListingByMode_answered rfl ⟨?_, ?_, fun _ _ _ => rfl, fun _ _ _ => rfl⟩
    · intro l hl
      rw [sentListing_of_sidExpired (sidExpired_of_raisesExpired hexpired)] at hl
      cases hl
    · exact fun _ _ => ⟨rfl, rfl⟩
  refine (hlast.and (fetchListingByMode_traced sid mode)).mono ?_ ?_
  · rintro result w' ⟨⟨hnone, ht⟩, hfound⟩
    obtain ⟨x, rest, hw, hx⟩ := hfound hnone
    rw [ht, asked] at hw
    cases hw
    rw [hblames] at hx
    cases hx
  · rintro e w' ⟨ht, x, rest, hw, hx⟩
    rw [ht, asked] at hw
    cases hw
    rw [hx, hblames]

structure Under (box : Box) (sid : String) (known : Prop) (w : SessionWorld) : Prop where
  served : box.served w.state.protocol = true
  knows : w.state.sid = some sid
  valid : box.valid w.trace sid ↔ known

theorem Under.asked {known : Prop} (hb : Healthy account box) (h : Under box sid known w)
    (mode : ListingMode) : Under box sid known (asked box w mode sid) :=
  ⟨h.served, h.knows, (valid_asked hb mode sid).trans h.valid⟩

def Listed (box : Box) (sid : String) (known : Prop) (l : Listing) (w : SessionWorld) : Prop :=
  known ∧ l = box.connections ∧ ∃ mode, Attached box w.trace w.state sid mode

def Expired (known : Prop) (e : PyError) (_ : SessionWorld) : Prop :=
  ¬known ∧ namesInvalidSid e = true

theorem fetch_under {known : Prop} (hb : Healthy account box) (hlists : box.lists mode = true)
    (h : Under box sid known w) :
    Yields box.partner w (fetchListingByMode account sid mode)
      (fun result w' => known ∧ result = some box.connections ∧ w' = HealthyBox.asked box w mode sid)
      (Expired known) := by
  by_cases hknown : known
  · exact fetch_listed hb h.served hlists (h.valid.mpr hknown) ⟨hknown, rfl, rfl⟩
  · have hvalid : ¬box.valid w.trace sid := fun hv => hknown (h.valid.mp hv)
    have hexpired := hb.expired w.trace w.state.protocol mode sid h.served hlists hvalid
    exact (fetch_expired hexpired).mono (fun _ _ hf => hf) fun _ _ he => ⟨hknown, he⟩

theorem fetch_unlisted {known : Prop} (hb : Healthy account box) (hlists : box.lists mode = false)
    (h : Under box sid known w) {ok : Option Listing → SessionWorld → Prop}
    (hok : ok none (HealthyBox.asked box w mode sid)) :
    Yields box.partner w (fetchListingByMode account sid mode) ok (Expired known) := by
  rcases hb.gone w.trace w.state.protocol mode sid h.served hlists with hgone | ⟨hvalid, hexpired⟩
  · exact fetch_gone hgone hok
  · have hknown : ¬known := fun hk => hvalid (h.valid.mpr hk)
    exact (fetch_expired hexpired).mono (fun _ _ hf => hf) fun _ _ he => ⟨hknown, he⟩

theorem probeListing_healthy {known : Prop} (hb : Healthy account box) {preferred : Option ListingMode}
    {modes : List ListingMode} (hlister : ∃ mode ∈ modes, preferred ≠ some mode ∧ box.lists mode = true)
    (h : Under box sid known w) :
    Yields box.partner w (probeListing account sid preferred modes) (Listed box sid known)
      (Expired known) := by
  induction modes generalizing w with
  | nil =>
      obtain ⟨_, hmem, -⟩ := hlister
      exact absurd hmem List.not_mem_nil
  | cons mode modes ih =>
      -- The lister is among the modes that are still to come.
      have later : preferred = some mode ∨ box.lists mode = false →
          ∃ m ∈ modes, preferred ≠ some m ∧ box.lists m = true := by
        intro hskip
        obtain ⟨m, hm, hp, hl⟩ := hlister
        rcases List.mem_cons.mp hm with rfl | hm
        · rcases hskip with hskip | hskip
          · exact absurd hskip hp
          · rw [hl] at hskip
            cases hskip
        · exact ⟨m, hm, hp, hl⟩
      rw [probeListing]
      by_cases hp : preferred = some mode
      · rw [if_pos hp]
        exact ih (later (Or.inl hp)) h
      rw [if_neg hp, yields_bind]
      cases hl : box.lists mode with
      | true =>
          refine (fetch_under hb hl h).mono ?_ fun _ _ he => he
          rintro result w' ⟨hknown, rfl, rfl⟩
          simp only [yields_bind, yields_update, yields_pure]
          exact ⟨hknown, rfl, mode, h.knows, rfl, ((h.asked hb mode).valid).mpr hknown, h.served, hl⟩
      | false =>
          apply fetch_unlisted hb hl h
          exact ih (later (Or.inr hl)) (h.asked hb mode)

theorem mem_listingProbeOrder (mode : ListingMode) : mode ∈ listingProbeOrder := by
  cases mode <;> decide

theorem fetchUnder_healthy {known : Prop} (hb : Healthy account box) (h : Under box sid known w) :
    Yields box.partner w (fetchUnder account sid) (Listed box sid known) (Expired known) := by
  obtain ⟨lister, hlister⟩ := hb.lister
  rw [fetchUnder, yields_bind, yields_read]
  cases hcached : w.state.listingMode with
  | none => exact probeListing_healthy hb ⟨lister, mem_listingProbeOrder lister,
      (Option.some_ne_none lister).symm, hlister⟩ h
  | some mode =>
      simp only [yields_bind]
      cases hl : box.lists mode with
      | true =>
          refine (fetch_under hb hl h).mono ?_ fun _ _ he => he
          rintro result w' ⟨hknown, rfl, rfl⟩
          refine yields_pure.mpr ⟨hknown, rfl, mode, h.knows, hcached, ?_, h.served, hl⟩
          exact ((h.asked hb mode).valid).mpr hknown
      | false =>
          apply fetch_unlisted hb hl h
          rw [yields_bind, yields_update]
          have hne : some mode ≠ some lister := by
            rintro hsame
            cases hsame
            rw [hl] at hlister
            cases hlister
          have hasked := h.asked hb mode
          exact probeListing_healthy hb ⟨lister, mem_listingProbeOrder lister, hne, hlister⟩
            ⟨hasked.served, hasked.knows, hasked.valid⟩

end Listing

section Fetch

variable {account : Account} {box : Box} {w : SessionWorld}

def Fetched (box : Box) (l : Listing) (w : SessionWorld) : Prop :=
  l = box.connections ∧ ∃ sid mode, Attached box w.trace w.state sid mode

theorem not_stranded_iff {s : Session.State} :
    ¬Stranded box s ↔ box.served s.protocol = true ∨ (s.sid = none ∧ s.protocol = .https) := by
  rw [Stranded]
  cases box.served s.protocol with
  | true => simp
  | false => cases s.protocol <;> simp

theorem once_without_sid (hb : Healthy account box) (hsid : w.state.sid = none)
    (hin : CanLogIn box w.state) :
    Yields box.partner w (fetchVpnConnectionsOnce account) (Fetched box) (fun _ _ => False) := by
  rw [fetchVpnConnectionsOnce_eq, yields_bind, asyncGetSession_eq, yields_bind, yields_read, hsid]
  refine (login_healthy hb hin).mono ?_ fun _ _ h => h
  intro sid w' hlogged
  have hunder : Under box sid True w' := ⟨hlogged.served, hlogged.knows, iff_true_intro hlogged.valid⟩
  refine (fetchUnder_healthy hb hunder).mono ?_ fun _ _ he => he.1 trivial
  rintro l w'' ⟨-, hl, mode, hattached⟩
  exact ⟨hl, sid, mode, hattached⟩

theorem once_healthy (hb : Healthy account box) (hin : ¬Stranded box w.state) :
    Yields box.partner w (fetchVpnConnectionsOnce account) (Fetched box)
      (fun e _ => namesInvalidSid e = true) := by
  rw [not_stranded_iff] at hin
  cases hsid : w.state.sid with
  | none =>
      refine (once_without_sid hb hsid ?_).mono (fun _ _ h => h) fun _ _ h => h.elim
      exact hin.imp_right fun h => h.2
  | some sid =>
      have hserved : box.served w.state.protocol = true := by
        rcases hin with h | ⟨h, -⟩
        · exact h
        · rw [hsid] at h
          cases h
      rw [fetchVpnConnectionsOnce_eq, yields_bind, asyncGetSession_eq, yields_bind, yields_read, hsid]
      refine yields_pure.mpr ((fetchUnder_healthy hb ⟨hserved, hsid, Iff.rfl⟩).mono ?_ ?_)
      · rintro l w' ⟨-, hl, mode, hattached⟩
        exact ⟨hl, sid, mode, hattached⟩
      · exact fun _ _ he => he.2

/-- A session that is not stranded gets the listing of a healthy box. -/
theorem asyncGetVpnConnections_healthy (hb : Healthy account box) (hin : ¬Stranded box w.state) :
    Yields box.partner w (asyncGetVpnConnections account) (Fetched box) (fun _ _ => False) := by
  rw [asyncGetVpnConnections, yields_tryCatch]
  refine (once_healthy hb hin).mono (fun _ _ h => h) ?_
  intro e w' he
  rw [namesInvalidSid] at he
  rw [if_pos he, yields_bind, yields_update]
  exact once_without_sid hb rfl (Or.inr rfl)

end Fetch

section Stranding

variable {account : Account} {box : Box} {w : SessionWorld}

def Unreached (e : PyError) (_ : SessionWorld) : Prop :=
  isAuthError e = false ∧ e.isValueError = false

theorem fetchListingByMode_unreached (hb : Healthy account box)
    (hserved : box.served w.state.protocol = false) (sid : String) (mode : ListingMode)
    {ok : Option Listing → SessionWorld → Prop} :
    Yields box.partner w (fetchListingByMode account sid mode) ok Unreached := by
  have caught : ∀ (e : PyError) (w' : SessionWorld), e.isOSError = true →
      isAuthError (cannotConnect account e) = false →
      Yields box.partner w' (handleListingError account e) ok Unreached := by
    intro e w' hos hauth
    rw [handleListingError, isTransport_eq, if_pos hos, raiseTransportError, yields_bind, yields_update,
      yields_throw]
    exact ⟨hauth, rfl⟩
  cases mode with
  | rest =>
      obtain ⟨e, ha, hos, hauth⟩ := hb.refused w.trace (.restVpn w.state.protocol sid) hserved
      rw [fetchListingByMode, fetchVpnConnectionsViaRest, yields_bind, yields_read, yields_tryCatch,
        yields_bind, send_answered, ha]
      exact caught e.val _ hos hauth
  | dataLua =>
      obtain ⟨e, ha, hos, hauth⟩ := hb.refused w.trace (.dataLua w.state.protocol sid) hserved
      rw [fetchListingByMode, fetchVpnConnectionsViaDataLua, yields_bind, yields_read, yields_tryCatch,
        yields_bind, send_answered, ha]
      exact caught e.val _ hos hauth

theorem fetchUnder_unreached (hb : Healthy account box) (hserved : box.served w.state.protocol = false)
    (sid : String) : Yields box.partner w (fetchUnder account sid) (fun _ _ => False) Unreached := by
  rw [fetchUnder, yields_bind, yields_read]
  cases w.state.listingMode with
  | none =>
      simp only [listingProbeOrder, probeListing]
      rw [if_neg (Option.some_ne_none _).symm, yields_bind]
      exact fetchListingByMode_unreached hb hserved sid .dataLua
  | some mode =>
      simp only [yields_bind]
      exact fetchListingByMode_unreached hb hserved sid mode

theorem login_unreached (hb : Healthy account box) (hserved : box.served w.state.protocol = false)
    (hhttp : w.state.protocol = .http) :
    Yields box.partner w (login account) (fun _ _ => False) Unreached := by
  obtain ⟨e, ha, hos, hauth⟩ := hb.refused w.trace (.loginPage w.state.protocol true) hserved
  have hnot : w.state.protocol ≠ .https := by
    rw [hhttp]
    decide
  have hvalue : ¬(cannotConnect account e.val).isValueError = true := Bool.false_ne_true
  rw [login, yields_bind, pbkdf2OrNone, yields_tryCatch]
  change Yields _ _ (fetchLoginPage account true >>= pbkdf2With account) _ _
  rw [yields_bind, fetchLoginPage, yields_bind, yields_read, yields_tryCatch, yields_bind, send_answered, ha]
  simp only
  rw [handleLoginPageError, yields_bind, yields_read, isTransport_eq, if_pos hos, if_pos hnot,
    yields_throw, if_neg hvalue, yields_throw]
  exact ⟨hauth, rfl⟩

theorem asyncGetVpnConnections_stranded (hb : Healthy account box) (h : Stranded box w.state) :
    Yields box.partner w (asyncGetVpnConnections account) (fun _ _ => False) Unreached := by
  obtain ⟨hserved, hcase⟩ := h
  have honce : Yields box.partner w (fetchVpnConnectionsOnce account) (fun _ _ => False) Unreached := by
    rw [fetchVpnConnectionsOnce_eq, yields_bind, asyncGetSession_eq, yields_bind, yields_read]
    cases hsid : w.state.sid with
    | some sid => exact yields_pure.mpr (fetchUnder_unreached hb hserved sid)
    | none =>
        have hhttp := hcase.resolve_left (not_not.mpr hsid)
        exact (login_unreached hb hserved hhttp).mono (fun _ _ hf => hf.elim) fun _ _ he => he
  rw [asyncGetVpnConnections, yields_tryCatch]
  refine honce.mono (fun _ _ hf => hf) ?_
  rintro e w' ⟨hauth, hvalue⟩
  rw [hvalue, Bool.false_and, if_neg (by decide), yields_throw]
  exact ⟨hauth, hvalue⟩

end Stranding

def loginPageText : String :=
  "<SessionInfo><SID>0000000000000000</SID><Challenge>1234567z</Challenge></SessionInfo>"

def loggedInText : String := "<SessionInfo><SID>0123456789abcdef</SID></SessionInfo>"

def restAnswer : Answer := .ok ⟨200, "application/json", .ok restText⟩

def forbidden : Answer := .ok ⟨403, "text/html", .ok "Forbidden"⟩

def refusedError : TransportError :=
  ⟨clientConnectorError "Cannot connect to host fritz.box:80 ssl:default [refused]", rfl⟩

def runningBox : Box where
  partner _ r :=
    if protocolOf r = .http then
      .error refusedError
    else
      match r with
      | .loginPage _ _ | .loginPageHttp _ => .ok ⟨200, "text/xml", .ok loginPageText⟩
      | .login _ _ _ _ => .ok ⟨200, "text/xml", .ok loggedInText⟩
      | .restVpn _ sid => if sid = "0123456789abcdef" then restAnswer else forbidden
      | .dataLua _ sid => if sid = "0123456789abcdef" then emptyPage else forbidden
      | .put _ _ _ _ => forbidden
  served protocol := protocol = .https
  lists mode := mode = .rest
  valid _ sid := sid = "0123456789abcdef"
  connections := (sentListing jsonLibrary .rest restAnswer).getD OrderedDict.Dict.empty

theorem runningBox_texts :
    ((rightResponse jsonAccount false loginPageText).isSome = true ∧
      rightResponse jsonAccount true loginPageText = none) ∧
    validSid jsonLibrary loggedInText = some "0123456789abcdef" ∧
      authText "fritz.box" = false ∧ isAuthError refusedError.val = false ∧
      parseChallengeFromLoginXml jsonLibrary.parseXml loginPageText = some "1234567z" ∧
      startsWith "2$" "1234567z" = false := by
  decide +kernel

theorem runningBox_page {trace : List Exchange} {version2 : Bool} {r : Request}
    (h : runningBox.Page version2 r) :
    runningBox.partner trace r = .ok ⟨200, "text/xml", .ok loginPageText⟩ := by
  have hhttps : protocolOf r ≠ .http := by
    intro hhttp
    have hserved := h.served
    rw [hhttp] at hserved
    cases hserved
  have hpage := h.page
  cases r with
  | loginPage protocol v => exact if_neg hhttps
  | loginPageHttp v => exact absurd rfl hhttps
  | login | restVpn | dataLua | put => cases hpage

theorem runningBox_refuses {trace : List Exchange} {sid : String} (h : ¬sid = "0123456789abcdef")
    (mode : ListingMode) :
    raisesExpired jsonLibrary (runningBox.exchange trace (listingRequest mode .https sid)) = true := by
  have hanswer : runningBox.partner trace (listingRequest mode .https sid) = forbidden := by
    cases mode <;> exact if_neg h
  rw [Box.exchange, hanswer]
  cases mode <;> rfl

theorem runningBox_healthy : Healthy jsonAccount runningBox := by
  obtain ⟨⟨hmd5, hpbkdf2⟩, hsid, hhost, herror, hchallenge, hold⟩ := runningBox_texts
  have page_text : ∀ {trace version2 r content}, runningBox.Page version2 r →
      pageText (runningBox.partner trace r) = some content → content = loginPageText := by
    intro trace version2 r content h htext
    rw [runningBox_page h] at htext
    exact (Option.some.inj htext).symm
  have https_of_served : ∀ {protocol}, runningBox.served protocol = true → protocol = .https :=
    fun h => of_decide_eq_true h
  have http_of_not_served : ∀ {protocol}, runningBox.served protocol = false → protocol = .http := by
    intro protocol h
    cases protocol with
    | http => rfl
    | https => cases h
  refine ⟨fun _ => rfl, ⟨.https, rfl⟩, ?_, ?_, ?_, ?_, ?_, ⟨.rest, rfl⟩, ?_, ?_, ?_⟩
  · intro trace r hserved
    refine ⟨refusedError, if_pos (http_of_not_served hserved), rfl, ?_⟩
    rw [isAuthError_cannotConnect, herror, Bool.or_false]
    exact hhost
  · intro trace version2 r h
    refine ⟨loginPageText, by rw [runningBox_page h]; rfl, ?_⟩
    intro challenge e hc h2
    rw [jsonAccount] at hc
    rw [hchallenge] at hc
    cases hc
    rw [hold] at h2
    cases h2
  · refine ⟨false, fun trace r content h htext => ?_⟩
    rw [page_text h htext]
    exact hmd5
  · intro trace version2 r content response h _ _
    have hhttps := https_of_served h.served
    refine ⟨loggedInText, _, ?_, hsid, rfl⟩
    rw [hhttps]
    rfl
  · exact fun trace r sid _ => Iff.rfl
  · intro trace protocol mode sid hserved hlists hvalid
    rw [https_of_served hserved, of_decide_eq_true hlists]
    obtain ⟨l, hl⟩ := Option.isSome_iff_exists.mp (restBox_sends restAnswer)
    have hrest : sentListing jsonLibrary .rest restAnswer = some l := hl
    have hsent : runningBox.partner trace (listingRequest .rest .https sid) = restAnswer :=
      if_pos hvalid
    have hconnections : runningBox.connections = l := congrArg (Option.getD · _) hrest
    rw [hsent, hconnections]
    exact hrest
  · intro trace protocol mode sid hserved hlists
    rw [https_of_served hserved]
    cases mode with
    | rest => cases hlists
    | dataLua =>
        by_cases hvalid : sid = "0123456789abcdef"
        · left
          rw [hvalid]
          exact ⟨Or.inr ⟨.obj [], jsonBody_emptyPage, rfl⟩, fun _ => rfl⟩
        · exact Or.inr ⟨hvalid, runningBox_refuses hvalid .dataLua⟩
  · intro trace protocol mode sid hserved _ hvalid
    rw [https_of_served hserved]
    exact runningBox_refuses hvalid mode

end FritzboxVpn.HealthyBox
