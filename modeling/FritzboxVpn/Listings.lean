import FritzboxVpn.FetchErrors

namespace FritzboxVpn.Listings

open Constants Exceptions FetchErrors Interaction Interaction.Program JsonValue OrderedDict Parsing
  Session

abbrev Listing : Type := Dict String Json

def listingRequest (mode : ListingMode) (protocol : Protocol) (sid : String) : Request :=
  match mode with
  | .rest => .restVpn protocol sid
  | .dataLua => .dataLua protocol sid

def jsonBody (lib : Library) : Answer → Option Json
  | .error _ => none
  | .ok response =>
      if response.status = httpStatusOk ∧ isJson response then
        response.body.toOption.bind fun content => (lib.loads content).toOption
      else none

def connectionList (lib : Library) (mode : ListingMode) (document : Json) :
    Except PyError (Option Listing) :=
  match asDict document with
  | none => .ok none
  | some data =>
      match mode with
      | .rest => restConnections lib data
      | .dataLua => .ok (dataLuaConnections lib data)

def sentListing (lib : Library) (mode : ListingMode) (a : Answer) : Option Listing :=
  (jsonBody lib a).bind fun document => (connectionList lib mode document).toOption.join

def notFound : Answer → Bool
  | .ok response => response.status == httpStatusNotFound
  | .error _ => false

def Absent (lib : Library) (mode : ListingMode) (a : Answer) : Prop :=
  notFound a = true ∨ ∃ document, jsonBody lib a = some document ∧
    connectionList lib mode document = .ok none

def modeOf : Request → Option ListingMode
  | .restVpn _ _ => some .rest
  | .dataLua _ _ => some .dataLua
  | _ => none

def listingOf (lib : Library) (x : Exchange) : Option Listing :=
  (modeOf x.1).bind fun mode => sentListing lib mode x.2

@[simp]
theorem modeOf_listingRequest (mode : ListingMode) (protocol : Protocol) (sid : String) :
    modeOf (listingRequest mode protocol sid) = some mode := by
  cases mode <;> rfl

@[simp]
theorem listingOf_listingRequest (lib : Library) (mode : ListingMode) (protocol : Protocol)
    (sid : String) (a : Answer) :
    listingOf lib (listingRequest mode protocol sid, a) = sentListing lib mode a := by
  rw [listingOf, modeOf_listingRequest, Option.bind_some]

@[simp]
theorem invalidateSession_idem (s : Session.State) :
    invalidateSession (invalidateSession s) = invalidateSession s := rfl

section Answers

variable {lib : Library} {mode : ListingMode} {response : Response}

theorem jsonBody_of_status (h : response.status ≠ httpStatusOk) :
    jsonBody lib (.ok response) = none :=
  if_neg fun hs => h hs.1

theorem sentListing_of_status (h : response.status ≠ httpStatusOk) :
    sentListing lib mode (.ok response) = none := by
  rw [sentListing, jsonBody_of_status h, Option.bind_none]

theorem not_absent_of_status (h404 : response.status ≠ httpStatusNotFound)
    (h : response.status ≠ httpStatusOk) : ¬Absent lib mode (.ok response) := by
  rintro (hn | ⟨document, hd, _⟩)
  · exact h404 (beq_iff_eq.mp hn)
  · rw [jsonBody_of_status h] at hd
    cases hd

theorem sentListing_of_jsonBody (mode : ListingMode) {document : Json} {a : Answer}
    (h : jsonBody lib a = some document) :
    sentListing lib mode a = (connectionList lib mode document).toOption.join := by
  rw [sentListing, h, Option.bind_some]

end Answers

section Fetches

variable {account : Account} {partner : Partner Request Answer} {w : SessionWorld}

theorem responseJsonDict_answered {response : Response} {requireJson : Bool}
    {ok : Option (Dict String Json) → SessionWorld → Prop} {err : PyError → SessionWorld → Prop}
    (hs : response.status = httpStatusOk)
    (hsome : ∀ document, jsonBody account.lib (.ok response) = some document → ok (asDict document) w)
    (hnone : jsonBody account.lib (.ok response) = none → ok none w)
    (herr : jsonBody account.lib (.ok response) = none → ∀ e, err e w) :
    Yields partner w (responseJsonDict account.lib response requireJson) ok err := by
  have missing : jsonBody account.lib (.ok response) = none →
      Yields partner w (missingJson requireJson) ok err := by
    intro hn
    rw [missingJson]
    cases requireJson with
    | false => exact yields_pure.mpr (hnone hn)
    | true => exact yields_throw.mpr (herr hn _)
  rw [responseJsonDict]
  by_cases hj : isJson response = false
  · rw [if_pos hj]
    exact missing (if_neg fun h => absurd h.2 (by rw [hj]; decide))
  rw [if_neg hj, yields_tryCatch, yields_bind]
  have hbody : jsonBody account.lib (.ok response) =
      response.body.toOption.bind fun content => (account.lib.loads content).toOption :=
    if_pos ⟨hs, Bool.not_eq_false _ ▸ hj⟩
  have caught : jsonBody account.lib (.ok response) = none → ∀ e, Yields partner w
      (if e.isJSONDecodeError then missingJson requireJson else throw e) ok err := by
    intro hn e
    by_cases hd : e.isJSONDecodeError = true
    · rw [if_pos hd]
      exact missing hn
    · rw [if_neg hd, yields_throw]
      exact herr hn e
  apply readText_yields
  · intro content hb
    rw [hb] at hbody
    rw [yields_bind, yields_ended]
    cases hl : account.lib.loads content with
    | ok document =>
        refine yields_pure.mpr (hsome document ?_)
        rw [hbody]
        exact congrArg Except.toOption hl
    | error e =>
        refine caught ?_ e
        rw [hbody]
        exact congrArg Except.toOption hl
  · intro e hb
    apply caught
    rw [hbody, hb]
    rfl

theorem handleListingError_answered {s : Session.State} {rest : List Exchange} {e : PyError}
    {β : Type} {ok : β → SessionWorld → Prop} {err : PyError → SessionWorld → Prop}
    (hkept : ∀ e, err e ⟨s, rest⟩) (hinvalid : ∀ e, err e ⟨invalidateSession s, rest⟩) :
    Yields partner ⟨s, rest⟩ (handleListingError account e) ok err := by
  rw [handleListingError]
  by_cases ht : isTransport e = true
  · rw [if_pos ht, raiseTransportError, yields_bind, yields_update, yields_throw]
    exact hinvalid _
  · rw [if_neg ht, yields_throw]
    exact hkept e

theorem sentListing_normalized {lib : Library} {mode : ListingMode} {a : Answer} {l : Listing}
    (h : sentListing lib mode a = some l) : Normalized l := by
  obtain ⟨document, _, hc⟩ := Option.bind_eq_some_iff.mp h
  rw [connectionList] at hc
  split at hc
  · cases hc
  · rename_i data _
    cases mode with
    | rest =>
        simp only [restConnections] at hc
        cases hx : extractWireguardConnectionsFromRest lib.repr data with
        | error e => rw [hx] at hc; cases hc
        | ok box =>
            rw [hx] at hc
            obtain ⟨items, _, rfl⟩ := Option.map_eq_some_iff.mp hc
            exact normalizeBoxConnections_normalized _ _
    | dataLua =>
        obtain ⟨box, _, rfl⟩ := Option.map_eq_some_iff.mp hc
        exact normalizeBoxConnections_normalized _ _

theorem listingOf_normalized {lib : Library} {x : Exchange} {l : Listing}
    (h : listingOf lib x = some l) : Normalized l := by
  obtain ⟨mode, _, hs⟩ := Option.bind_eq_some_iff.mp h
  exact sentListing_normalized hs

structure ListingEnds (lib : Library) (mode : ListingMode) (s : Session.State) (r : Request)
    (a : Answer) (rest : List Exchange) (ok : Option Listing → SessionWorld → Prop)
    (err : PyError → SessionWorld → Prop) : Prop where
  sent : ∀ l, sentListing lib mode a = some l → ok (some l) ⟨s, (r, a) :: rest⟩
  nothing : sentListing lib mode a = none → (mode = .dataLua → notFound a = false) →
    ok none ⟨s, (r, a) :: rest⟩
  kept : sentListing lib mode a = none → ¬Absent lib mode a →
    ∀ e, err e ⟨s, (r, a) :: rest⟩
  invalid : sentListing lib mode a = none →
    (Absent lib mode a → mode = .dataLua ∧ notFound a = true) →
    ∀ e, err e ⟨invalidateSession s, (r, a) :: rest⟩

theorem validateVpnListingStatus_answered {response : Response} {source : String}
    {ok : Unit → SessionWorld → Prop} {err : PyError → SessionWorld → Prop}
    (hok : response.status = httpStatusOk → ok () w)
    (h403 : response.status = httpStatusForbidden → ∀ e, err e w)
    (herr : response.status ≠ httpStatusOk → ∀ e : PyError, e.isOSError = true →
      err e { w with state := invalidateSession w.state }) :
    Yields partner w (validateVpnListingStatus response source) ok err := by
  rw [validateVpnListingStatus]
  by_cases hforbidden : response.status = httpStatusForbidden
  · rw [if_pos hforbidden, yields_throw]
    exact h403 hforbidden _
  rw [if_neg hforbidden]
  by_cases hs : response.status = httpStatusOk
  · rw [if_neg (not_not.mpr hs), yields_pure]
    exact hok hs
  · rw [if_pos hs, yields_bind, yields_update, yields_throw]
    exact herr hs _ rfl

section Endpoint

variable {mode : ListingMode} {s : Session.State} {r : Request} {a : Answer} {rest : List Exchange}
  {ok : Option Listing → SessionWorld → Prop} {err : PyError → SessionWorld → Prop}

theorem ListingEnds.caught (h : ListingEnds account.lib mode s r a rest ok err)
    (hn : sentListing account.lib mode a = none) (habsent : ¬Absent account.lib mode a) (e : PyError) :
    Yields partner ⟨s, (r, a) :: rest⟩ (handleListingError account e) ok err :=
  handleListingError_answered (h.kept hn habsent) (h.invalid hn fun hyes => absurd hyes habsent)

theorem ListingEnds.transport {e : TransportError}
    (h : ListingEnds account.lib mode s r (.error e) rest ok err) :
    Yields partner ⟨s, (r, .error e) :: rest⟩ (handleListingError account e.val) ok err := by
  apply h.caught rfl
  rintro (hn | ⟨document, hd, _⟩)
  · cases hn
  · cases hd

theorem ListingEnds.refused {response : Response}
    (h : ListingEnds account.lib mode s r (.ok response) rest ok err)
    (hs : response.status ≠ httpStatusOk)
    (hmode : response.status = httpStatusNotFound → mode = .dataLua) {e : PyError}
    (hos : e.isOSError = true) :
    Yields partner ⟨invalidateSession s, (r, .ok response) :: rest⟩ (handleListingError account e)
      ok err := by
  rw [handleListingError, isTransport_eq, if_pos hos, raiseTransportError, yields_bind, yields_update,
    yields_throw]
  apply h.invalid (sentListing_of_status hs)
  intro habsent
  by_cases h404 : response.status = httpStatusNotFound
  · exact ⟨hmode h404, beq_iff_eq.mpr h404⟩
  · exact absurd habsent (not_absent_of_status h404 hs)

/-- The document of an answer with status 200 decides how the request ends. -/
theorem ListingEnds.document {response : Response} {requireJson : Bool}
    {found : Option (Dict String Json) → SessionM (Option Listing)}
    (h : ListingEnds account.lib mode s r (.ok response) rest ok err)
    (hs : response.status = httpStatusOk)
    (hfound : ∀ document, found (asDict document) = ended (connectionList account.lib mode document))
    (hmissing : found none = pure none) :
    Yields partner ⟨s, (r, .ok response) :: rest⟩
      (responseJsonDict account.lib response requireJson >>= found) ok
      (fun e w' => Yields partner w' (handleListingError account e) ok err) := by
  have h404 : notFound (.ok response) = false := by
    rw [notFound, hs]
    decide
  have absent_iff : Absent account.lib mode (.ok response) ↔
      ∃ document, jsonBody account.lib (.ok response) = some document ∧
        connectionList account.lib mode document = .ok none := by
    rw [Absent, h404]
    simp only [Bool.false_eq_true, false_or]
  rw [yields_bind]
  refine responseJsonDict_answered hs ?_ ?_ ?_
  · intro document hd
    have hsent := sentListing_of_jsonBody mode hd
    rw [hfound, yields_ended]
    cases hc : connectionList account.lib mode document with
    | ok result =>
        rw [hc] at hsent
        cases result with
        | some l => exact h.sent l hsent
        | none => exact h.nothing hsent fun _ => h404
    | error e =>
        rw [hc] at hsent
        refine h.caught hsent ?_ e
        rw [absent_iff]
        rintro ⟨document', hd', hnone⟩
        rw [hd] at hd'
        cases hd'
        rw [hc] at hnone
        cases hnone
  · intro hn
    rw [hmissing, yields_pure]
    exact h.nothing (by rw [sentListing, hn, Option.bind_none]) fun _ => h404
  · intro hn e
    refine h.caught (by rw [sentListing, hn, Option.bind_none]) ?_ e
    rw [absent_iff]
    rintro ⟨document, hd, _⟩
    rw [hn] at hd
    cases hd

end Endpoint

/-- A listing request ends as its answer says. -/
theorem fetchListingByMode_answered {sid : String} {mode : ListingMode} {a : Answer}
    {ok : Option Listing → SessionWorld → Prop} {err : PyError → SessionWorld → Prop}
    (ha : partner w.trace (listingRequest mode w.state.protocol sid) = a)
    (h : ListingEnds account.lib mode w.state (listingRequest mode w.state.protocol sid) a w.trace
      ok err) :
    Yields partner w (fetchListingByMode account sid mode) ok err := by
  have forbidden : ∀ response : Response, response.status = httpStatusForbidden →
      response.status ≠ httpStatusOk ∧ response.status ≠ httpStatusNotFound := by
    intro response hs
    rw [hs]
    decide
  cases mode with
  | rest =>
      rw [listingRequest] at ha h
      rw [fetchListingByMode, fetchVpnConnectionsViaRest, yields_bind, yields_read, yields_tryCatch,
        yields_bind, send_answered, ha]
      cases a with
      | error e => exact h.transport
      | ok response =>
          by_cases h404 : response.status = httpStatusNotFound
          · simp only [if_pos h404, yields_pure]
            have hs : response.status ≠ httpStatusOk := by
              rw [h404]
              decide
            exact h.nothing (sentListing_of_status hs) fun hm => by cases hm
          · simp only [if_neg h404]
            rw [yields_bind]
            refine validateVpnListingStatus_answered ?_ ?_ ?_
            · intro hs
              refine h.document hs (fun document => ?_) rfl
              rw [connectionList]
              cases asDict document <;> rfl
            · intro hs e
              obtain ⟨hok, hnf⟩ := forbidden response hs
              exact h.caught (sentListing_of_status hok) (not_absent_of_status hnf hok) e
            · intro hs e hos
              exact h.refused hs (fun hnf => absurd hnf h404) hos
  | dataLua =>
      rw [listingRequest] at ha h
      rw [fetchListingByMode, fetchVpnConnectionsViaDataLua, yields_bind, yields_read, yields_tryCatch,
        yields_bind, send_answered, ha]
      cases a with
      | error e => exact h.transport
      | ok response =>
          dsimp only
          rw [yields_bind]
          refine validateVpnListingStatus_answered ?_ ?_ ?_
          · intro hs
            refine h.document hs (fun document => ?_) rfl
            rw [connectionList]
            cases asDict document <;> rfl
          · intro hs e
            obtain ⟨hok, hnf⟩ := forbidden response hs
            exact h.caught (sentListing_of_status hok) (not_absent_of_status hnf hok) e
          · intro hs e hos
            exact h.refused hs (fun _ => rfl) hos

def FetchedLast (lib : Library) (l : Listing) (w : SessionWorld) : Prop :=
  ∃ x rest, w.trace = x :: rest ∧ listingOf lib x = some l

theorem fetchListingByMode_fetches (sid : String) (mode : ListingMode) :
    Yields partner w (fetchListingByMode account sid mode)
      (fun result w' => ∀ l, result = some l → FetchedLast account.lib l w') (fun _ _ => True) := by
  refine fetchListingByMode_answered rfl ⟨?_, ?_, fun _ _ _ => trivial, fun _ _ _ => trivial⟩
  · intro l hs _ hl
    cases hl
    exact ⟨_, _, rfl, by rw [listingOf_listingRequest, hs]⟩
  · rintro _ _ l hl
    cases hl

theorem probeListing_fetches (sid : String) (preferred : Option ListingMode)
    (modes : List ListingMode) :
    Yields partner w (probeListing account sid preferred modes) (FetchedLast account.lib)
      (fun _ _ => True) := by
  induction modes generalizing w with
  | nil =>
      rw [probeListing, yields_bind, yields_update, yields_throw]
      trivial
  | cons mode modes ih =>
      rw [probeListing]
      by_cases hp : preferred = some mode
      · rw [if_pos hp]
        exact ih
      · rw [if_neg hp, yields_bind]
        refine (fetchListingByMode_fetches sid mode).mono ?_ fun _ _ _ => trivial
        intro result w' hresult
        cases result with
        | some l =>
            simp only [yields_bind, yields_update, yields_pure]
            exact hresult l rfl
        | none => exact ih

end Fetches

end FritzboxVpn.Listings
