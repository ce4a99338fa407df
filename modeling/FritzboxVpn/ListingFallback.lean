import FritzboxVpn.FailedPolls
import FritzboxVpn.Listings
import FritzboxVpn.Runs

namespace FritzboxVpn.ListingFallback

open Constants Exceptions FailedPolls FetchErrors Interaction Interaction.Program JsonValue Listings
  OrderedDict Runs Session

structure Call where
  sid : String
  protocol : Protocol
  answer : ListingMode → Answer

structure Outcome where
  result : Except PyError Listing
  exchanges : List Exchange

def boxOf (c : Call) : Partner Request Answer := fun _ r =>
  match modeOf r with
  | some mode => c.answer mode
  | none => .error ⟨connectionError "not asked", rfl⟩

def underSid (s : Session.State) (c : Call) : Session.State :=
  { s with sid := some c.sid, protocol := c.protocol }

def call (account : Account) (s : Session.State) (c : Call) : Outcome × Session.State :=
  let ended := fetchVpnConnectionsOnce account (boxOf c) ⟨underSid s c, []⟩
  (⟨ended.1, ended.2.trace⟩, ended.2.state)

def machine (account : Account) (mode : Option ListingMode) : Machine Session.State Call Outcome where
  init := { listingMode := mode }
  step := call account

abbrev CallRecord : Type := Record Session.State Call Outcome

def Sends (lib : Library) (c : Call) (mode : ListingMode) : Prop :=
  (sentListing lib mode (c.answer mode)).isSome = true

def WellAnswered (lib : Library) (c : Call) : Prop :=
  ∀ mode, Sends lib c mode ∨ Absent lib mode (c.answer mode)

structure FallsBack (lib : Library) (r : CallRecord) : Prop where
  serves : (∃ mode, Sends lib r.input mode) → ∃ mode l, r.output.result = .ok l ∧
    sentListing lib mode (r.input.answer mode) = some l ∧
    (∃ x ∈ r.output.exchanges, modeOf x.1 = some mode ∧ x.2 = r.input.answer mode) ∧
    r.after.listingMode = some mode
  once : ∀ mode, (r.output.exchanges.filter fun x => modeOf x.1 = some mode).length ≤ 1
  raises : (∀ mode, Absent lib mode (r.input.answer mode)) →
    ∃ e, r.output.result = .error e ∧ r.after.sid = none ∧ r.after.listingMode = none

/-- data.lua is gone and REST would have served the call, but it is not the
cached mode. -/
def Unserved (lib : Library) (cached : Option ListingMode) (c : Call) : Prop :=
  notFound (c.answer .dataLua) = true ∧ Sends lib c .rest ∧ cached ≠ some .rest

def ask (c : Call) (mode : ListingMode) : Exchange :=
  (listingRequest mode c.protocol c.sid, c.answer mode)

section Ends

variable {lib : Library} {c : Call} {s after : Session.State} {modes : List ListingMode}
  {mode : ListingMode} {l : Listing} {e : PyError}

theorem asked_once (hn : modes.Nodup) (mode : ListingMode) :
    ((modes.map (ask c)).filter fun x => modeOf x.1 = some mode).length ≤ 1 := by
  have hfilter : (modes.map (ask c)).filter (fun x => modeOf x.1 = some mode) =
      (modes.filter (· = mode)).map (ask c) := by
    rw [List.filter_map]
    congr 1
    apply List.filter_congr
    intro m _
    simp [ask]
  rw [hfilter, List.length_map, ← List.countP_eq_length_filter]
  exact List.nodup_iff_count_le_one.mp hn mode

theorem fallsBack_of_served (hn : modes.Nodup) (hmem : mode ∈ modes)
    (hsent : sentListing lib mode (c.answer mode) = some l) (hmode : after.listingMode = some mode)
    (habsent : ¬Absent lib mode (c.answer mode)) :
    FallsBack lib ⟨s, c, ⟨.ok l, modes.map (ask c)⟩, after⟩ where
  serves := fun _ => ⟨mode, l, rfl, hsent,
    ⟨ask c mode, List.mem_map_of_mem hmem, modeOf_listingRequest _ _ _, rfl⟩, hmode⟩
  once := asked_once hn
  raises := fun hall => absurd (hall mode) habsent

theorem fallsBack_of_refused (hn : modes.Nodup) (hsid : after.sid = none)
    (hmode : after.listingMode = none) (hno : ¬∃ mode, Sends lib c mode) :
    FallsBack lib ⟨s, c, ⟨.error e, modes.map (ask c)⟩, after⟩ where
  serves := fun hyes => absurd hyes hno
  once := asked_once hn
  raises := fun _ => ⟨e, rfl, hsid, hmode⟩

theorem not_fallsBack_of_refused {exchanges : List Exchange} (hyes : ∃ mode, Sends lib c mode) :
    ¬FallsBack lib ⟨s, c, ⟨.error e, exchanges⟩, after⟩ := by
  intro h
  obtain ⟨_, _, hok, _⟩ := h.serves hyes
  cases hok

end Ends

section Calls

variable {account : Account} {c : Call} {w : SessionWorld} {sid : String} {mode : ListingMode}

theorem sentListing_of_absent {lib : Library} {a : Answer} (h : Absent lib mode a) :
    sentListing lib mode a = none := by
  rcases h with hn | ⟨document, hd, hc⟩
  · cases a with
    | error e => rfl
    | ok response =>
        apply sentListing_of_status
        rw [beq_iff_eq.mp hn]
        decide
  · rw [sentListing_of_jsonBody mode hd, hc]
    rfl

theorem boxOf_listingRequest (trace : List Exchange) (protocol : Protocol) :
    boxOf c trace (listingRequest mode protocol sid) = c.answer mode := by
  rw [boxOf, modeOf_listingRequest]

variable {ok : Option Listing → SessionWorld → Prop} {err : PyError → SessionWorld → Prop}

theorem fetch_sent {l : Listing} (hs : sentListing account.lib mode (c.answer mode) = some l)
    (h : ok (some l) ⟨w.state, (listingRequest mode w.state.protocol sid, c.answer mode) :: w.trace⟩) :
    Yields (boxOf c) w (fetchListingByMode account sid mode) ok err := by
  refine fetchListingByMode_answered (boxOf_listingRequest _ _) ⟨?_, ?_, ?_, ?_⟩
  · intro l' hs'
    rw [hs] at hs'
    cases hs'
    exact h
  all_goals
    intro hnone
    rw [hs] at hnone
    cases hnone

theorem fetch_absent (ha : Absent account.lib mode (c.answer mode))
    (h404 : mode = .dataLua → notFound (c.answer mode) = false)
    (h : ok none ⟨w.state, (listingRequest mode w.state.protocol sid, c.answer mode) :: w.trace⟩) :
    Yields (boxOf c) w (fetchListingByMode account sid mode) ok err := by
  refine fetchListingByMode_answered (boxOf_listingRequest _ _) ⟨?_, ?_, ?_, ?_⟩
  · intro l hs
    rw [sentListing_of_absent ha] at hs
    cases hs
  · exact fun _ _ => h
  · exact fun _ hn => absurd ha hn
  · intro _ hgone
    obtain ⟨hm, hyes⟩ := hgone ha
    rw [h404 hm] at hyes
    cases hyes

theorem fetch_gone (hgone : notFound (c.answer .dataLua) = true)
    (h : ∀ e, err e ⟨invalidateSession w.state,
      (listingRequest .dataLua w.state.protocol sid, c.answer .dataLua) :: w.trace⟩) :
    Yields (boxOf c) w (fetchListingByMode account sid .dataLua) ok err := by
  have ha : Absent account.lib .dataLua (c.answer .dataLua) := Or.inl hgone
  refine fetchListingByMode_answered (boxOf_listingRequest _ _) ⟨?_, ?_, ?_, ?_⟩
  · intro l hs
    rw [sentListing_of_absent ha] at hs
    cases hs
  · intro _ hno
    rw [hno rfl] at hgone
    cases hgone
  · exact fun _ hn => absurd ha hn
  · exact fun _ _ => h

end Calls

def Settled (lib : Library) (s : Session.State) (c : Call) (result : Except PyError Listing)
    (w : SessionWorld) : Prop :=
  FallsBack lib ⟨s, c, ⟨result, w.trace⟩, w.state⟩ ↔ ¬Unserved lib s.listingMode c

section Settling

variable {account : Account} {c : Call} {s after : Session.State} {mode : ListingMode}
  {preferred : Option ListingMode}

theorem settled_of_served (modes : List ListingMode) {l : Listing} (hn : modes.Nodup) (hmem : mode ∈ modes)
    (hs : sentListing account.lib mode (c.answer mode) = some l)
    (hmode : after.listingMode = some mode) (hno : ¬Unserved account.lib s.listingMode c) :
    Settled account.lib s c (.ok l) ⟨after, modes.map (ask c)⟩ := by
  refine iff_of_true (fallsBack_of_served hn hmem hs hmode fun ha => ?_) hno
  rw [sentListing_of_absent ha] at hs
  cases hs

theorem settled_of_refused (modes : List ListingMode) {e : PyError} (hn : modes.Nodup)
    (hiff : (∃ mode, Sends account.lib c mode) ↔ Unserved account.lib s.listingMode c) :
    Settled account.lib s c (.error e) ⟨invalidateSession after, modes.map (ask c)⟩ := by
  rw [Settled, ← hiff]
  by_cases hyes : ∃ mode, Sends account.lib c mode
  · exact iff_of_false (not_fallsBack_of_refused hyes) (not_not.mpr hyes)
  · exact iff_of_true (fallsBack_of_refused hn rfl rfl hyes) hyes

theorem not_sends_of_absent {lib : Library} (ha : Absent lib mode (c.answer mode)) :
    ¬Sends lib c mode := by
  rw [Sends, sentListing_of_absent ha]
  decide

theorem refused_of_both_absent (h : ∀ mode, Absent account.lib mode (c.answer mode)) :
    (∃ mode, Sends account.lib c mode) ↔ Unserved account.lib s.listingMode c := by
  constructor
  · rintro ⟨mode, hs⟩
    exact absurd hs (not_sends_of_absent (h mode))
  · rintro ⟨_, hs, _⟩
    exact absurd hs (not_sends_of_absent (h .rest))

/-- What the code does with data.lua gone, where it asks data.lua first. -/
theorem refused_of_gone (hgone : notFound (c.answer .dataLua) = true)
    (hmode : s.listingMode ≠ some .rest) :
    (∃ mode, Sends account.lib c mode) ↔ Unserved account.lib s.listingMode c := by
  constructor
  · rintro ⟨mode, hs⟩
    cases mode with
    | rest => exact ⟨hgone, hs, hmode⟩
    | dataLua => exact absurd hs (not_sends_of_absent (Or.inl hgone))
  · rintro ⟨_, hs, _⟩
    exact ⟨.rest, hs⟩

theorem absent_all {lib : Library} (hr : Absent lib .rest (c.answer .rest))
    (hd : Absent lib .dataLua (c.answer .dataLua)) : ∀ mode, Absent lib mode (c.answer mode)
  | .rest => hr
  | .dataLua => hd

theorem probe_end (modes : List ListingMode) {w : SessionWorld} {sid : String} (hn : modes.Nodup)
    (hw : w.trace = modes.map (ask c))
    (hiff : (∃ mode, Sends account.lib c mode) ↔ Unserved account.lib s.listingMode c) :
    Yields (boxOf c) w (probeListing account sid preferred [])
      (fun b => Settled account.lib s c (.ok b)) (fun e => Settled account.lib s c (.error e)) := by
  rw [probeListing, yields_bind, yields_update, yields_throw, hw]
  exact settled_of_refused modes hn hiff

theorem probe_rest_yields (after : Session.State) (hwell : WellAnswered account.lib c)
    (hp : preferred ≠ some .rest) (hprotocol : after.protocol = c.protocol)
    (hd : Absent account.lib .dataLua (c.answer .dataLua))
    (h404 : notFound (c.answer .dataLua) = false) :
    Yields (boxOf c) ⟨after, [ask c .dataLua]⟩ (probeListing account c.sid preferred [.rest])
      (fun b => Settled account.lib s c (.ok b)) (fun e => Settled account.lib s c (.error e)) := by
  have hnodup : [ListingMode.rest, .dataLua].Nodup := by decide
  have hno : ¬Unserved account.lib s.listingMode c := by
    rintro ⟨hyes, _, _⟩
    rw [h404] at hyes
    cases hyes
  rw [probeListing, if_neg hp, yields_bind]
  rcases hwell .rest with hs | ha
  · obtain ⟨l, hl⟩ := Option.isSome_iff_exists.mp hs
    apply fetch_sent hl
    rw [yields_bind, yields_update, yields_pure, hprotocol]
    exact settled_of_served [.rest, .dataLua] hnodup List.mem_cons_self hl rfl hno
  · apply fetch_absent ha (fun hm => by cases hm)
    refine probe_end [.rest, .dataLua] hnodup ?_ (refused_of_both_absent (absent_all ha hd))
    rw [hprotocol]
    rfl

theorem dataLua_first_yields {cont : Option Listing → SessionM Listing} {before : Session.State}
    (hwell : WellAnswered account.lib c)
    (hbefore : before.protocol = c.protocol) (hmode : s.listingMode ≠ some .rest)
    (hsent : ∀ l, sentListing account.lib .dataLua (c.answer .dataLua) = some l →
      Yields (boxOf c) ⟨before, [ask c .dataLua]⟩ (cont (some l))
        (fun b w' => b = l ∧ w'.trace = [ask c .dataLua] ∧ w'.state.listingMode = some .dataLua)
        (fun _ _ => False))
    (habsent : Absent account.lib .dataLua (c.answer .dataLua) →
      notFound (c.answer .dataLua) = false →
      Yields (boxOf c) ⟨before, [ask c .dataLua]⟩ (cont none)
        (fun b => Settled account.lib s c (.ok b)) (fun e => Settled account.lib s c (.error e))) :
    Yields (boxOf c) ⟨before, []⟩ (fetchListingByMode account c.sid .dataLua >>= cont)
      (fun b => Settled account.lib s c (.ok b)) (fun e => Settled account.lib s c (.error e)) := by
  have hnodup : [ListingMode.dataLua].Nodup := List.nodup_singleton _
  rw [yields_bind]
  rcases hwell .dataLua with hs | ha
  · obtain ⟨l, hl⟩ := Option.isSome_iff_exists.mp hs
    have hno : ¬Unserved account.lib s.listingMode c := fun h => not_sends_of_absent (Or.inl h.1) hs
    apply fetch_sent hl
    rw [hbefore]
    refine (hsent l hl).mono ?_ fun _ _ h => h.elim
    rintro _ ⟨after, trace⟩ ⟨rfl, rfl, hm⟩
    exact settled_of_served [.dataLua] hnodup List.mem_cons_self hl hm hno
  · cases h404 : notFound (c.answer .dataLua) with
    | true =>
        apply fetch_gone h404
        intro e
        rw [hbefore]
        exact settled_of_refused [.dataLua] hnodup (refused_of_gone h404 hmode)
    | false =>
        apply fetch_absent ha (fun _ => h404)
        rw [hbefore]
        exact habsent ha h404

theorem probe_dataLua_yields (after : Session.State) (hwell : WellAnswered account.lib c)
    (hmode : s.listingMode = some .rest) (hprotocol : after.protocol = c.protocol)
    (hr : Absent account.lib .rest (c.answer .rest)) :
    Yields (boxOf c) ⟨after, [ask c .rest]⟩
      (probeListing account c.sid (some .rest) listingProbeOrder)
      (fun b => Settled account.lib s c (.ok b)) (fun e => Settled account.lib s c (.error e)) := by
  have hnodup : [ListingMode.dataLua, .rest].Nodup := by decide
  have hno : ¬Unserved account.lib s.listingMode c := fun h => h.2.2 hmode
  rw [listingProbeOrder, probeListing, if_neg (by decide), yields_bind]
  rcases hwell .dataLua with hs | ha
  · obtain ⟨l, hl⟩ := Option.isSome_iff_exists.mp hs
    apply fetch_sent hl
    rw [yields_bind, yields_update, yields_pure, hprotocol]
    exact settled_of_served [.dataLua, .rest] hnodup List.mem_cons_self hl rfl hno
  · have hiff := refused_of_both_absent (s := s) (absent_all hr ha)
    cases h404 : notFound (c.answer .dataLua) with
    | true =>
        apply fetch_gone h404
        intro e
        rw [hprotocol]
        exact settled_of_refused [.dataLua, .rest] hnodup hiff
    | false =>
        apply fetch_absent ha (fun _ => h404)
        simp only
        rw [probeListing, if_pos rfl]
        refine probe_end [.dataLua, .rest] hnodup ?_ hiff
        rw [hprotocol]
        rfl

theorem fetchVpnConnectionsOnce_settled (hwell : WellAnswered account.lib c) :
    Yields (boxOf c) ⟨underSid s c, []⟩ (fetchVpnConnectionsOnce account)
      (fun b => Settled account.lib s c (.ok b)) (fun e => Settled account.lib s c (.error e)) := by
  rw [fetchVpnConnectionsOnce, yields_bind, asyncGetSession, yields_bind, yields_read]
  simp only [underSid, yields_pure]
  rw [yields_bind, yields_read]
  cases hm : s.listingMode with
  | none =>
      have hmode : s.listingMode ≠ some .rest := by simp [hm]
      simp only
      rw [listingProbeOrder, probeListing, if_neg (by decide)]
      refine dataLua_first_yields hwell rfl hmode (fun l _ => ?_) fun ha h404 => ?_
      · rw [yields_bind, yields_update, yields_pure]
        exact ⟨rfl, rfl, rfl⟩
      · exact probe_rest_yields _ hwell (by decide) rfl ha h404
  | some mode =>
      cases mode with
      | dataLua =>
          have hmode : s.listingMode ≠ some .rest := by simp [hm]
          simp only
          refine dataLua_first_yields hwell rfl hmode (fun l _ => ?_) fun ha h404 => ?_
          · exact yields_pure.mpr ⟨rfl, rfl, rfl⟩
          · rw [yields_bind, yields_update, listingProbeOrder, probeListing, if_pos rfl]
            exact probe_rest_yields _ hwell (by decide) rfl ha h404
      | rest =>
          have hno : ¬Unserved account.lib s.listingMode c := fun h => h.2.2 hm
          simp only
          rw [yields_bind]
          rcases hwell .rest with hs | ha
          · obtain ⟨l, hl⟩ := Option.isSome_iff_exists.mp hs
            apply fetch_sent hl
            exact yields_pure.mpr (settled_of_served [.rest] (List.nodup_singleton _)
              List.mem_cons_self hl rfl hno)
          · apply fetch_absent ha (fun hd => by cases hd)
            simp only
            rw [yields_bind, yields_update]
            exact probe_dataLua_yields _ hwell hm rfl ha

end Settling

/-- In a sequence of calls each one keeps to the fallback exactly when data.lua
is there, or REST sends nothing, or REST is the cached mode. -/
theorem fallsBack_iff_not_unserved {account : Account} {mode : Option ListingMode}
    {hist : List CallRecord} {s : Session.State} (hrun : Run (machine account mode) hist s)
    (hwell : ∀ r ∈ hist, WellAnswered account.lib r.input) :
    ∀ r ∈ hist, FallsBack account.lib r ↔ ¬Unserved account.lib r.before.listingMode r.input := by
  intro r hr
  obtain ⟨later, earlier, rfl⟩ := List.append_of_mem hr
  obtain ⟨s', hs'⟩ := hrun.of_append
  obtain ⟨-, hrecord, -⟩ := hs'.of_cons
  have hsettled := yields_result.mp
    (fetchVpnConnectionsOnce_settled (s := r.before) (hwell r hr))
  rw [hrecord]
  exact hsettled

def restText : String :=
  "\x7b\"connection\": [\x7b\"uid\": \"wg0\", \"access_type\": \"4\", \"activated\": true\x7d]\x7d"

def jsonLibrary : Library :=
  { flatLibrary with
    loads := fun content =>
      if content = restText then
        .ok (.obj [(apiKeyConnection, .arr [.obj [(apiKeyUid, .str "wg0"),
          (apiKeyAccessType, .str "4"), (apiKeyActivated, .bool true)]])])
      else if content = "\x7b\x7d" then .ok (.obj [])
      else flatLibrary.loads content }

def jsonAccount : Account := ⟨"fritz.box", "admin", "secret", jsonLibrary⟩

def restBox (dataLua : Answer) : Call where
  sid := "0123456789abcdef"
  protocol := .https
  answer
    | .rest => .ok ⟨200, "application/json", .ok restText⟩
    | .dataLua => dataLua

def emptyPage : Answer := .ok ⟨200, "application/json", .ok "\x7b\x7d"⟩

def missingPage : Answer := .ok ⟨404, "text/html", .ok "Not Found"⟩

theorem restBox_sends (dataLua : Answer) : Sends jsonLibrary (restBox dataLua) .rest := by
  change (sentListing jsonLibrary .rest (.ok ⟨200, "application/json", .ok restText⟩)).isSome = true
  decide +kernel

theorem jsonBody_emptyPage : jsonBody jsonLibrary emptyPage = some (.obj []) := by
  have hrest : ("\x7b\x7d" : String) ≠ restText := by decide +kernel
  rw [emptyPage, jsonBody, if_pos ⟨rfl, by decide +kernel⟩]
  simp only [jsonLibrary, if_neg hrest, if_true, Except.toOption, Option.bind_some]

theorem restBox_emptyPage_fallsBack : FallsBack jsonLibrary
    ((machine jsonAccount none).record (machine jsonAccount none).init (restBox emptyPage)) := by
  have hwell : WellAnswered jsonLibrary (restBox emptyPage)
    | .rest => Or.inl (restBox_sends _)
    | .dataLua => Or.inr (Or.inr ⟨.obj [], jsonBody_emptyPage, rfl⟩)
  apply (fallsBack_iff_not_unserved (run_play (machine jsonAccount none) [restBox emptyPage]) ?_ _
    List.mem_cons_self).mpr
  · rintro ⟨hgone, _⟩
    cases hgone
  · intro r hr
    rw [List.mem_singleton.mp hr]
    exact hwell

/-- With data.lua gone the listing that REST would have sent is never asked for. -/
theorem restBox_missingPage_fails : ¬FallsBack jsonLibrary
    ((machine jsonAccount none).record (machine jsonAccount none).init (restBox missingPage)) := by
  intro h
  obtain ⟨mode, l, hok, _⟩ := h.serves ⟨.rest, restBox_sends _⟩
  have herror : ((machine jsonAccount none).record (machine jsonAccount none).init
      (restBox missingPage)).output.result.toBool = false := by
    decide +kernel
  rw [hok] at herror
  cases herror

end FritzboxVpn.ListingFallback
