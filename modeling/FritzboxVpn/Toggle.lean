import FritzboxVpn.Listings
import FritzboxVpn.SessionRequests

namespace FritzboxVpn.Toggle

open Constants Exceptions FetchErrors Interaction Interaction.Program JsonValue Listings OrderedDict
  Parsing Session SessionRequests

def connectionOf (connections : Listing) (uid : String) : Option (Dict String Json) :=
  (connections.get? uid).bind asDict

def activeOf (conn : Dict String Json) : Json := (conn.get? apiKeyActive).getD (.bool false)

/-- `value == enable`, where numbers compare with False as 0 and with True as 1. -/
def equalsBool : Json → Bool → Bool
  | .bool b, enable => b == enable
  | .int n, enable => n == (if enable then 1 else 0)
  | .float x, true => x.repr == "1.0"
  | .float x, false => x.isZero
  | _, _ => false

def verifyToggle (account : Account) (uid : String) (enable : Bool) : SessionM Bool := do
  let newConnections ← asyncGetVpnConnections account
  match connectionOf newConnections uid with
  | none => pure false
  | some newConn => pure (equalsBool (activeOf newConn) enable)

def checkToggle (account : Account) (uid : String) (enable : Bool) (response : Response) :
    SessionM Bool :=
  if response.status ≠ httpStatusOk then do
    let _ ← readText response
    pure false
  else verifyToggle account uid enable

def answerToggle (account : Account) (uid : String) (enable : Bool) (sidRetry : Option (SessionM Bool))
    (response : Response) : SessionM Bool :=
  match sidRetry with
  | none => checkToggle account uid enable response
  | some again =>
      if response.status = httpStatusForbidden then do
        update invalidateSession
        again
      else checkToggle account uid enable response

def putToggle (account : Account) (uid : String) (enable : Bool) (sidRetry : Option (SessionM Bool))
    (vpnUid : Json) : SessionM Bool := do
  let sid ← asyncGetSession account
  let s ← read
  tryCatch
    (do
      let response ← send (.put s.protocol sid (pyStr account.lib.repr vpnUid) enable)
      answerToggle account uid enable sidRetry response)
    fun _ => pure false

def toggleOnce (account : Account) (uid : String) (enable : Bool) (sidRetry : Option (SessionM Bool)) :
    SessionM Bool := do
  let connections ← asyncGetVpnConnections account
  match connectionOf connections uid with
  | none => pure false
  | some conn =>
      match field conn apiKeyUid with
      | none => pure false
      | some vpnUid =>
          if truthy vpnUid = false then pure false
          else if equalsBool (activeOf conn) enable then pure true
          else putToggle account uid enable sidRetry vpnUid

def asyncToggleVpn (account : Account) (uid : String) (enable : Bool) : SessionM Bool :=
  toggleOnce account uid enable (some (toggleOnce account uid enable none))

def lastListing (lib : Library) (trace : List Exchange) : Option Listing :=
  trace.findSome? (listingOf lib)

def Shows (lib : Library) (uid : String) (active : Bool) (trace : List Exchange) : Prop :=
  ∃ l conn, lastListing lib trace = some l ∧ connectionOf l uid = some conn ∧
    conn.get? apiKeyActive = some (.bool active)

def forbidden : Answer → Bool
  | .ok response => response.status == httpStatusForbidden
  | .error _ => false

def Renewed (trace : List Exchange) : Prop :=
  ∀ y before, y :: before <:+ trace → isPut y.1 = true →
    forbidden y.2 = true ∧ ∃ a, (Request.loginPage .https true, a) :: y :: before <:+ trace

/-- Every PUT of the exchanges, the latest first, had a reason. -/
structure Proper (lib : Library) (uid : String) (enable : Bool) (trace : List Exchange) : Prop where
  addressed : ∀ x earlier, x :: earlier <:+ trace → isPut x.1 = true →
    (∃ protocol sid, x.1 = .put protocol sid uid enable) ∧ Shows lib uid (!enable) earlier
  renewed : ∀ x earlier, x :: earlier <:+ trace → isPut x.1 = true → Renewed earlier

structure TogglesRightly (lib : Library) (uid : String) (enable : Bool) (result : Except PyError Bool)
    (trace : List Exchange) : Prop extends Proper lib uid enable trace where
  twice : (trace.filter fun x => isPut x.1).length ≤ 2
  verified : result = .ok true → Shows lib uid enable trace

abbrev NotPut (r : Request) : Prop := isPut r = false

def putCount (trace : List Exchange) : Nat := (trace.filter fun x => isPut x.1).length

section Traces

variable {lib : Library} {uid : String} {enable : Bool} {x : Exchange}
  {made earlier base : List Exchange} {w w' : SessionWorld}

theorem putCount_append (base : List Exchange) (h : ∀ x ∈ made, NotPut x.1) :
    putCount (made ++ base) = putCount base := by
  have hmade : made.filter (fun x => isPut x.1) = [] := by
    apply List.filter_eq_nil_iff.mpr
    intro x hx
    rw [h x hx]
    decide
  rw [putCount, List.filter_append, hmade, List.nil_append, putCount]

theorem putCount_put (h : isPut x.1 = true) : putCount (x :: base) = putCount base + 1 := by
  rw [putCount, List.filter_cons_of_pos (p := fun x : Exchange => isPut x.1) h,
    List.length_cons, putCount]

theorem suffix_of_append (h : x :: earlier <:+ made ++ base) (hx : isPut x.1 = true)
    (hmade : ∀ y ∈ made, NotPut y.1) : x :: earlier <:+ base := by
  induction made with
  | nil => exact h
  | cons y made ih =>
      rw [List.cons_append, List.suffix_cons_iff] at h
      rcases h with h | h
      · obtain ⟨rfl, -⟩ := List.cons.inj h
        rw [hmade x List.mem_cons_self] at hx
        cases hx
      · exact ih h fun z hz => hmade z (List.mem_cons_of_mem y hz)

theorem Proper.append (h : Proper lib uid enable base) (hmade : ∀ y ∈ made, NotPut y.1) :
    Proper lib uid enable (made ++ base) where
  addressed := fun x earlier hs hx => h.addressed x earlier (suffix_of_append hs hx hmade) hx
  renewed := fun x earlier hs hx => h.renewed x earlier (suffix_of_append hs hx hmade) hx

theorem Renewed.append (h : Renewed base) (hmade : ∀ y ∈ made, NotPut y.1) :
    Renewed (made ++ base) := by
  intro y before hs hy
  obtain ⟨hforbidden, a, ha⟩ := h y before (suffix_of_append hs hy hmade) hy
  exact ⟨hforbidden, a, ha.trans (List.suffix_append made base)⟩

theorem renewed_of_no_put (h : putCount base = 0) : Renewed base := by
  intro y before hs hy
  have hmem : y ∈ base.filter fun x => isPut x.1 :=
    List.mem_filter.mpr ⟨hs.subset List.mem_cons_self, hy⟩
  rw [List.eq_nil_of_length_eq_zero h] at hmem
  exact absurd hmem List.not_mem_nil

theorem renewed_of_login {a : Answer} (hx : forbidden x.2 = true) (h : putCount base = 0) :
    Renewed ((.loginPage .https true, a) :: x :: base) := by
  intro y before hs hy
  rcases List.suffix_cons_iff.mp hs with heq | hs
  · obtain ⟨rfl, -⟩ := List.cons.inj heq
    cases hy
  · rcases List.suffix_cons_iff.mp hs with heq | hs
    · obtain ⟨rfl, rfl⟩ := List.cons.inj heq
      exact ⟨hx, a, List.suffix_refl _⟩
    · have hno := renewed_of_no_put h y before hs hy
      obtain ⟨hforbidden, a', ha'⟩ := hno
      exact ⟨hforbidden, a', ha'.trans ((List.suffix_cons x base).trans (List.suffix_cons _ _))⟩

theorem Proper.put (protocol : Protocol) (sid : String) (a : Answer)
    (h : Proper lib uid enable base) (hshows : Shows lib uid (!enable) base) (hrenewed : Renewed base) :
    Proper lib uid enable ((.put protocol sid uid enable, a) :: base) where
  addressed := by
    intro x earlier hs hx
    rcases List.suffix_cons_iff.mp hs with heq | hs
    · obtain ⟨rfl, rfl⟩ := List.cons.inj heq
      exact ⟨⟨protocol, sid, rfl⟩, hshows⟩
    · exact h.addressed x earlier hs hx
  renewed := by
    intro x earlier hs hx
    rcases List.suffix_cons_iff.mp hs with heq | hs
    · obtain ⟨rfl, rfl⟩ := List.cons.inj heq
      exact hrenewed
    · exact h.renewed x earlier hs hx

theorem lastListing_append (hmade : ∀ x ∈ made, attemptsLogin x.1 = true) :
    lastListing lib (made ++ base) = lastListing lib base := by
  have hnone : made.findSome? (listingOf lib) = none := by
    apply List.findSome?_eq_none_iff.mpr
    intro x hx
    have hlogin := hmade x hx
    obtain ⟨r, a⟩ := x
    cases r <;> first | rfl | cases hlogin
  rw [lastListing, List.findSome?_append, hnone, Option.none_or, lastListing]

theorem lastListing_of_fetched {l : Listing} (h : FetchedLast lib l w) :
    lastListing lib w.trace = some l := by
  obtain ⟨x, rest, hw, hx⟩ := h
  rw [lastListing, hw, List.findSome?_cons, hx]

theorem connectionOf_normalized {l : Listing} {conn : Dict String Json} (hn : Normalized l)
    (h : connectionOf l uid = some conn) :
    field conn apiKeyUid = some (.str uid) ∧ ∃ active, conn.get? apiKeyActive = some (.bool active) := by
  obtain ⟨v, hv, hd⟩ := Option.bind_eq_some_iff.mp h
  obtain ⟨c, rfl⟩ := hn uid v hv
  obtain ⟨hu, ha⟩ := asDict_normalizeEntry hd
  exact ⟨by rw [field, hu], _, ha⟩

end Traces

def Fresh (w : SessionWorld) : Prop :=
  putCount w.trace = 0 ∨ (w.state.sid = none ∧ w.state.protocol = .https ∧
    ∃ x base, w.trace = x :: base ∧ isPut x.1 = true ∧ forbidden x.2 = true ∧ putCount base = 0)

section Calls

variable {account : Account} {partner : Partner Request Answer} {w : SessionWorld} {uid : String}
  {enable : Bool}

theorem getConnections_asks (account : Account) : Asks NotPut (asyncGetVpnConnections account) := by
  apply asyncGetVpnConnections_asks
  · intro r hr
    cases r <;> first | rfl | cases hr
  · intro r hr
    cases r <;> first | rfl | cases hr

theorem Fresh.renewed (h : Fresh w) :
    Yields partner w (asyncGetVpnConnections account) (fun _ w' => Renewed w'.trace)
      (fun _ w' => Renewed w'.trace) := by
  apply yields_world.mpr
  obtain ⟨made, ht, hmade⟩ := getConnections_asks account partner w
  rcases h with h0 | ⟨hsid, hprotocol, x, base, hw, hx, hforbidden, h0⟩
  · rw [ht]
    exact (renewed_of_no_put h0).append hmade
  · obtain ⟨made', a, ht'⟩ := asyncGetVpnConnections_opens account hsid partner
    have hsame : made = made' ++ [(.loginPage .https true, a)] := by
      rw [ht, hprotocol] at ht'
      have htotal : made ++ w.trace = (made' ++ [(.loginPage .https true, a)]) ++ w.trace := by
        rw [ht', List.append_assoc, List.singleton_append]
      exact List.append_cancel_right htotal
    have hmade' : ∀ y ∈ made', NotPut y.1 := fun y hy =>
      hmade y (hsame ▸ List.mem_append_left _ hy)
    rw [ht', hprotocol, hw]
    exact (renewed_of_login hforbidden h0).append hmade'

theorem getConnections_yields :
    Yields partner w (asyncGetVpnConnections account)
      (fun l w' => Adds NotPut w w' ∧ lastListing account.lib w'.trace = some l ∧ Normalized l)
      (fun _ w' => Adds NotPut w w') := by
  refine ((getConnections_asks account).yields.and asyncGetVpnConnections_fetches).mono ?_ fun _ _ h => h.1
  rintro l w' ⟨hadds, hfetched⟩
  refine ⟨hadds, lastListing_of_fetched hfetched, ?_⟩
  obtain ⟨x, _, _, hx⟩ := hfetched
  exact listingOf_normalized hx

theorem togglesRightly_of_proper {result : Except PyError Bool} {trace : List Exchange}
    (h : Proper account.lib uid enable trace) (htwice : putCount trace ≤ 2)
    (hresult : result = .ok true → Shows account.lib uid enable trace) :
    TogglesRightly account.lib uid enable result trace :=
  { h with twice := htwice, verified := hresult }

theorem shows_of_listed (enable : Bool) {l : Listing} {conn : Dict String Json} {trace : List Exchange}
    (hl : lastListing account.lib trace = some l) (hn : Normalized l)
    (hc : connectionOf l uid = some conn) :
    Shows account.lib uid (if equalsBool (activeOf conn) enable then enable else !enable) trace := by
  obtain ⟨_, active, ha⟩ := connectionOf_normalized hn hc
  refine ⟨l, conn, hl, hc, ?_⟩
  rw [ha, activeOf, ha, Option.getD_some, equalsBool]
  cases active <;> cases enable <;> rfl

theorem verifyToggle_yields (h : Proper account.lib uid enable w.trace) (hc : putCount w.trace ≤ 2) :
    Yields partner w (verifyToggle account uid enable)
      (fun b w' => TogglesRightly account.lib uid enable (.ok b) w'.trace)
      (fun e w' => TogglesRightly account.lib uid enable (.error e) w'.trace) := by
  rw [verifyToggle, yields_bind]
  have kept : ∀ w', Adds NotPut w w' →
      Proper account.lib uid enable w'.trace ∧ putCount w'.trace ≤ 2 := by
    rintro w' ⟨made, ht, hmade⟩
    rw [ht, putCount_append _ hmade]
    exact ⟨h.append hmade, hc⟩
  refine getConnections_yields.mono ?_ ?_
  · rintro l w' ⟨hadds, hl, hn⟩
    obtain ⟨hp, hcount⟩ := kept w' hadds
    cases hconn : connectionOf l uid with
    | none => exact yields_pure.mpr (togglesRightly_of_proper hp hcount fun h => by cases h)
    | some conn =>
        refine yields_pure.mpr (togglesRightly_of_proper hp hcount fun heq => ?_)
        have hshows := shows_of_listed enable hl hn hconn
        rwa [if_pos (Except.ok.inj heq)] at hshows
  · intro e w' hadds
    obtain ⟨hp, hcount⟩ := kept w' hadds
    exact togglesRightly_of_proper hp hcount fun h => by cases h

theorem checkToggle_yields (h : Proper account.lib uid enable w.trace) (hc : putCount w.trace ≤ 2)
    (response : Response) :
    Yields partner w (checkToggle account uid enable response)
      (fun b w' => TogglesRightly account.lib uid enable (.ok b) w'.trace)
      (fun e w' => TogglesRightly account.lib uid enable (.error e) w'.trace) := by
  rw [checkToggle]
  by_cases hs : response.status = httpStatusOk
  · rw [if_neg (not_not.mpr hs)]
    exact verifyToggle_yields h hc
  · rw [if_pos hs, yields_bind]
    refine readText_yields (fun _ _ => ?_) fun _ _ => ?_
    · exact yields_pure.mpr (togglesRightly_of_proper h hc fun h => by cases h)
    · exact togglesRightly_of_proper h hc fun h => by cases h

def Retries (account : Account) (partner : Partner Request Answer) (uid : String) (enable : Bool)
    (again : SessionM Bool) : Prop :=
  ∀ w, Proper account.lib uid enable w.trace → Fresh w → Yields partner w again
    (fun b w' => TogglesRightly account.lib uid enable (.ok b) w'.trace)
    (fun e w' => TogglesRightly account.lib uid enable (.error e) w'.trace)

variable {sidRetry : Option (SessionM Bool)}

theorem answerToggle_yields {r : Request} {response : Response} {base : List Exchange}
    (hw : w.trace = (r, .ok response) :: base) (hr : isPut r = true)
    (h : Proper account.lib uid enable w.trace) (hc : putCount base ≤ 1)
    (hretry : ∀ again, sidRetry = some again →
      putCount base = 0 ∧ Retries account partner uid enable again) :
    Yields partner w (answerToggle account uid enable sidRetry response)
      (fun b w' => TogglesRightly account.lib uid enable (.ok b) w'.trace)
      (fun e w' => TogglesRightly account.lib uid enable (.error e) w'.trace) := by
  have hcount : putCount w.trace ≤ 2 := by
    rw [hw, putCount_put hr]
    omega
  cases sidRetry with
  | none => exact checkToggle_yields h hcount response
  | some again =>
      obtain ⟨h0, hagain⟩ := hretry again rfl
      rw [answerToggle]
      by_cases hf : response.status = httpStatusForbidden
      · rw [if_pos hf, yields_bind, yields_update]
        apply hagain ⟨invalidateSession w.state, w.trace⟩ h
        exact Or.inr ⟨rfl, rfl, _, base, hw, hr, beq_iff_eq.mpr hf, h0⟩
      · rw [if_neg hf]
        exact checkToggle_yields h hcount response

theorem putToggle_yields (h : Proper account.lib uid enable w.trace) (hc : putCount w.trace ≤ 1)
    (hrenewed : Renewed w.trace) (hshows : Shows account.lib uid (!enable) w.trace)
    (hretry : ∀ again, sidRetry = some again →
      putCount w.trace = 0 ∧ Retries account partner uid enable again) :
    Yields partner w (putToggle account uid enable sidRetry (.str uid))
      (fun b w' => TogglesRightly account.lib uid enable (.ok b) w'.trace)
      (fun e w' => TogglesRightly account.lib uid enable (.error e) w'.trace) := by
  have hasks : Asks (fun r => attemptsLogin r = true) (asyncGetSession account) :=
    asyncGetSession_asks fun _ h => h
  have notPut : ∀ {made : List Exchange}, (∀ x ∈ made, attemptsLogin x.1 = true) →
      ∀ x ∈ made, NotPut x.1 := by
    rintro made hmade ⟨r, a⟩ hx
    have hlogin := hmade _ hx
    cases r <;> first | rfl | cases hlogin
  rw [putToggle, yields_bind]
  refine hasks.yields.mono ?_ ?_
  · rintro sid ⟨s, trace⟩ ⟨made, rfl, hmade⟩
    have hput := fun protocol a => Proper.put protocol sid a (h.append (notPut hmade))
      (by rw [Shows, lastListing_append hmade]; exact hshows) (hrenewed.append (notPut hmade))
    have hcount := putCount_append w.trace (notPut hmade)
    have failed : ∀ protocol a, TogglesRightly account.lib uid enable (.ok false)
        ((.put protocol sid uid enable, a) :: (made ++ w.trace)) := by
      intro protocol a
      refine togglesRightly_of_proper (hput protocol a) ?_ fun h => by cases h
      rw [putCount_put rfl, hcount]
      omega
    rw [yields_bind, yields_read, yields_tryCatch, yields_bind]
    simp only [pyStr_str]
    apply send_yields
    · intro response
      refine (answerToggle_yields rfl rfl (hput _ _) (by rw [hcount]; exact hc) ?_).mono
        (fun _ _ h => h) ?_
      · intro again hagain
        rw [hcount]
        exact hretry again hagain
      · rintro e w' he
        exact yields_pure.mpr (togglesRightly_of_proper he.toProper he.twice fun h => by cases h)
    · intro e
      exact yields_pure.mpr (failed _ _)
  · rintro e w' ⟨made, ht, hmade⟩
    rw [ht]
    refine togglesRightly_of_proper (h.append (notPut hmade)) ?_ fun h => by cases h
    rw [putCount_append _ (notPut hmade)]
    omega

theorem Fresh.putCount_le (h : Fresh w) : putCount w.trace ≤ 1 := by
  rcases h with h0 | ⟨_, _, x, base, hw, hx, _, h0⟩
  · omega
  · rw [hw, putCount_put hx, h0]

theorem toggleOnce_yields (h : Proper account.lib uid enable w.trace) (hfresh : Fresh w)
    (hretry : ∀ again, sidRetry = some again →
      putCount w.trace = 0 ∧ Retries account partner uid enable again) :
    Yields partner w (toggleOnce account uid enable sidRetry)
      (fun b w' => TogglesRightly account.lib uid enable (.ok b) w'.trace)
      (fun e w' => TogglesRightly account.lib uid enable (.error e) w'.trace) := by
  have hle := hfresh.putCount_le
  rw [toggleOnce, yields_bind]
  refine (getConnections_yields.and hfresh.renewed).mono ?_ ?_
  · rintro l w' ⟨⟨⟨made, ht, hmade⟩, hl, hn⟩, hrenewed⟩
    have hcount : putCount w'.trace = putCount w.trace := by rw [ht, putCount_append _ hmade]
    have hproper : Proper account.lib uid enable w'.trace := ht ▸ h.append hmade
    have unchanged : TogglesRightly account.lib uid enable (.ok false) w'.trace :=
      togglesRightly_of_proper hproper (by omega) fun h => by cases h
    cases hconn : connectionOf l uid with
    | none => exact yields_pure.mpr unchanged
    | some conn =>
        have hshows := shows_of_listed enable hl hn hconn
        simp only [(connectionOf_normalized hn hconn).1]
        by_cases ht : truthy (.str uid) = false
        · rw [if_pos ht]
          exact yields_pure.mpr unchanged
        rw [if_neg ht]
        by_cases he : equalsBool (activeOf conn) enable = true
        · rw [if_pos he] at hshows ⊢
          exact yields_pure.mpr (togglesRightly_of_proper hproper (by omega) fun _ => hshows)
        · rw [if_neg he] at hshows ⊢
          refine putToggle_yields hproper (by omega) hrenewed hshows fun again hagain => ?_
          rw [hcount]
          exact hretry again hagain
  · rintro e w' ⟨⟨made, ht, hmade⟩, -⟩
    rw [ht]
    refine togglesRightly_of_proper (h.append hmade) ?_ fun h => by cases h
    rw [putCount_append _ hmade]
    omega

end Calls

theorem proper_nil (lib : Library) (uid : String) (enable : Bool) : Proper lib uid enable [] where
  addressed := fun _ _ hs _ => absurd (hs.subset List.mem_cons_self) List.not_mem_nil
  renewed := fun _ _ hs _ => absurd (hs.subset List.mem_cons_self) List.not_mem_nil

/-- Whatever the box answers, a toggle sends a PUT only for a connection that was
listed in the other state, a second one only after a refusal and a new login, and
it reports success only for a connection that was last listed as asked for. -/
theorem asyncToggleVpn_togglesRightly (account : Account) (uid : String) (enable : Bool)
    (partner : Partner Request Answer) (s : Session.State) :
    TogglesRightly account.lib uid enable (asyncToggleVpn account uid enable partner ⟨s, []⟩).1
      (asyncToggleVpn account uid enable partner ⟨s, []⟩).2.trace := by
  apply (yields_result (P := fun result w' =>
    TogglesRightly account.lib uid enable result w'.trace)).mp
  apply toggleOnce_yields (proper_nil _ _ _) (Or.inl rfl)
  intro again hagain
  cases hagain
  refine ⟨rfl, fun w hproper hfresh => ?_⟩
  exact toggleOnce_yields hproper hfresh fun _ h => by cases h

end FritzboxVpn.Toggle
