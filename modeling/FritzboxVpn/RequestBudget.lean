import FritzboxVpn.Costs
import FritzboxVpn.FailedPolls
import FritzboxVpn.Runs
import FritzboxVpn.Toggle

namespace FritzboxVpn.RequestBudget

open Constants Costs Exceptions FailedPolls FetchErrors Interaction Interaction.Program JsonValue Listings OrderedDict
  Parsing Runs Session SessionRequests Text Toggle

inductive Kind
  | page
  | login
  | listing
  | put
deriving DecidableEq

def kindOf : Request → Kind
  | .loginPage _ _ | .loginPageHttp _ => .page
  | .login _ _ _ _ => .login
  | .restVpn _ _ | .dataLua _ _ => .listing
  | .put _ _ _ _ => .put

def budget (pages logins listings puts : ℕ) : Kind → ℕ
  | .page => pages
  | .login => logins
  | .listing => listings
  | .put => puts

theorem budget_add (p l s u p' l' s' u' : ℕ) :
    budget p l s u + budget p' l' s' u' = budget (p + p') (l + l') (s + s') (u + u') := by
  funext k
  cases k <;> rfl

theorem budget_le {p l s u p' l' s' u' : ℕ} (hp : p ≤ p') (hl : l ≤ l') (hs : s ≤ s') (hu : u ≤ u')
    (k : Kind) : budget p l s u k ≤ budget p' l' s' u' k := by
  cases k
  · exact hp
  · exact hl
  · exact hs
  · exact hu

abbrev Any : SessionWorld → Prop := fun _ => True

def Knows (w : SessionWorld) : Prop := w.state.sid.isSome = true

variable {account : Account}

section Login

variable {β : Type} {n : Kind → ℕ} {P : SessionWorld → Prop}

theorem spends_of_silent {p : SessionM β} (h : Asks (fun _ => False) p) :
    Spends kindOf P n p fun _ _ => True := by
  intro partner w _
  have hsilent : ∀ w', Adds (fun _ => False) w w' → Spent kindOf n w w' := by
    rintro w' ⟨made, ht, hnone⟩
    refine ⟨[], ?_, fun _ => Nat.zero_le _⟩
    rw [ht, List.eq_nil_iff_forall_not_mem.mpr hnone]
  exact h.yields.mono (fun _ w' hw' => ⟨hsilent w' hw', trivial⟩) fun _ w' hw' => hsilent w' hw'

theorem send_spends {r : Request} (hr : 1 ≤ n (kindOf r)) {Q : SessionWorld → Prop}
    (h : ∀ w a, P w → Q { w with trace := (r, a) :: w.trace }) :
    Spends kindOf P n (send r) fun _ => Q := by
  refine Spends.within (n := n + 0) ?_ fun _ => Nat.le_refl _
  refine (spends_request (Q := fun _ => Q) hr h).bind fun a => ?_
  cases a with
  | ok response => exact spends_pure fun _ hw => hw
  | error e => exact spends_throw

theorem send_spends_any {r : Request} (hr : 1 ≤ n (kindOf r)) : Spends kindOf P n (send r) fun _ => Any :=
  send_spends hr fun _ _ _ => trivial

theorem getLoginPageHttp_spends (v : Bool) :
    Spends kindOf P (budget 1 0 0 0) (getLoginPageHttp account v) fun _ _ => True := by
  have hpage : Spends kindOf P (budget 1 0 0 0 + 0 + 0 + 0) (getLoginPageHttp account v)
      fun _ _ => True := by
    apply Spends.bind (Q := fun _ _ => True)
    · apply Spends.tryCatch
      · refine (send_spends_any (Nat.le_refl 1)).bind fun response => ?_
        split
        · exact spends_throw
        · exact spends_of_silent (readText_asks _)
      · exact fun e => spends_of_silent (handleLoginPageHttpError_asks e)
    · exact fun content => spends_of_silent (asks_update.bind fun _ => asks_pure)
  exact hpage.within fun _ => Nat.le_refl _

theorem handleLoginPageError_spends (v : Bool) (e : PyError) :
    Spends kindOf P (budget 1 0 0 0) (handleLoginPageError account v e) fun _ _ => True := by
  have hhandler : Spends kindOf P (0 + budget 1 0 0 0) (handleLoginPageError account v e)
      fun _ _ => True := by
    refine spends_read.bind fun s => ?_
    split
    · split
      · exact spends_throw
      · exact getLoginPageHttp_spends v
    · exact spends_throw
  exact hhandler.within fun k => by rw [zero_add]

theorem fetchLoginPage_spends (v : Bool) :
    Spends kindOf P (budget 3 0 0 0) (fetchLoginPage account v) fun _ _ => True := by
  have hpages : Spends kindOf P (0 + (budget 1 0 0 0 + budget 1 0 0 0 + budget 1 0 0 0))
      (fetchLoginPage account v) fun _ _ => True := by
    refine spends_read.bind fun s => Spends.tryCatch ?_ fun e => handleLoginPageError_spends v e
    refine (send_spends_any (Nat.le_refl 1)).bind fun response => ?_
    split
    · exact spends_of_silent (readText_asks _)
    · split
      · exact getLoginPageHttp_spends v
      · exact spends_throw
  refine hpages.within fun k => ?_
  rw [budget_add, budget_add, zero_add]

theorem post_spends {r : Request} {p : Response → SessionM β} (hr : kindOf r = .login)
    (hp : ∀ response, Asks (fun _ => False) (p response)) :
    Spends kindOf P (budget 0 1 0 0) (tryCatch (send r >>= p) (handleLoginError account))
      fun _ _ => True := by
  have hone : 1 ≤ budget 0 1 0 0 (kindOf r) := by
    rw [hr]
    exact Nat.le_refl 1
  have hpost : Spends kindOf P (budget 0 1 0 0 + 0 + 0)
      (tryCatch (send r >>= p) (handleLoginError account)) fun _ _ => True :=
    Spends.tryCatch ((send_spends_any hone).bind fun response => spends_of_silent (hp response))
      fun e => spends_of_silent (handleLoginError_asks e)
  exact hpost.within fun _ => Nat.le_refl _

theorem postPbkdf2_spends (response : String) :
    Spends kindOf P (budget 0 1 0 0) (postPbkdf2 account response) fun _ _ => True := by
  have hpost : Spends kindOf P (0 + budget 0 1 0 0) (postPbkdf2 account response) fun _ _ => True := by
    refine spends_read.bind fun s => post_spends rfl fun answered => ?_
    split
    · exact asks_pure
    · exact (readText_asks _).bind fun _ => asks_pure
  exact hpost.within fun k => by rw [zero_add]

theorem postMd5_spends (response : String) :
    Spends kindOf P (budget 0 1 0 0) (postMd5 account response) fun _ _ => True := by
  have hpost : Spends kindOf P (0 + budget 0 1 0 0) (postMd5 account response) fun _ _ => True := by
    refine spends_read.bind fun s => post_spends rfl fun answered => ?_
    split
    · exact asks_throw
    · exact readText_asks _
  exact hpost.within fun k => by rw [zero_add]

theorem pbkdf2With_spends (content : String) :
    Spends kindOf P (budget 0 1 0 0) (pbkdf2With account content) fun _ _ => True := by
  rw [pbkdf2With]
  split
  · exact spends_pure fun _ _ => trivial
  · split
    · exact spends_pure fun _ _ => trivial
    · rename_i challenge _
      split
      · exact spends_pure fun _ _ => trivial
      · have hlogin : Spends kindOf P (0 + (0 + (budget 0 1 0 0 + 0))) (do
            waitBlocktime account.lib content
            let response ← ended (calculatePbkdf2Response account.lib challenge account.password)
            let content ← postPbkdf2 account response
            pure (content.bind (validSid account.lib))) fun _ _ => True := by
          refine (spends_of_silent (waitBlocktime_asks _ _)).bind fun _ => ?_
          refine (spends_of_silent asks_ended).bind fun response => ?_
          exact (postPbkdf2_spends response).bind fun _ => spends_of_silent asks_pure
        exact hlogin.within fun k => by rw [zero_add, zero_add, add_zero]

theorem keeps_spends (sid : String) :
    Spends kindOf P n (do
      update fun s : Session.State => { s with sid := some sid }
      pure sid : SessionM String) fun _ => Knows := by
  exact spends_update_pure fun _ _ => rfl

/-- An MD5 login that returns has found a SID. -/
theorem md5With_spends (content : String) :
    Spends kindOf P (budget 0 1 0 0) (md5With account content) fun _ => Knows := by
  rw [md5With]
  split
  · exact spends_throw
  · simp only
    split
    · exact spends_throw
    · refine Spends.within (n := budget 0 1 0 0 + 0) ?_ fun _ => Nat.le_refl _
      refine (postMd5_spends _).bind fun content => ?_
      split
      · exact spends_throw
      · exact keeps_spends _

/-- The PBKDF2 login; a ValueError of it costs nothing more. -/
theorem pbkdf2OrNone_spends :
    Spends kindOf P (budget 3 1 0 0) (pbkdf2OrNone account) fun _ _ => True := by
  refine Spends.within (n := budget 3 0 0 0 + budget 0 1 0 0 + 0) ?_ fun _ => ?_
  · refine Spends.tryCatch ?_ fun e => ?_
    · exact (fetchLoginPage_spends true).bind fun content => pbkdf2With_spends content
    · split
      · exact spends_pure fun _ _ => trivial
      · exact spends_throw
  · rw [budget_add, add_zero]

theorem md5Page_spends : Spends kindOf P (budget 3 0 0 0) (md5Page account) fun _ _ => True := by
  refine Spends.within (n := budget 3 0 0 0 + 0) ?_ fun _ => Nat.le_refl _
  refine (fetchLoginPage_spends false).tryCatch fun e => ?_
  split <;> exact spends_throw

theorem login_spends : Spends kindOf P (budget 6 2 0 0) (login account) fun _ => Knows := by
  refine Spends.within (n := budget 3 1 0 0 + (budget 3 0 0 0 + budget 0 1 0 0)) ?_ fun _ => ?_
  · refine pbkdf2OrNone_spends.bind fun sid => ?_
    cases sid with
    | some sid => exact keeps_spends sid
    | none => exact md5Page_spends.bind fun content => md5With_spends content
  · rw [budget_add, budget_add]

theorem asyncGetSession_knows {n : Kind → ℕ} :
    Spends kindOf Knows n (asyncGetSession account) fun _ => Knows := by
  intro partner w hw
  obtain ⟨sid, hsid⟩ := Option.isSome_iff_exists.mp hw
  rw [asyncGetSession_eq, yields_bind, yields_read, hsid]
  exact yields_pure.mpr ⟨Spent.refl w, hw⟩

theorem asyncGetSession_spends :
    Spends kindOf P (budget 6 2 0 0) (asyncGetSession account) fun _ => Knows := by
  intro partner w _
  by_cases hknows : Knows w
  · exact asyncGetSession_knows partner w hknows
  · have hsid : w.state.sid = none := Option.not_isSome_iff_eq_none.mp hknows
    rw [asyncGetSession_eq, yields_bind, yields_read, hsid]
    exact login_spends (P := Any) partner w trivial

end Login

section Listings

variable {sid : String}

theorem fetchListingByMode_spends (mode : ListingMode) :
    Spends kindOf Knows (budget 0 0 1 0) (fetchListingByMode account sid mode) fun _ => Knows := by
  intro partner w hw
  have hone : ∀ (s : Session.State) (a : Answer), Spent kindOf (budget 0 0 1 0) w
      ⟨s, (listingRequest mode w.state.protocol sid, a) :: w.trace⟩ := by
    intro s a
    refine ⟨[(listingRequest mode w.state.protocol sid, a)], rfl, fun k => ?_⟩
    have hkind : kindOf (listingRequest mode w.state.protocol sid) = .listing := by
      cases mode <;> rfl
    rw [count, List.countP_singleton, hkind]
    cases k <;> decide
  refine fetchListingByMode_answered rfl ⟨?_, ?_, ?_, ?_⟩
  · exact fun l _ => ⟨hone _ _, hw⟩
  · exact fun _ _ => ⟨hone _ _, hw⟩
  · exact fun _ _ e => hone _ _
  · exact fun _ _ e => hone _ _

def probed (preferred : Option ListingMode) (modes : List ListingMode) : ℕ :=
  modes.countP fun mode => preferred ≠ some mode

theorem probeListing_spends (preferred : Option ListingMode) (modes : List ListingMode) :
    Spends kindOf Knows (budget 0 0 (probed preferred modes) 0)
      (probeListing account sid preferred modes) fun _ => Knows := by
  induction modes with
  | nil =>
      refine Spends.within (n := 0 + 0) ?_ fun _ => Nat.zero_le _
      exact (spends_update (Q := fun _ _ => True) fun _ _ => trivial).bind fun _ => spends_throw
  | cons mode modes ih =>
      rw [probeListing]
      by_cases hp : preferred = some mode
      · rw [if_pos hp]
        refine ih.within (budget_le (Nat.le_refl _) (Nat.le_refl _) ?_ (Nat.le_refl _))
        rw [probed, probed, List.countP_cons_of_neg (by simp [hp])]
      · rw [if_neg hp]
        refine Spends.within (n := budget 0 0 1 0 + budget 0 0 (probed preferred modes) 0) ?_ ?_
        · refine (fetchListingByMode_spends mode).bind fun result => ?_
          cases result with
          | none => exact ih
          | some l => exact spends_update_pure fun _ hw => hw
        · intro k
          rw [budget_add]
          refine budget_le (Nat.le_refl _) (Nat.le_refl _) ?_ (Nat.le_refl _) k
          rw [probed, probed, List.countP_cons_of_pos (by simp [hp])]
          omega

/-- Each mode is asked for once, the cached one first. -/
theorem fetchUnder_spends :
    Spends kindOf Knows (budget 0 0 2 0) (fetchUnder account sid) fun _ => Knows := by
  refine Spends.within (n := 0 + budget 0 0 2 0) ?_ fun k => by rw [zero_add]
  refine spends_read.bind fun s => ?_
  apply Spends.of_weaker (P := Knows) _ fun _ hw => hw.2
  cases hmode : s.listingMode with
  | none => exact probeListing_spends none listingProbeOrder
  | some mode =>
      have hprobed : probed (some mode) listingProbeOrder = 1 := by cases mode <;> decide
      refine Spends.within (n := budget 0 0 1 0 + (0 + budget 0 0 1 0)) ?_ fun k => ?_
      · refine (fetchListingByMode_spends mode).bind fun result => ?_
        cases result with
        | some l => exact spends_pure fun _ hw => hw
        | none =>
            refine Spends.bind (Q := fun _ => Knows) (spends_update fun _ hw => hw) fun _ => ?_
            rw [← hprobed]
            exact probeListing_spends (some mode) listingProbeOrder
      · rw [zero_add, budget_add]

end Listings

section Calls

variable {P : SessionWorld → Prop}

theorem once_spends :
    Spends kindOf P (budget 6 2 2 0) (fetchVpnConnectionsOnce account) fun _ => Knows := by
  refine Spends.within (n := budget 6 2 0 0 + budget 0 0 2 0) ?_ fun k => by rw [budget_add]
  rw [fetchVpnConnectionsOnce_eq]
  exact asyncGetSession_spends.bind fun sid => fetchUnder_spends

theorem once_knows :
    Spends kindOf Knows (budget 0 0 2 0) (fetchVpnConnectionsOnce account) fun _ => Knows := by
  refine Spends.within (n := 0 + budget 0 0 2 0) ?_ fun k => by rw [zero_add]
  rw [fetchVpnConnectionsOnce_eq]
  exact asyncGetSession_knows.bind fun sid => fetchUnder_spends

/-- A fetch that is made a second time starts from an invalidated session. -/
theorem retry_spends {n : Kind → ℕ}
    (h : Spends kindOf P n (fetchVpnConnectionsOnce account) fun _ => Knows) :
    Spends kindOf P (n + budget 6 2 2 0) (asyncGetVpnConnections account) fun _ => Knows := by
  refine h.tryCatch fun e => ?_
  split
  · refine Spends.within (n := 0 + budget 6 2 2 0) ?_ fun k => by rw [zero_add]
    exact (spends_update (Q := fun _ _ => True) fun _ _ => trivial).bind fun _ => once_spends
  · exact spends_throw

theorem asyncGetVpnConnections_spends :
    Spends kindOf P (budget 12 4 4 0) (asyncGetVpnConnections account) fun _ => Knows := by
  refine (retry_spends once_spends).within fun k => ?_
  rw [budget_add]

theorem asyncGetVpnConnections_knows :
    Spends kindOf Knows (budget 6 2 4 0) (asyncGetVpnConnections account) fun _ => Knows := by
  refine (retry_spends once_knows).within fun k => ?_
  rw [budget_add]

variable {uid : String} {enable : Bool}

theorem checkToggle_spends (response : Response) :
    Spends kindOf Knows (budget 6 2 4 0) (checkToggle account uid enable response)
      fun _ _ => True := by
  rw [checkToggle]
  split
  · exact spends_of_silent ((readText_asks _).bind fun _ => asks_pure)
  · refine Spends.within (n := budget 6 2 4 0 + 0) ?_ fun _ => Nat.le_refl _
    refine asyncGetVpnConnections_knows.bind fun connections => ?_
    split <;> exact spends_pure fun _ _ => trivial

theorem putToggle_spends {n : Kind → ℕ} {sidRetry : Option (SessionM Bool)} (vpnUid : Json)
    (hanswer : ∀ response, Spends kindOf Knows n (answerToggle account uid enable sidRetry response)
      fun _ _ => True) :
    Spends kindOf Knows (budget 0 0 0 1 + n) (putToggle account uid enable sidRetry vpnUid)
      fun _ _ => True := by
  refine Spends.within (n := 0 + (0 + (budget 0 0 0 1 + n + 0))) ?_ fun k => by
    rw [zero_add, zero_add, add_zero]
  refine asyncGetSession_knows.bind fun sid => spends_read.bind fun s => ?_
  refine Spends.of_weaker (P := Knows) ?_ fun _ hw => hw.2
  refine Spends.tryCatch ?_ fun e => spends_pure fun _ _ => trivial
  exact (send_spends (Nat.le_refl 1) fun _ _ hw => hw).bind hanswer

theorem toggleOnce_spends {n : Kind → ℕ} {sidRetry : Option (SessionM Bool)}
    (hanswer : ∀ response, Spends kindOf Knows n (answerToggle account uid enable sidRetry response)
      fun _ _ => True) :
    Spends kindOf P (budget 12 4 4 0 + (budget 0 0 0 1 + n)) (toggleOnce account uid enable sidRetry)
      fun _ _ => True := by
  refine asyncGetVpnConnections_spends.bind fun connections => ?_
  split
  · exact spends_pure fun _ _ => trivial
  · split
    · exact spends_pure fun _ _ => trivial
    · rename_i vpnUid _
      split
      · exact spends_pure fun _ _ => trivial
      · split
        · exact spends_pure fun _ _ => trivial
        · exact putToggle_spends vpnUid hanswer

/-- The second try of a toggle is the last one. -/
theorem toggleAgain_spends :
    Spends kindOf P (budget 18 6 8 1) (toggleOnce account uid enable none) fun _ _ => True := by
  refine (toggleOnce_spends fun response => checkToggle_spends response).within fun k => ?_
  rw [budget_add, budget_add]

theorem asyncToggleVpn_spends :
    Spends kindOf P (budget 30 10 12 2) (asyncToggleVpn account uid enable) fun _ _ => True := by
  refine (toggleOnce_spends (n := budget 18 6 8 1) fun response => ?_).within fun k => ?_
  · rw [answerToggle]
    split
    · refine Spends.within (n := 0 + budget 18 6 8 1) ?_ fun k => by rw [zero_add]
      exact (spends_update (Q := fun _ => Any) fun _ _ => trivial).bind fun _ => toggleAgain_spends
    · exact (checkToggle_spends response).within
        (budget_le (by omega) (by omega) (by omega) (by omega))
  · rw [budget_add, budget_add]

end Calls

inductive Call
  | fetch
  | toggle (uid : String) (enable : Bool)

def Call.budget : Call → Kind → ℕ
  | .fetch => RequestBudget.budget 12 4 4 0
  | .toggle _ _ => RequestBudget.budget 30 10 12 2

def allowance (k : Kind) : List Call → ℕ
  | [] => 0
  | c :: calls => c.budget k + allowance k calls

def perform (account : Account) (partner : Partner Request Answer) (s : Session.State) :
    Call → SessionWorld
  | .fetch => (asyncGetVpnConnections account partner ⟨s, []⟩).2
  | .toggle uid enable => (asyncToggleVpn account uid enable partner ⟨s, []⟩).2

/-- One call after the other; the box may answer each as it likes. -/
def callMachine (account : Account) :
    Machine Session.State (Call × Partner Request Answer) (List Exchange) where
  init := {}
  step s i :=
    let w := perform account i.2 s i.1
    (w.trace, w.state)

theorem perform_spends (account : Account) (partner : Partner Request Answer) (s : Session.State)
    (c : Call) (k : Kind) : count kindOf k (perform account partner s c).trace ≤ c.budget k := by
  have hspent : Spent kindOf c.budget ⟨s, []⟩ (perform account partner s c) := by
    cases c with
    | fetch =>
        have h := @asyncGetVpnConnections_spends account Any partner ⟨s, []⟩ trivial
        exact yields_world.mp (h.mono (fun _ _ hb => hb.1) fun _ _ hs => hs)
    | toggle uid enable =>
        have h := @asyncToggleVpn_spends account Any uid enable partner ⟨s, []⟩ trivial
        exact yields_world.mp (h.mono (fun _ _ hb => hb.1) fun _ _ hs => hs)
  obtain ⟨made, ht, hcount⟩ := hspent
  rw [ht, List.append_nil]
  exact hcount k

/-- Whatever the box answers, the requests of a run stay within the budgets of its calls. -/
theorem run_within_budget {account : Account}
    {hist : List (Record Session.State (Call × Partner Request Answer) (List Exchange))}
    {s : Session.State} (hrun : Run (callMachine account) hist s) (k : Kind) :
    count kindOf k (hist.flatMap (·.output)) ≤ allowance k (hist.map (·.input.1)) := by
  induction hrun with
  | start => exact Nat.le_refl _
  | @step hist s h i ih =>
      have hlast := perform_spends account i.2 s i.1 k
      rw [List.flatMap_cons, List.map_cons, allowance, count, List.countP_append]
      exact Nat.add_le_add hlast ih

/-- Two calls to boxes that do not answer as they should send at most 14 login POSTs. -/
theorem office_within_budget :
    count kindOf .login (((callMachine officeAccount).play
      [(.toggle "a" true, startingBox), (.fetch, deadBox)]).1.flatMap (·.output)) ≤ 14 :=
  run_within_budget (run_play (callMachine officeAccount) [(.toggle "a" true, startingBox),
    (.fetch, deadBox)]) .login

end FritzboxVpn.RequestBudget
