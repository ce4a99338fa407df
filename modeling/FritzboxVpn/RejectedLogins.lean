import FritzboxVpn.FailedPolls
import FritzboxVpn.RetryCause

namespace FritzboxVpn.RejectedLogins

open Constants Exceptions FailedPolls FetchErrors Interaction Interaction.Program JsonValue Listings
  OrderedDict Parsing RetryCause Session SessionRequests Text

def firstFetch (account : Account) (partner : Partner Request Answer) (s : Session.State) :
    Except PyError Listing × SessionWorld :=
  fetchVpnConnectionsOnce account partner ⟨s, []⟩

def SecondFetch (account : Account) (partner : Partner Request Answer) (s : Session.State) : Prop :=
  (fetch account partner s).2.trace ≠ (firstFetch account partner s).2.trace

structure NotRetried (account : Account) (partner : Partner Request Answer) (s : Session.State) :
    Prop where
  onlyExpired : SecondFetch account partner s →
    ∃ x ∈ (firstFetch account partner s).2.trace, sidExpired account.lib x = true
  ends : ∀ later x earlier, (fetch account partner s).2.trace = later ++ x :: earlier →
    invalidSidAnswer account.lib x = true → ∀ y ∈ later, attemptsLogin y.1 = false

/-- No login of the first fetch is rejected, nor a PBKDF2 login of the second, and
nothing from outside passes for an expired SID. -/
structure NothingRejected (account : Account) (partner : Partner Request Answer)
    (s : Session.State) : Prop where
  first : ∀ x ∈ (firstFetch account partner s).2.trace, invalidSidAnswer account.lib x = false
  pbkdf2 : ∀ x ∈ (fetch account partner s).2.trace, rejectsPbkdf2 account.lib x = false
  outside : ∀ x ∈ (firstFetch account partner s).2.trace.head?, foreign account.lib x = true →
    ∃ y ∈ (firstFetch account partner s).2.trace, sidExpired account.lib y = true

def Chased (lib : Library) (made : List Exchange) : Prop :=
  ∀ x ∈ made, rejectsPbkdf2 lib x = true → ∃ later earlier, made = later ++ x :: earlier ∧
    ∃ y ∈ later, attemptsLogin y.1 = true

def Unrejected (lib : Library) (w w' : SessionWorld) : Prop :=
  ∃ made, w'.trace = made ++ w.trace ∧ ∀ x ∈ made, invalidSidAnswer lib x = false

section Traces

variable {lib : Library} {x : Exchange} {made made' later : List Exchange} {w w' w'' : SessionWorld}

theorem made_unique (h : w'.trace = made ++ w.trace) (h' : w'.trace = made' ++ w.trace) :
    made = made' :=
  List.append_cancel_right (h.symm.trans h')

theorem Unrejected.refl (lib : Library) (w : SessionWorld) : Unrejected lib w w :=
  ⟨[], rfl, fun _ h => absurd h List.not_mem_nil⟩

theorem Unrejected.trans (h : Unrejected lib w w') (h' : Unrejected lib w' w'') :
    Unrejected lib w w'' := by
  obtain ⟨made, ht, hno⟩ := h
  obtain ⟨made', ht', hno'⟩ := h'
  refine ⟨made' ++ made, by rw [ht', ht, List.append_assoc], ?_⟩
  intro x hx
  rcases List.mem_append.mp hx with hx | hx
  · exact hno' x hx
  · exact hno x hx

theorem unrejected_of_pages (h : Adds (fun r => isLoginPage r = true) w w') : Unrejected lib w w' := by
  obtain ⟨made, ht, hpages⟩ := h
  refine ⟨made, ht, ?_⟩
  rintro ⟨r, a⟩ hx
  have hpage := hpages _ hx
  cases r <;> first | rfl | cases hpage

theorem rejects_of_unrejected (h : invalidSidAnswer lib x = false) :
    rejectsMd5 lib x = false ∧ rejectsPbkdf2 lib x = false := by
  rw [rejectsMd5, rejectsPbkdf2, h, Bool.and_false, Bool.and_false]
  exact ⟨rfl, rfl⟩

theorem rejected_version (h : invalidSidAnswer lib x = true) (hp : rejectsPbkdf2 lib x = false) :
    rejectsMd5 lib x = true := by
  obtain ⟨r, a⟩ := x
  rw [rejectsPbkdf2, h, Bool.and_true] at hp
  rw [rejectsMd5, h, Bool.and_true]
  cases r with
  | login protocol version2 username response =>
      cases version2
      · rfl
      · cases hp
  | _ => cases a <;> cases h

theorem Chased.append (h : Chased lib made) (hlater : ∀ x ∈ later, rejectsPbkdf2 lib x = false) :
    Chased lib (later ++ made) := by
  intro x hx hr
  rcases List.mem_append.mp hx with hx | hx
  · rw [hlater x hx] at hr
    cases hr
  · obtain ⟨between, earlier, rfl, y, hy, hlogin⟩ := h x hx hr
    exact ⟨later ++ between, earlier, by rw [List.append_assoc], y, List.mem_append_right _ hy, hlogin⟩

theorem chased_of_login (hlogin : ∃ y ∈ later, attemptsLogin y.1 = true)
    (hlater : ∀ x ∈ later, rejectsPbkdf2 lib x = false) : Chased lib (later ++ made) := by
  intro x hx hr
  rcases List.mem_append.mp hx with hx | hx
  · rw [hlater x hx] at hr
    cases hr
  · obtain ⟨between, earlier, rfl⟩ := List.append_of_mem hx
    obtain ⟨y, hy, hy'⟩ := hlogin
    exact ⟨later ++ between, earlier, by rw [List.append_assoc], y, List.mem_append_left _ hy, hy'⟩

theorem chased_append_both (h : Chased lib made) (h' : Chased lib made') :
    Chased lib (made' ++ made) := by
  intro x hx hr
  rcases List.mem_append.mp hx with hx | hx
  · obtain ⟨between, earlier, rfl, hy⟩ := h' x hx hr
    exact ⟨between, earlier ++ made, by rw [List.append_assoc, List.cons_append], hy⟩
  · obtain ⟨between, earlier, rfl, y, hy, hlogin⟩ := h x hx hr
    exact ⟨made' ++ between, earlier, by rw [List.append_assoc], y, List.mem_append_right _ hy, hlogin⟩

end Traces

section Logins

variable {account : Account} {partner : Partner Request Answer} {w : SessionWorld}

theorem fetchLoginPage_unrejected (v : Bool) :
    Yields partner w (fetchLoginPage account v) (fun _ w' => Unrejected account.lib w w')
      (fun _ w' => Unrejected account.lib w w') := by
  have hasks : Asks (fun r => isLoginPage r = true) (fetchLoginPage account v) :=
    fetchLoginPage_asks (fun _ => rfl) rfl
  exact hasks.yields.mono (fun _ _ h => unrejected_of_pages h) fun _ _ h => unrejected_of_pages h

theorem posted_yields {r : Request} {β : Type} {p : Response → SessionM β}
    {ok : β → SessionWorld → Prop} {rejected : SessionWorld → Prop}
    (hok : ∀ response, Yields partner ⟨w.state, (r, .ok response) :: w.trace⟩ (p response) ok
      (fun _ w' => w' = ⟨w.state, (r, .ok response) :: w.trace⟩ ∧
        invalidSidAnswer account.lib (r, .ok response) = false))
    (herr : ∀ s a, invalidSidAnswer account.lib (r, a) = false → rejected ⟨s, (r, a) :: w.trace⟩)
    (herror : ∀ e : TransportError, invalidSidAnswer account.lib (r, .error e) = false) :
    Yields partner w (tryCatch (send r >>= p) (handleLoginError account)) ok
      (fun _ w' => rejected w') := by
  have caught : ∀ a e, invalidSidAnswer account.lib (r, a) = false →
      Yields partner ⟨w.state, (r, a) :: w.trace⟩ (handleLoginError account e) ok
        (fun _ w' => rejected w') := by
    intro a e hno
    rw [handleLoginError]
    split
    · exact yields_throw.mpr (herr _ _ hno)
    · split
      · rw [raiseTransportError, yields_bind, yields_update, yields_throw]
        exact herr _ _ hno
      · exact yields_throw.mpr (herr _ _ hno)
  rw [yields_tryCatch, yields_bind]
  apply send_yields
  · intro response
    refine (hok response).mono (fun _ _ h => h) ?_
    rintro e _ ⟨rfl, hno⟩
    exact caught _ e hno
  · exact fun e => caught _ e.val (herror e)

def Posted (lib : Library) (sid : Option String) (w w' : SessionWorld) : Prop :=
  ∃ x, w'.trace = x :: w.trace ∧ (sid ≠ none → invalidSidAnswer lib x = false)

theorem unrejected_of_posted {sid : Option String} {w' : SessionWorld}
    (h : Posted account.lib sid w w') (hsid : sid ≠ none) : Unrejected account.lib w w' := by
  obtain ⟨x, hw, hx⟩ := h
  refine ⟨[x], hw, fun y hy => ?_⟩
  rw [List.mem_singleton.mp hy]
  exact hx hsid

theorem unrejected_of_one {r : Request} {a : Answer} {s : Session.State}
    (h : invalidSidAnswer account.lib (r, a) = false) :
    Unrejected account.lib w ⟨s, (r, a) :: w.trace⟩ := by
  refine ⟨[(r, a)], rfl, fun y hy => ?_⟩
  rw [List.mem_singleton.mp hy]
  exact h

theorem invalidSidAnswer_of_content {r : Request} {response : Response} {content : String}
    (hb : response.body = .ok content) (hv : validSid account.lib content ≠ none) :
    invalidSidAnswer account.lib (r, .ok response) = false := by
  have hsome : (validSid account.lib content).isNone = false := by
    rw [Option.isNone_eq_false_iff]
    exact Option.isSome_iff_ne_none.mpr hv
  cases r <;> simp [invalidSidAnswer, hb, hsome]

theorem invalidSidAnswer_of_status {r : Request} {response : Response}
    (hs : response.status ≠ httpStatusOk) :
    invalidSidAnswer account.lib (r, .ok response) = false := by
  cases r <;> simp [invalidSidAnswer, hs]

theorem invalidSidAnswer_of_body {r : Request} {response : Response} {e : TransportError}
    (hb : response.body = .error e) : invalidSidAnswer account.lib (r, .ok response) = false := by
  cases r <;> simp [invalidSidAnswer, hb]

theorem postPbkdf2_posted (response : String) :
    Yields partner w (postPbkdf2 account response)
      (fun content w' => Posted account.lib (content.bind (validSid account.lib)) w w')
      (fun _ w' => Unrejected account.lib w w') := by
  rw [postPbkdf2, yields_bind, yields_read]
  refine posted_yields ?_ (fun _ _ h => unrejected_of_one h) fun _ => rfl
  intro answered
  by_cases hs : answered.status = httpStatusOk
  · rw [if_neg (not_not.mpr hs), yields_bind]
    refine readText_yields (fun content hb => yields_pure.mpr ⟨_, rfl, fun hv => ?_⟩) fun e hb => ?_
    · exact invalidSidAnswer_of_content hb hv
    · exact ⟨rfl, invalidSidAnswer_of_body hb⟩
  · rw [if_pos hs, yields_pure]
    exact ⟨_, rfl, fun h => absurd rfl h⟩

theorem postMd5_posted (response : String) :
    Yields partner w (postMd5 account response)
      (fun content w' => Posted account.lib (validSid account.lib content) w w')
      (fun _ w' => Unrejected account.lib w w') := by
  rw [postMd5, yields_bind, yields_read]
  refine posted_yields ?_ (fun _ _ h => unrejected_of_one h) fun _ => rfl
  intro answered
  by_cases hs : answered.status = httpStatusOk
  · rw [if_neg (not_not.mpr hs)]
    refine readText_yields (fun content hb => ⟨_, rfl, fun hv => ?_⟩) fun e hb => ?_
    · exact invalidSidAnswer_of_content hb hv
    · exact ⟨rfl, invalidSidAnswer_of_body hb⟩
  · rw [if_pos hs, yields_throw]
    exact ⟨rfl, invalidSidAnswer_of_status hs⟩

/-- A PBKDF2 login that brings a SID or fails was not rejected. -/
theorem pbkdf2With_unrejected (content : String) :
    Yields partner w (pbkdf2With account content)
      (fun sid w' => sid ≠ none → Unrejected account.lib w w')
      (fun _ w' => Unrejected account.lib w w') := by
  rw [pbkdf2With]
  by_cases hc : content = ""
  · rw [if_pos hc, yields_pure]
    exact fun h => absurd rfl h
  rw [if_neg hc]
  cases parseChallengeFromLoginXml account.lib.parseXml content with
  | none => exact yields_pure.mpr fun h => absurd rfl h
  | some challenge =>
      by_cases h2 : startsWith "2$" challenge = false
      · simp only [if_pos h2, yields_pure]
        exact fun h => absurd rfl h
      simp only [if_neg h2, yields_bind]
      have hnone : Asks (fun _ => False) (waitBlocktime account.lib content) := waitBlocktime_asks _ _
      have unchanged : ∀ w', Adds (fun _ : Request => False) w w' → Unrejected account.lib w w' := by
        rintro w' ⟨made, ht, hmade⟩
        exact ⟨made, ht, fun x hx => (hmade x hx).elim⟩
      refine hnone.yields.mono (fun _ w' hw' => ?_) fun _ w' hw' => unchanged w' hw'
      rw [yields_ended]
      cases calculatePbkdf2Response account.lib challenge account.password with
      | error e => exact unchanged w' hw'
      | ok response =>
          refine (postPbkdf2_posted response).mono ?_ fun _ _ h => (unchanged w' hw').trans h
          intro content w'' h
          exact yields_pure.mpr fun hsid => (unchanged w' hw').trans (unrejected_of_posted h hsid)

theorem pbkdf2OrNone_unrejected :
    Yields partner w (pbkdf2OrNone account)
      (fun sid w' => sid ≠ none → Unrejected account.lib w w')
      (fun _ w' => Unrejected account.lib w w') := by
  have hcaught : ∀ e w', Unrejected account.lib w w' → Yields partner w'
      (if e.isValueError then pure none else throw e : SessionM (Option String))
      (fun sid w' => sid ≠ none → Unrejected account.lib w w')
      (fun _ w' => Unrejected account.lib w w') := by
    intro e w' h
    split
    · exact yields_pure.mpr fun h => absurd rfl h
    · exact yields_throw.mpr h
  rw [pbkdf2OrNone, yields_tryCatch]
  change Yields partner w (fetchLoginPage account true >>= pbkdf2With account) _ _
  rw [yields_bind]
  refine (fetchLoginPage_unrejected true).mono ?_ hcaught
  intro content w' h
  exact (pbkdf2With_unrejected content).mono (fun _ _ h' hsid => h.trans (h' hsid))
    fun e w'' h' => hcaught e w'' (h.trans h')

def LastRejected (lib : Library) (w w' : SessionWorld) : Prop :=
  ∃ made, w'.trace = made ++ w.trace ∧ ∀ x ∈ made.tail, invalidSidAnswer lib x = false

theorem lastRejected_of_unrejected {lib : Library} {w' : SessionWorld} (h : Unrejected lib w w') :
    LastRejected lib w w' := by
  obtain ⟨made, ht, hno⟩ := h
  exact ⟨made, ht, fun x hx => hno x (List.mem_of_mem_tail hx)⟩

theorem md5With_unrejected (content : String) :
    Yields partner w (md5With account content) (fun _ w' => Unrejected account.lib w w')
      (fun _ w' => LastRejected account.lib w w') := by
  have here := lastRejected_of_unrejected (Unrejected.refl account.lib w)
  rw [md5With]
  by_cases hc : content = ""
  · rw [if_pos hc, yields_throw]
    exact here
  rw [if_neg hc]
  by_cases hch : (parseChallengeFromLoginXml account.lib.parseXml content).getD "" = ""
  · rw [if_pos hch, yields_throw]
    exact here
  rw [if_neg hch, yields_bind]
  refine (postMd5_posted _).mono ?_ fun _ _ h => lastRejected_of_unrejected h
  intro content w' h
  cases hv : validSid account.lib content with
  | some sid =>
      rw [hv] at h
      simp only [yields_bind, yields_update, yields_pure]
      exact unrejected_of_posted h (by simp)
  | none =>
      obtain ⟨x, hw, _⟩ := h
      rw [yields_throw]
      exact ⟨[x], hw, fun y hy => absurd hy List.not_mem_nil⟩

theorem loginViaMd5_unrejected :
    Yields partner w (loginViaMd5 account) (fun _ w' => Unrejected account.lib w w')
      (fun _ w' => LastRejected account.lib w w') := by
  rw [loginViaMd5_eq, yields_bind, md5Page, yields_tryCatch]
  refine (fetchLoginPage_unrejected false).mono ?_ ?_
  · intro content w' h
    refine (md5With_unrejected content).mono (fun _ _ h' => h.trans h') ?_
    rintro e w'' ⟨made', ht', hno'⟩
    obtain ⟨made, ht, hno⟩ := h
    refine ⟨made' ++ made, by rw [ht', ht, List.append_assoc], fun x hx => ?_⟩
    cases made' with
    | nil => exact hno x (List.mem_of_mem_tail hx)
    | cons y made' =>
        rcases List.mem_append.mp hx with hx | hx
        · exact hno' x hx
        · exact hno x hx
  · intro e w' h
    split <;> exact yields_throw.mpr (lastRejected_of_unrejected h)

def Tidy (lib : Library) (w w' : SessionWorld) : Prop :=
  ∃ made, w'.trace = made ++ w.trace ∧ Chased lib made ∧ ∀ x ∈ made, rejectsMd5 lib x = false

def TidyButLast (lib : Library) (w w' : SessionWorld) : Prop :=
  ∃ made, w'.trace = made ++ w.trace ∧ Chased lib made ∧ ∀ x ∈ made.tail, rejectsMd5 lib x = false

theorem chased_of_unrejected {made : List Exchange}
    (h : ∀ x ∈ made, rejectsPbkdf2 account.lib x = false) : Chased account.lib made := by
  intro x hx hr
  rw [h x hx] at hr
  cases hr

theorem Tidy.butLast {w' : SessionWorld} (h : Tidy account.lib w w') :
    TidyButLast account.lib w w' := by
  obtain ⟨made, ht, hchased, hno⟩ := h
  exact ⟨made, ht, hchased, fun x hx => hno x (List.mem_of_mem_tail hx)⟩

theorem tidy_of_unrejected {w' : SessionWorld} (h : Unrejected account.lib w w') :
    Tidy account.lib w w' := by
  obtain ⟨made, ht, hno⟩ := h
  exact ⟨made, ht, chased_of_unrejected fun x hx => (rejects_of_unrejected (hno x hx)).2,
    fun x hx => (rejects_of_unrejected (hno x hx)).1⟩

theorem rejectsPbkdf2_of_version {x : Exchange} (h : ofVersion false x.1 = true) :
    rejectsPbkdf2 account.lib x = false := by
  obtain ⟨r, a⟩ := x
  cases r with
  | login protocol version2 username response => cases version2 <;> first | rfl | cases h
  | _ => cases a <;> exact Bool.and_false _

theorem rejectsMd5_of_version {x : Exchange} (h : ofVersion true x.1 = true) :
    rejectsMd5 account.lib x = false := by
  obtain ⟨r, a⟩ := x
  cases r with
  | login protocol version2 username response => cases version2 <;> first | rfl | cases h
  | _ => cases a <;> exact Bool.and_false _

theorem loginViaMd5_tidy {before : SessionWorld}
    (h : Adds (fun r => ofVersion true r = true) before w) :
    Yields partner w (loginViaMd5 account) (fun _ w' => Tidy account.lib before w')
      (fun _ w' => TidyButLast account.lib before w') := by
  obtain ⟨made, ht, hmade⟩ := h
  have hopens : ∀ w', (∃ later a, w'.trace = later ++
      (.loginPage w.state.protocol false, a) :: w.trace) →
      Adds (fun r => ofVersion false r = true) w w' → ∃ later, w'.trace = later ++ w.trace ∧
        later ≠ [] ∧ Chased account.lib (later ++ made) ∧
        ∀ x ∈ made, rejectsMd5 account.lib x = false := by
    rintro w' ⟨later, a, hlater⟩ ⟨later', hlater', hversion⟩
    rw [← List.singleton_append, ← List.append_assoc] at hlater
    have heq := made_unique hlater hlater'
    have hlogin : ∃ y ∈ later', attemptsLogin y.1 = true := by
      refine ⟨(.loginPage w.state.protocol false, a), ?_, rfl⟩
      rw [← heq]
      exact List.mem_append_right _ List.mem_cons_self
    refine ⟨later', hlater', ?_, chased_of_login hlogin fun x hx => ?_, fun x hx => ?_⟩
    · rw [← heq]
      simp
    · exact rejectsPbkdf2_of_version (hversion x hx)
    · exact rejectsMd5_of_version (hmade x hx)
  have hasks : Asks (fun r => ofVersion false r = true) (loginViaMd5 account) :=
    loginViaMd5_asks fun _ h => h
  refine ((loginViaMd5_opens.yields.and hasks.yields).and loginViaMd5_unrejected).mono ?_ ?_
  · rintro sid w' ⟨⟨ho, ha⟩, later', hlater', hno⟩
    obtain ⟨later, hlater, _, hchased, hmd5⟩ := hopens w' ho ha
    cases made_unique hlater hlater'
    refine ⟨later' ++ made, by rw [hlater, ht, List.append_assoc], hchased, fun x hx => ?_⟩
    rcases List.mem_append.mp hx with hx | hx
    · exact (rejects_of_unrejected (hno x hx)).1
    · exact hmd5 x hx
  · rintro e w' ⟨⟨ho, ha⟩, later', hlater', hno⟩
    obtain ⟨later, hlater, hne, hchased, hmd5⟩ := hopens w' ho ha
    cases made_unique hlater hlater'
    refine ⟨later' ++ made, by rw [hlater, ht, List.append_assoc], hchased, fun x hx => ?_⟩
    rw [List.tail_append_of_ne_nil hne] at hx
    rcases List.mem_append.mp hx with hx | hx
    · exact (rejects_of_unrejected (hno x hx)).1
    · exact hmd5 x hx

theorem asyncGetSession_tidy :
    Yields partner w (asyncGetSession account) (fun _ w' => Tidy account.lib w w')
      (fun _ w' => TidyButLast account.lib w w') := by
  rw [asyncGetSession_eq, yields_bind, yields_read]
  cases w.state.sid with
  | some sid => exact yields_pure.mpr (tidy_of_unrejected (.refl _ w))
  | none =>
      have hasks : Asks (fun r => ofVersion true r = true) (pbkdf2OrNone account) :=
        pbkdf2OrNone_asks fun _ h => h
      simp only [login, yields_bind]
      refine (hasks.yields.and pbkdf2OrNone_unrejected).mono ?_ ?_
      · rintro sid w' ⟨hadds, hno⟩
        cases sid with
        | some sid =>
            rw [keepOrLoginViaMd5, yields_bind, yields_update, yields_pure]
            exact tidy_of_unrejected (hno (by simp))
        | none => exact loginViaMd5_tidy hadds
      · exact fun e w' h => (tidy_of_unrejected h.2).butLast

theorem Tidy.append_listings {w' w'' : SessionWorld} (h : Tidy account.lib w w')
    (hadds : Adds (fun r => isListing r = true) w' w'') : Tidy account.lib w w'' := by
  obtain ⟨made, ht, hchased, hno⟩ := h
  obtain ⟨later, ht', hlater⟩ := hadds
  have hrejects : ∀ x ∈ later, invalidSidAnswer account.lib x = false :=
    fun x hx => listing_invalidSid (hlater x hx)
  refine ⟨later ++ made, by rw [ht', ht, List.append_assoc], hchased.append fun x hx => ?_,
    fun x hx => ?_⟩
  · exact (rejects_of_unrejected (hrejects x hx)).2
  · rcases List.mem_append.mp hx with hx | hx
    · exact (rejects_of_unrejected (hrejects x hx)).1
    · exact hno x hx

theorem fetchVpnConnectionsOnce_tidy :
    Yields partner w (fetchVpnConnectionsOnce account) (fun _ w' => Tidy account.lib w w')
      (fun _ w' => TidyButLast account.lib w w') := by
  rw [fetchVpnConnectionsOnce_eq, yields_bind]
  refine asyncGetSession_tidy.mono ?_ fun _ _ h => h
  intro sid w' h
  have hasks : Asks (fun r => isListing r = true) (fetchUnder account sid) :=
    fetchUnder_asks (fun _ h => h) sid
  exact hasks.yields.mono (fun _ _ h' => h.append_listings h') fun _ _ h' =>
    (h.append_listings h').butLast

end Logins

section Calls

variable {account : Account} {partner : Partner Request Answer} {s : Session.State} {e : PyError}
  {w : SessionWorld}

theorem fetch_of_ok {l : Listing} (h : firstFetch account partner s = (.ok l, w)) :
    fetch account partner s = (.ok l, w) :=
  tryCatch_of_ok h

theorem fetch_of_error (h : firstFetch account partner s = (.error e, w)) :
    fetch account partner s = if namesInvalidSid e then
      fetchVpnConnectionsOnce account partner ⟨invalidateSession w.state, w.trace⟩
    else (.error e, w) := by
  refine (tryCatch_of_error h).trans ?_
  change (if namesInvalidSid e then _ else _ : SessionM Listing) partner w = _
  split <;> rfl

theorem second_yields (hn : namesInvalidSid e = true)
    (h : firstFetch account partner s = (.error e, w)) :
    ∃ made, (fetch account partner s).2.trace = made ++ w.trace ∧
      (∃ y ∈ made, attemptsLogin y.1 = true) ∧ Chased account.lib made ∧
      ∀ x ∈ made.tail, rejectsMd5 account.lib x = false := by
  have hsecond : fetch account partner s =
      fetchVpnConnectionsOnce account partner ⟨invalidateSession w.state, w.trace⟩ := by
    rw [fetch_of_error h, if_pos hn]
  have hopens : Opens (.loginPage .https true) (fetchVpnConnectionsOnce account)
      ⟨invalidateSession w.state, w.trace⟩ :=
    Opens.bind (S := fun _ => True) (asyncGetSession_opens rfl) fun sid =>
      fetchUnder_asks (fun _ _ => trivial) sid
  obtain ⟨later, a, hlater⟩ := hopens partner
  have htidy : TidyButLast account.lib ⟨invalidateSession w.state, w.trace⟩
      (fetchVpnConnectionsOnce account partner ⟨invalidateSession w.state, w.trace⟩).2 :=
    yields_world.mp (fetchVpnConnectionsOnce_tidy.mono (fun _ _ h => h.butLast) fun _ _ h => h)
  obtain ⟨made, ht, hchased, hno⟩ := htidy
  rw [← List.singleton_append, ← List.append_assoc] at hlater
  have heq := made_unique hlater ht
  refine ⟨made, by rw [hsecond, ht], ⟨(.loginPage .https true, a), ?_, rfl⟩, hchased, hno⟩
  rw [← heq]
  exact List.mem_append_right _ List.mem_cons_self

theorem first_error (h : firstFetch account partner s = (.error e, w)) :
    Traced account.lib e w ∧ Chased account.lib w.trace ∧
      ∀ x ∈ w.trace.tail, rejectsMd5 account.lib x = false := by
  have hboth := (fetchVpnConnectionsOnce_traced.and fetchVpnConnectionsOnce_tidy).error h
  obtain ⟨htraced, made, ht, hchased, hno⟩ := hboth
  rw [List.append_nil] at ht
  rw [ht]
  exact ⟨htraced, hchased, hno⟩

theorem first_ok {l : Listing} (h : firstFetch account partner s = (.ok l, w)) :
    FetchedLast account.lib l w ∧ Chased account.lib w.trace ∧
      ∀ x ∈ w.trace, rejectsMd5 account.lib x = false := by
  have hboth := (fetchVpnConnectionsOnce_fetches.and fetchVpnConnectionsOnce_tidy).value h
  obtain ⟨hfetched, made, ht, hchased, hno⟩ := hboth
  rw [List.append_nil] at ht
  rw [ht]
  exact ⟨hfetched, hchased, hno⟩

theorem invalid_of_rejects {lib : Library} {x : Exchange}
    (h : rejectsMd5 lib x = true ∨ rejectsPbkdf2 lib x = true) : invalidSidAnswer lib x = true := by
  rcases h with h | h <;> exact (Bool.and_eq_true_iff.mp h).2

theorem NotRetried.pbkdf2 (h : NotRetried account partner s)
    (hchased : Chased account.lib (fetch account partner s).2.trace) :
    ∀ x ∈ (fetch account partner s).2.trace, rejectsPbkdf2 account.lib x = false := by
  intro x hx
  by_contra hr
  rw [Bool.not_eq_false] at hr
  obtain ⟨later, earlier, ht, y, hy, hlogin⟩ := hchased x hx hr
  rw [h.ends later x earlier ht (invalid_of_rejects (Or.inr hr)) y hy] at hlogin
  cases hlogin

theorem outsideError_of_listing {lib : Library} {x : Exchange} {l : Listing}
    (h : listingOf lib x = some l) : outsideError lib x = none := by
  obtain ⟨mode, _, hs⟩ := Option.bind_eq_some_iff.mp h
  obtain ⟨document, hd, _⟩ := Option.bind_eq_some_iff.mp hs
  obtain ⟨r, e | response⟩ := x
  · cases hd
  · rw [jsonBody] at hd
    split at hd
    · obtain ⟨content, hb, hl⟩ := Option.bind_eq_some_iff.mp hd
      have hcontent : response.body = .ok content := by
        cases hbody : response.body with
        | error e => rw [hbody] at hb; cases hb
        | ok content' => rw [hbody] at hb; cases hb; rfl
      rw [outsideError, transportError_of_body hcontent, Option.none_or, loadsError]
      split
      · rw [hcontent]
        cases hload : lib.loads content with
        | ok v => simp only [hload]
        | error e => simp only [hload, Except.toOption] at hl; cases hl
      · rfl
    · cases hd

/-- A call with one fetch, which brought a listing or an error of another kind. -/
theorem notRetried_of_one (hsame : (fetch account partner s).2 = (firstFetch account partner s).2)
    (hchased : Chased account.lib (firstFetch account partner s).2.trace)
    (hmd5 : ∀ x ∈ (firstFetch account partner s).2.trace, rejectsMd5 account.lib x = false)
    (houtside : ∀ x ∈ (firstFetch account partner s).2.trace.head?, foreign account.lib x = false) :
    NotRetried account partner s ↔ NothingRejected account partner s := by
  constructor
  · intro h
    have hpbkdf2 := h.pbkdf2 (hsame ▸ hchased)
    refine ⟨fun x hx => ?_, hpbkdf2, fun x hx hf => ?_⟩
    · by_contra hr
      rw [Bool.not_eq_false] at hr
      have hyes := rejected_version hr (hpbkdf2 x (hsame ▸ hx))
      rw [hmd5 x hx] at hyes
      cases hyes
    · rw [houtside x hx] at hf
      cases hf
  · intro h
    refine ⟨fun hsecond => absurd (congrArg World.trace hsame) hsecond, ?_⟩
    intro later x earlier ht hr
    have hx : x ∈ (firstFetch account partner s).2.trace := by
      rw [← hsame, ht]
      exact List.mem_append_right _ List.mem_cons_self
    rw [h.first x hx] at hr
    cases hr

theorem secondFetch_of_names (hn : namesInvalidSid e = true)
    (hf : firstFetch account partner s = (.error e, w)) : SecondFetch account partner s := by
  obtain ⟨made, ht, ⟨y, hy, _⟩, _⟩ := second_yields hn hf
  intro heq
  rw [ht, hf, List.append_left_eq_self] at heq
  rw [heq] at hy
  exact List.not_mem_nil hy

/-- With no login rejected before, what named the session invalid was an expiry. -/
theorem onlyExpired_of_named (hn : namesInvalidSid e = true)
    (hf : firstFetch account partner s = (.error e, w)) (h : NothingRejected account partner s) :
    ∃ x ∈ (firstFetch account partner s).2.trace, sidExpired account.lib x = true := by
  obtain ⟨⟨z, rest, hw, hblames⟩, -⟩ := first_error hf
  have hfirst : (firstFetch account partner s).2.trace = z :: rest := by rw [hf, hw]
  have hz : z ∈ (firstFetch account partner s).2.trace := hfirst ▸ List.mem_cons_self
  rw [hn] at hblames
  have hcause := hblames.symm
  rw [blames, Bool.or_eq_true, Bool.or_eq_true] at hcause
  rcases hcause with (hcause | hcause) | hcause
  · have hinvalid := invalid_of_rejects (Or.inl hcause)
    rw [h.first z hz] at hinvalid
    cases hinvalid
  · refine ⟨z, hz, ?_⟩
    by_contra hno
    rw [raisesExpired_of_not_expired (Bool.eq_false_iff.mpr hno)] at hcause
    cases hcause
  · exact h.outside z (by rw [hfirst]; rfl) hcause

/-- A rejected login lies in the second fetch, and there it is the last exchange. -/
theorem rejected_isLast (hn : namesInvalidSid e = true)
    (hf : firstFetch account partner s = (.error e, w)) (h : NothingRejected account partner s)
    {later earlier : List Exchange} {x : Exchange}
    (hsplit : (fetch account partner s).2.trace = later ++ x :: earlier)
    (hr : invalidSidAnswer account.lib x = true) : later = [] := by
  obtain ⟨made, ht, -, -, hmd5⟩ := second_yields hn hf
  have hnot : x ∉ w.trace := by
    intro hx
    rw [h.first x (by rw [hf]; exact hx)] at hr
    cases hr
  have hx : x ∈ (fetch account partner s).2.trace := by
    rw [hsplit]
    exact List.mem_append_right _ List.mem_cons_self
  have hversion := rejected_version hr (h.pbkdf2 x hx)
  rw [ht, List.append_eq_append_iff] at hsplit
  rcases hsplit with ⟨between, rfl, hw'⟩ | ⟨between, hmade, hw'⟩
  · exact absurd (hw' ▸ List.mem_append_right _ List.mem_cons_self) hnot
  · cases between with
    | nil =>
        rw [List.nil_append] at hw'
        exact absurd (hw' ▸ List.mem_cons_self) hnot
    | cons x' between =>
        obtain ⟨rfl, -⟩ := List.cons.inj hw'
        cases later with
        | nil => rfl
        | cons z' later =>
            rw [hmade] at hmd5
            rw [hmd5 x (List.mem_append_right _ List.mem_cons_self)] at hversion
            cases hversion

theorem notRetried_of_two (hn : namesInvalidSid e = true)
    (hf : firstFetch account partner s = (.error e, w)) :
    NotRetried account partner s ↔ NothingRejected account partner s := by
  constructor
  · intro h
    obtain ⟨made, ht, ⟨y, hy, hlogin⟩, hchased, -⟩ := second_yields hn hf
    obtain ⟨-, hchased', -⟩ := first_error hf
    have hsecond := secondFetch_of_names hn hf
    refine ⟨fun x hx => ?_, h.pbkdf2 (ht ▸ chased_append_both hchased' hchased),
      fun _ _ _ => h.onlyExpired hsecond⟩
    by_contra hr
    rw [Bool.not_eq_false] at hr
    rw [hf] at hx
    obtain ⟨between, earlier, hsplit⟩ := List.append_of_mem hx
    have hends := h.ends (made ++ between) x earlier (by rw [ht, hsplit, List.append_assoc]) hr y
      (List.mem_append_left _ hy)
    rw [hends] at hlogin
    cases hlogin
  · intro h
    refine ⟨fun _ => onlyExpired_of_named hn hf h, fun later x earlier hsplit hr => ?_⟩
    rw [rejected_isLast hn hf h hsplit hr]
    exact fun _ hy => absurd hy List.not_mem_nil

end Calls

/-- Rejected credentials are not retried exactly when the first fetch has none and
the second one, if there is one, only those of an MD5 login. -/
theorem notRetried_iff_nothingRejected (account : Account) (partner : Partner Request Answer)
    (s : Session.State) : NotRetried account partner s ↔ NothingRejected account partner s := by
  rcases hf : firstFetch account partner s with ⟨e | l, w⟩
  · by_cases hn : namesInvalidSid e = true
    · exact notRetried_of_two hn hf
    · obtain ⟨⟨z, rest, hw, hblames⟩, hchased, hmd5⟩ := first_error hf
      rw [Bool.eq_false_iff.mpr hn] at hblames
      have hnone := hblames.symm
      rw [blames, Bool.or_eq_false_iff, Bool.or_eq_false_iff] at hnone
      refine notRetried_of_one (by rw [fetch_of_error hf, if_neg hn, hf]) (by rw [hf]; exact hchased)
        (fun x hx => ?_) fun x hx => ?_
      · rw [hf, hw] at hx
        rcases List.mem_cons.mp hx with rfl | hx
        · exact hnone.1.1
        · exact hmd5 x (by rw [hw]; exact hx)
      · rw [hf, hw, List.head?_cons, Option.mem_some_iff] at hx
        exact hx ▸ hnone.2
  · obtain ⟨⟨z, rest, hw, hlisted⟩, hchased, hmd5⟩ := first_ok hf
    refine notRetried_of_one (by rw [fetch_of_ok hf, hf]) (by rw [hf]; exact hchased)
      (by rw [hf]; exact hmd5) fun x hx => ?_
    rw [hf, hw, List.head?_cons, Option.mem_some_iff] at hx
    rw [← hx, foreign, outsideError_of_listing hlisted]
    rfl

def rejectingBox : Partner Request Answer
  | _, .login _ _ _ _ => .ok ⟨200, "text/xml", .ok
      "<SessionInfo><SID>0000000000000000</SID></SessionInfo>"⟩
  | _, _ => .ok ⟨200, "text/xml", .ok "<SessionInfo><Challenge>1234567z</Challenge></SessionInfo>"⟩

theorem rejectingBox_first : ∃ e w, firstFetch officeAccount rejectingBox {} = (.error e, w) ∧
    namesInvalidSid e = true := by
  have hfails : (firstFetch officeAccount rejectingBox {}).1.toBool = false := by decide +kernel
  have hlast : (firstFetch officeAccount rejectingBox {}).2.trace.head?.all (blames flatLibrary) =
      true := by
    decide +kernel
  rcases hf : firstFetch officeAccount rejectingBox {} with ⟨e | l, w⟩
  · obtain ⟨⟨x, rest, hw, hblames⟩, -⟩ := first_error hf
    rw [hf, hw, List.head?_cons, Option.all_some] at hlast
    exact ⟨e, w, rfl, hblames.trans hlast⟩
  · rw [hf] at hfails
    cases hfails

theorem rejectingBox_secondFetch : SecondFetch officeAccount rejectingBox {} := by
  obtain ⟨e, w, hf, hn⟩ := rejectingBox_first
  exact secondFetch_of_names hn hf

/-- The rejected MD5 login starts a second fetch, though no listing was asked for. -/
theorem rejectingBox_retried : ¬NotRetried officeAccount rejectingBox {} := by
  intro h
  obtain ⟨x, hx, he⟩ := h.onlyExpired rejectingBox_secondFetch
  have hnone : (firstFetch officeAccount rejectingBox {}).2.trace.all
      (fun x => !sidExpired flatLibrary x) = true := by
    decide +kernel
  have hno := List.all_eq_true.mp hnone x hx
  change sidExpired flatLibrary x = true at he
  rw [he] at hno
  cases hno

end FritzboxVpn.RejectedLogins
