import FritzboxVpn.LoginRace
import FritzboxVpn.SharedInvariants

namespace FritzboxVpn.SessionIds

open Constants Exceptions FetchErrors JsonValue LoginRace OrderedDict Parsing Pools Runs SessionTasks
  SharedInvariants Tasks Tasks.Task
open ListingFallback (jsonAccount jsonLibrary)
open Session (Account Answer Library ListingMode Protocol Request Response State calculatePbkdf2Response
  cannotConnect dataLuaConnections invalidateSession isJson isTransport listingProbeOrder loginPageError
  md5Response restConnections validSid)

def Known (lib : Library) (start : Option String) (said : List Exchange) (sid : String) : Prop :=
  start = some sid ∨ sid ∈ obtainedSids lib said

theorem Known.later {lib : Library} {start : Option String} {said later : List Exchange} {sid : String}
    (h : Known lib start said sid) (hsub : said ⊆ later) : Known lib start later sid := by
  rcases h with h | h
  · exact Or.inl h
  · obtain ⟨x, hx, hsid⟩ := List.mem_filterMap.mp h
    exact Or.inr (List.mem_filterMap.mpr ⟨x, hsub hx, hsid⟩)

def sidInvariant (lib : Library) (start : Option String) : Invariant State Request Answer where
  holds said s := ∀ sid, s.sid = some sid → Known lib start said sid
  asks said r := ∀ sid, carriedSid r = some sid → Known lib start said sid
  mono _ _ _ hsub h sid hsid := (h sid hsid).later hsub
  asks_mono _ _ _ hsub h sid hsid := (h sid hsid).later hsub

section Rules

variable {account : Account} {start : Option String} {said : List Exchange} {β : Type}
  {ok : List Exchange → β → Prop}

abbrev Keeps (account : Account) (start : Option String) (said : List Exchange) (t : SessionT β) : Prop :=
  Ensures (sidInvariant account.lib start) said t fun _ _ => True

theorem asks_of_none {r : Request} (h : carriedSid r = none) :
    (sidInvariant account.lib start).asks said r := by
  intro sid hsid
  rw [h] at hsid
  cases hsid

theorem send_ensures {r : Request} (hr : (sidInvariant account.lib start).asks said r) :
    Ensures (sidInvariant account.lib start) said (send r) fun later response => (r, .ok response) ∈ later := by
  refine Ensures.bind (ensures_request hr fun a later _ ha => ha) fun later a hsub ha => ?_
  cases a with
  | ok response => exact ensures_pure fun latest hlatest => hlatest ha
  | error err => exact ensures_throw

theorem within_ensures {r : Request} {block : Response → SessionT β}
    (hr : (sidInvariant account.lib start).asks said r)
    (hblock : ∀ response later, said ⊆ later → (r, .ok response) ∈ later →
      Ensures (sidInvariant account.lib start) later (block response) ok)
    (hmono : ∀ later latest b, later ⊆ latest → ok later b → ok latest b) :
    Ensures (sidInvariant account.lib start) said (within r block) ok :=
  Ensures.bind (send_ensures hr) fun later response hsub hsent =>
    (hblock response later hsub hsent).leaving hmono

theorem readText_ensures (response : Response) : Ensures (sidInvariant account.lib start) said (readText response)
    fun _ content => response.body = .ok content := by
  refine Ensures.pause ?_
  cases response.body with
  | ok content => exact ensures_pure fun _ _ => rfl
  | error err => exact ensures_throw

theorem update_keeps {f : State → State} (hf : ∀ s sid, (f s).sid = some sid → s.sid = some sid) :
    Keeps account start said (Task.update f) :=
  ensures_update (fun _ s _ hs sid hsid => hs sid (hf s sid hsid)) fun _ _ => trivial

theorem invalidate_keeps : Keeps account start said (Task.update invalidateSession) :=
  update_keeps fun s sid h => by cases h

theorem within_keeps {r : Request} {block : Response → SessionT β}
    (hr : (sidInvariant account.lib start).asks said r)
    (hblock : ∀ response later, said ⊆ later → Keeps account start later (block response)) :
    Keeps account start said (within r block) :=
  within_ensures hr (fun response later hsub _ => hblock response later hsub) fun _ _ _ _ _ => trivial

end Rules

section Login

variable {account : Account} {start : Option String} {said : List Exchange} {β : Type}

theorem raiseTransportError_keeps (err : PyError) :
    Keeps account start said (raiseTransportError account err : SessionT β) :=
  Ensures.bind invalidate_keeps fun _ _ _ _ => ensures_throw

theorem handleLoginError_ensures (err : PyError) {ok : List Exchange → β → Prop} :
    Ensures (sidInvariant account.lib start) said (handleLoginError account err) ok := by
  rw [handleLoginError]
  split
  · exact ensures_throw
  · split
    · exact Ensures.bind invalidate_keeps fun _ _ _ _ => ensures_throw
    · exact ensures_throw

theorem handleListingError_keeps (err : PyError) :
    Keeps account start said (handleListingError account err : SessionT β) := by
  rw [handleListingError]
  split
  · exact raiseTransportError_keeps err
  · exact ensures_throw

theorem getLoginPageHttp_keeps (version2 : Bool) :
    Keeps account start said (getLoginPageHttp account version2) := by
  refine Ensures.bind (m := fun _ _ => True) (Ensures.tryCatch ?_ fun err => ?_) fun _ _ _ _ => ?_
  · refine within_keeps (asks_of_none rfl) fun response later _ => ?_
    split
    · exact ensures_throw
    · exact (readText_ensures response).weaken fun _ _ _ => trivial
  · rw [handleLoginPageHttpError]
    split
    · exact ensures_throw
    · split <;> exact ensures_throw
  · exact Ensures.bind (update_keeps fun s sid h => h) fun _ _ _ _ => ensures_pure fun _ _ => trivial

theorem fetchLoginPage_keeps (version2 : Bool) : Keeps account start said (fetchLoginPage account version2) := by
  refine ensures_read_bind fun later s _ _ => Ensures.tryCatch ?_ fun err => ?_
  · refine within_keeps (asks_of_none rfl) fun response later _ => ?_
    split
    · exact (readText_ensures response).weaken fun _ _ _ => trivial
    · refine ensures_read_bind fun later s _ _ => ?_
      split
      · exact getLoginPageHttp_keeps version2
      · exact ensures_throw
  · refine ensures_read_bind fun later s _ _ => ?_
    split
    · split
      · exact ensures_throw
      · exact getLoginPageHttp_keeps version2
    · exact ensures_throw

theorem waitBlocktime_keeps (content : String) :
    Keeps account start said (waitBlocktime account.lib content) := by
  rw [waitBlocktime]
  split
  · exact ensures_pure fun _ _ => trivial
  · split
    · exact Ensures.pause (ensures_ended fun _ _ _ _ => trivial)
    · exact ensures_pure fun _ _ => trivial

def Posted (lib : Library) (said : List Exchange) (text : String) : Prop :=
  ∃ x ∈ said, obtainedSid lib x = validSid lib text

theorem Posted.later {lib : Library} {later : List Exchange} {text : String} (h : Posted lib said text)
    (hsub : said ⊆ later) : Posted lib later text := by
  obtain ⟨x, hx, htext⟩ := h
  exact ⟨x, hsub hx, htext⟩

theorem Posted.known {lib : Library} {text sid : String} (h : Posted lib said text)
    (hsid : validSid lib text = some sid) : Known lib start said sid := by
  obtain ⟨x, hx, htext⟩ := h
  exact Or.inr (List.mem_filterMap.mpr ⟨x, hx, htext.trans hsid⟩)

theorem posted_of_answer {lib : Library} {protocol : Protocol} {version2 : Bool}
    {username answered text : String} {response : Response}
    (h : (.login protocol version2 username answered, .ok response) ∈ said)
    (hs : response.status = httpStatusOk) (hbody : response.body = .ok text) : Posted lib said text := by
  refine ⟨_, h, ?_⟩
  rw [obtainedSid, if_pos hs, hbody]
  rfl

theorem postPbkdf2_ensures (response : String) :
    Ensures (sidInvariant account.lib start) said (postPbkdf2 account response)
      fun later content => ∀ text, content = some text → Posted account.lib later text := by
  refine ensures_read_bind fun later s _ _ => Ensures.tryCatch ?_ fun err => handleLoginError_ensures err
  refine within_ensures (asks_of_none rfl) ?_ fun _ _ _ hsub h text htext => (h text htext).later hsub
  intro answered later _ hsent
  split
  · exact ensures_pure fun _ _ text h => by cases h
  · rename_i hs
    refine Ensures.bind (readText_ensures answered) fun latest content hsub hbody => ?_
    refine ensures_pure fun now hnow text htext => ?_
    cases htext
    exact posted_of_answer (hnow (hsub hsent)) (not_not.mp hs) hbody

theorem tryGetSessionViaPbkdf2_ensures :
    Ensures (sidInvariant account.lib start) said (tryGetSessionViaPbkdf2 account)
      fun later found => ∀ sid, found = some sid → Known account.lib start later sid := by
  have hnone : ∀ {said : List Exchange}, Ensures (sidInvariant account.lib start) said
      (pure none : SessionT (Option String))
      fun later found => ∀ sid, found = some sid → Known account.lib start later sid :=
    ensures_pure fun _ _ sid h => by cases h
  refine Ensures.bind (fetchLoginPage_keeps true) fun later content _ _ => ?_
  split
  · exact hnone
  · split
    · exact hnone
    · split
      · exact hnone
      · refine Ensures.bind (waitBlocktime_keeps content) fun _ _ _ _ => ?_
        refine Ensures.bind (m := fun _ _ => True) (ensures_ended fun _ _ _ _ => trivial) fun _ response _ _ => ?_
        refine Ensures.bind (postPbkdf2_ensures response) fun later posted _ hposted => ?_
        refine ensures_pure fun latest hlatest sid hsid => ?_
        obtain ⟨text, htext, hvalid⟩ := Option.bind_eq_some_iff.mp hsid
        exact ((hposted text htext).later hlatest).known hvalid

theorem storeSid_ensures {sid : String} (h : Known account.lib start said sid) :
    Ensures (sidInvariant account.lib start) said
      (do Task.update fun s => { s with sid := some sid }; pure sid : SessionT String)
      fun later sid => Known account.lib start later sid := by
  refine Ensures.bind (m := fun _ _ => True) (ensures_update ?_ fun _ _ => trivial) fun later _ hsub _ => ?_
  · intro later s hsub hs sid' hsid
    cases hsid
    exact h.later hsub
  · exact ensures_pure fun latest hlatest => (h.later hsub).later hlatest

theorem postMd5_ensures (response : String) :
    Ensures (sidInvariant account.lib start) said (postMd5 account response) (Posted account.lib) := by
  refine ensures_read_bind fun later s _ _ => Ensures.tryCatch ?_ fun err => handleLoginError_ensures err
  refine within_ensures (asks_of_none rfl) ?_ fun _ _ _ hsub h => h.later hsub
  intro answered later _ hsent
  split
  · exact ensures_throw
  · rename_i hs
    intro now s hnow hstate
    refine Preserves.mono (readText_ensures answered now s hnow hstate) ?_ fun _ _ _ he => he
    rintro latest s' text ⟨hsub, hs', hbody⟩
    exact ⟨hsub, hs', posted_of_answer (hsub (hnow hsent)) (not_not.mp hs) hbody⟩

theorem loginViaMd5_ensures : Ensures (sidInvariant account.lib start) said (loginViaMd5 account)
    (Known account.lib start) := by
  refine Ensures.bind (m := fun _ _ => True) (Ensures.tryCatch (fetchLoginPage_keeps false) fun err => ?_)
    fun later content _ _ => ?_
  · split <;> exact ensures_throw
  · split
    · exact ensures_throw
    · dsimp only
      split
      · exact ensures_throw
      · refine Ensures.bind (postMd5_ensures _) fun later text _ hposted => ?_
        split
        · exact ensures_throw
        · rename_i sid hsid
          exact storeSid_ensures (hposted.known hsid)

theorem asyncGetSession_ensures : Ensures (sidInvariant account.lib start) said (asyncGetSession account)
    (Known account.lib start) := by
  refine ensures_read_bind fun later s _ hs => ?_
  split
  · rename_i sid hsid
    exact ensures_pure fun latest hlatest => (hs sid hsid).later hlatest
  · refine Ensures.bind (Ensures.tryCatch tryGetSessionViaPbkdf2_ensures fun err => ?_)
      fun later found _ hfound => ?_
    · split
      · exact ensures_pure fun _ _ sid h => by cases h
      · exact ensures_throw
    · cases found with
      | some sid => exact storeSid_ensures (hfound sid rfl)
      | none => exact loginViaMd5_ensures

end Login

section Calls

variable {account : Account} {start : Option String} {said : List Exchange}

theorem validateVpnListingStatus_keeps (response : Response) (source : String) :
    Keeps account start said (validateVpnListingStatus response source) := by
  rw [validateVpnListingStatus]
  split
  · exact ensures_throw
  · split
    · exact Ensures.bind invalidate_keeps fun _ _ _ _ => ensures_throw
    · exact ensures_pure fun _ _ => trivial

theorem missingJson_keeps (requireJson : Bool) : Keeps account start said (missingJson requireJson) := by
  rw [missingJson]
  split
  · exact ensures_throw
  · exact ensures_pure fun _ _ => trivial

theorem responseJsonDict_keeps (response : Response) (requireJson : Bool) :
    Keeps account start said (responseJsonDict account.lib response requireJson) := by
  rw [responseJsonDict]
  split
  · exact missingJson_keeps requireJson
  · refine Ensures.tryCatch ?_ fun err => ?_
    · refine Ensures.bind (readText_ensures response) fun _ content _ _ => ?_
      refine Ensures.bind (m := fun _ _ => True) (ensures_ended fun _ _ _ _ => trivial) fun _ _ _ _ => ?_
      exact ensures_pure fun _ _ => trivial
    · split
      · exact missingJson_keeps requireJson
      · exact ensures_throw

theorem fetchListingByMode_keeps {sid : String} (h : Known account.lib start said sid) (mode : ListingMode) :
    Keeps account start said (fetchListingByMode account sid mode) := by
  have hasks : ∀ {later : List Exchange} {r : Request}, said ⊆ later → carriedSid r = some sid →
      (sidInvariant account.lib start).asks later r := by
    intro later r hsub hr sid' hsid
    rw [hr] at hsid
    cases hsid
    exact h.later hsub
  cases mode with
  | rest =>
      refine ensures_read_bind fun later s hsub _ =>
        Ensures.tryCatch (within_keeps (hasks hsub rfl) fun response _ _ => ?_) handleListingError_keeps
      split
      · exact ensures_pure fun _ _ => trivial
      · refine Ensures.bind (validateVpnListingStatus_keeps response _) fun _ _ _ _ => ?_
        refine Ensures.bind (responseJsonDict_keeps response false) fun _ data _ _ => ?_
        cases data with
        | none => exact ensures_pure fun _ _ => trivial
        | some data => exact ensures_ended fun _ _ _ _ => trivial
  | dataLua =>
      refine ensures_read_bind fun later s hsub _ =>
        Ensures.tryCatch (within_keeps (hasks hsub rfl) fun response _ _ => ?_) handleListingError_keeps
      refine Ensures.bind (validateVpnListingStatus_keeps response _) fun _ _ _ _ => ?_
      refine Ensures.bind (responseJsonDict_keeps response true) fun _ data _ _ => ?_
      cases data with
      | none => exact ensures_pure fun _ _ => trivial
      | some data => exact ensures_pure fun _ _ => trivial

theorem probeListing_keeps {sid : String} (h : Known account.lib start said sid)
    (preferred : Option ListingMode) (modes : List ListingMode) :
    Keeps account start said (probeListing account sid preferred modes) := by
  induction modes generalizing said with
  | nil => exact Ensures.bind invalidate_keeps fun _ _ _ _ => ensures_throw
  | cons mode modes ih =>
      rw [probeListing]
      split
      · exact ih h
      · refine Ensures.bind (fetchListingByMode_keeps h mode) fun later result hsub _ => ?_
        cases result with
        | some result =>
            exact Ensures.bind (update_keeps fun s sid h => h) fun _ _ _ _ => ensures_pure fun _ _ => trivial
        | none => exact ih (h.later hsub)

theorem fetchVpnConnectionsOnce_keeps : Keeps account start said (fetchVpnConnectionsOnce account) := by
  refine Ensures.bind asyncGetSession_ensures fun later sid _ hsid => ?_
  refine ensures_read_bind fun latest s hsub _ => ?_
  have hknown := hsid.later hsub
  split
  · exact probeListing_keeps hknown none _
  · refine Ensures.bind (fetchListingByMode_keeps hknown _) fun now result hnow _ => ?_
    cases result with
    | some result => exact ensures_pure fun _ _ => trivial
    | none =>
        exact Ensures.bind (update_keeps fun s sid h => h) fun _ _ hsub' _ =>
          probeListing_keeps ((hknown.later hnow).later hsub') _ _

theorem asyncGetVpnConnections_keeps : Keeps account start said (asyncGetVpnConnections account) := by
  refine Ensures.tryCatch fetchVpnConnectionsOnce_keeps fun err => ?_
  split
  · exact Ensures.bind invalidate_keeps fun _ _ _ _ => fetchVpnConnectionsOnce_keeps
  · exact ensures_throw

theorem checkToggle_keeps (uid : String) (enable : Bool) (response : Response) :
    Keeps account start said (checkToggle account uid enable response) := by
  rw [checkToggle]
  split
  · exact Ensures.bind (readText_ensures response) fun _ _ _ _ => ensures_pure fun _ _ => trivial
  · refine Ensures.pause (Ensures.bind asyncGetVpnConnections_keeps fun _ connections _ _ => ?_)
    split
    · exact ensures_pure fun _ _ => trivial
    · exact ensures_pure fun _ _ => trivial

theorem toggleOnce_keeps (uid : String) (enable : Bool) (sidRetry : Option (SessionT Bool))
    (hretry : ∀ again, sidRetry = some again → ∀ said, Keeps account start said again) :
    Keeps account start said (toggleOnce account uid enable sidRetry) := by
  have hanswer : ∀ response said, Keeps account start said (answerToggle account uid enable sidRetry response) := by
    intro response said
    cases sidRetry with
    | none => exact checkToggle_keeps uid enable response
    | some again =>
        rw [answerToggle]
        split
        · exact Ensures.bind invalidate_keeps fun later _ _ _ => hretry again rfl later
        · exact checkToggle_keeps uid enable response
  have hput : ∀ vpnUid said, Keeps account start said (putToggle account uid enable sidRetry vpnUid) := by
    intro vpnUid said
    refine Ensures.bind asyncGetSession_ensures fun later sid _ hsid => ?_
    refine ensures_read_bind fun latest s hsub _ =>
      Ensures.tryCatch (within_keeps ?_ fun response now _ => hanswer response now) fun _ =>
        ensures_pure fun _ _ => trivial
    intro sid' hcarried
    cases hcarried
    exact hsid.later hsub
  refine Ensures.bind asyncGetVpnConnections_keeps fun later connections _ _ => ?_
  split
  · exact ensures_pure fun _ _ => trivial
  · split
    · exact ensures_pure fun _ _ => trivial
    · split
      · exact ensures_pure fun _ _ => trivial
      · split
        · exact ensures_pure fun _ _ => trivial
        · exact hput _ later

theorem task_keeps (call : Call) : Keeps account start said (call.task account) := by
  cases call with
  | getVpnConnections =>
      exact Ensures.bind asyncGetVpnConnections_keeps fun _ _ _ _ => ensures_pure fun _ _ => trivial
  | toggleVpn uid enable =>
      refine Ensures.bind (m := fun _ _ => True) (toggleOnce_keeps uid enable _ ?_) fun _ _ _ _ =>
        ensures_pure fun _ _ => trivial
      rintro again heq said
      cases heq
      exact toggleOnce_keeps uid enable none fun _ h => by cases h

end Calls

/-- Whatever the box answers, and in whatever order the calls take their turns: each
request with a SID goes out with the one the session started with, or with one that a
login had brought before. -/
theorem carried_obtained {account : Account} {s : State} {calls : List Call} {hist : List CallStep}
    {p : Calls} (h : Run (machine account s calls) hist p) {r : Request} {a : Answer}
    {earlier : List Exchange} (hx : (r, a) :: earlier <:+ p.trace) {sid : String}
    (hsid : carriedSid r = some sid) : s.sid = some sid ∨ sid ∈ obtainedSids account.lib earlier := by
  have hsound : Sound (sidInvariant account.lib s.sid) (fun _ => True) p := by
    refine run_sound (fun sid hsid => Or.inl hsid) (fun t ht => ?_) h
    obtain ⟨call, -, rfl⟩ := List.mem_map.mp ht
    exact (task_keeps call).respects
  exact hsound.asked r a earlier hx sid hsid

def racingPolls : List (Nat × Answer) :=
  List.replicate 3 (1, restPage) ++ List.replicate 3 (0, restPage) ++ twoPolls

def racingTrace : List Exchange :=
  ((machine jsonAccount {} [.getVpnConnections, .getVpnConnections]).play racingPolls).2.trace

theorem racingPolls_obtained :
    racingTrace.head?.bind (fun x => carriedSid x.1) = some "fedcba9876543210" ∧
      "fedcba9876543210" ∈ obtainedSids jsonLibrary racingTrace.tail := by
  have hhead : racingTrace.head?.bind (fun x => carriedSid x.1) = some "fedcba9876543210" := by
    decide +kernel
  refine ⟨hhead, ?_⟩
  cases htrace : racingTrace with
  | nil =>
      rw [htrace] at hhead
      cases hhead
  | cons x earlier =>
      rw [htrace] at hhead
      have hx : (x.1, x.2) :: earlier <:+ racingTrace := by
        rw [htrace]
      have hrun := run_play (machine jsonAccount {} [.getVpnConnections, .getVpnConnections]) racingPolls
      rcases carried_obtained hrun hx hhead with h | h
      · cases h
      · exact h

end FritzboxVpn.SessionIds
