import FritzboxVpn.OptionsFlow
import FritzboxVpn.SharedInvariants

namespace FritzboxVpn.FlowRuns

open ConfigEntries ConfigFlow Constants Exceptions FlowForms FritzConfigSource HostValidation JsonValue
  OptionsFlow OrderedDict Pools Runs SharedInvariants SsdpUniqueId Tasks Tasks.Task UpdateInterval

structure Credentials where
  host : String
  username : String
  password : String

def Credentials.input (c : Credentials) : Config :=
  loginData (.str c.host) (.str c.username) (.str c.password)

structure ConfigureInput extends Credentials where
  updateInterval : Int
  min_le : updateIntervalMin ≤ updateInterval
  le_max : updateInterval ≤ updateIntervalMax

def ConfigureInput.input (c : ConfigureInput) : Config :=
  c.toCredentials.input.insert confUpdateInterval (.int c.updateInterval)

/-- What can happen to the flows and the entries: the steps of flows that were
shown or submitted, and the removal of an entry. -/
inductive Call
  | user (flow : Nat)
  | submitUser (flow : Nat) (object : FlowObject) (input : Credentials)
  | ssdp (flow : Nat) (info : SsdpServiceInfo)
  | submitConfirm (flow : Nat) (host uniqueId : String) (existing : Option Config) (input : Credentials)
  | reauth (entryId : Nat)
  | submitReauth (entryId : Nat) (username password : String)
  | reconfigure (entryId : Nat)
  | submitReconfigure (entryId : Nat) (input : ConfigureInput)
  | menu (entryId : Nat) (found : Found) (userInput : Option Config)
  | cleanupConfirm (entryId : Nat) (found : Found) (userInput : Option Config)
  | repairEntityIdsConfirm (entryId : Nat) (found : Found) (userInput : Option Config)
  | configure (entryId : Nat)
  | submitConfigure (entryId : Nat) (input : ConfigureInput)
  | remove (entryId : Nat)

def Call.interval : Call → Option Int
  | .submitReconfigure _ input => some input.updateInterval
  | .submitConfigure _ input => some input.updateInterval
  | _ => none

section Machine

variable (L : Libraries)

def Call.task : Call → FlowM FlowResult
  | .user n => managed L.entries ⟨.user, n⟩ (Prod.fst <$> asyncStepUserInit L ⟨.user, n⟩)
  | .submitUser n object input => managed L.entries ⟨.user, n⟩ (asyncStepUser L ⟨.user, n⟩ object input.input)
  | .ssdp n info => managed L.entries ⟨.ssdp, n⟩ (Prod.fst <$> asyncStepSsdp L ⟨.ssdp, n⟩ info)
  | .submitConfirm n host uniqueId existing input =>
      managed L.entries ⟨.ssdp, n⟩
        (asyncStepConfirm L ⟨.ssdp, n⟩ ⟨some host, some uniqueId, existing⟩ input.input)
  | .reauth entryId => asyncStepReauthConfirmInit entryId
  | .submitReauth entryId username password =>
      asyncStepReauthConfirm L entryId
        (Dict.ofList [(confUsername, .str username), (confPassword, .str password)])
  | .reconfigure entryId => asyncStepReconfigureInit L entryId
  | .submitReconfigure entryId input => asyncStepReconfigure L entryId input.input
  | .menu entryId found userInput => asyncStepInit L entryId found userInput
  | .cleanupConfirm entryId found userInput => asyncStepCleanupConfirm L entryId found userInput
  | .repairEntityIdsConfirm entryId found userInput =>
      asyncStepRepairEntityIdsConfirm L entryId found userInput
  | .configure entryId => asyncStepConfigureInit L entryId
  | .submitConfigure entryId input => asyncStepConfigure L entryId input.input
  | .remove entryId => do
      update fun s => L.entries.asyncRemove s entryId
      pure (.abort "removed")

abbrev FlowPool : Type := Pool Store Ask Answer FlowError FlowResult

/-- The calls, each of which others may interrupt where it waits for an answer. -/
def flowsMachine (calls : List Call) : Machine FlowPool (Nat × Answer) (Option (Ask × Answer)) :=
  Pool.machine {} (calls.map (Call.task L))

def coordinatorLogin (data : Config) : Except PyError (Json × Json × Json) := do
  let username ← getItem data confUsername
  let password ← getItem data confPassword
  return (hostFromConfig data, username, password)

def Fetched (said : List (Ask × Answer)) (host username : Json) (password : String) : Prop :=
  ∃ a, (.fetch host username password, a) ∈ said ∧ fetched L.lib host username password a = .ok ()

def Vetted (said : List (Ask × Answer)) (host : Json) : Prop :=
  (∃ text, host = .str text ∧ validateHost L.chars (.str text) = .ok text) ∨
    ∃ a config, (.foreignEntries, a) ∈ said ∧
      getExistingFritzConfig L.lib.repr a.foreign = some config ∧ config.get? confHost = some host

structure HasLogin (config : Config) (host username : Json) (password : String) : Prop where
  host : config.get? confHost = some host
  username : config.get? confUsername = some username
  password : config.get? confPassword = some (.str password)
  pass : config.get? "pass" = none

structure GoodEntry (calls : List Call) (said : List (Ask × Answer)) (e : Entry) : Prop where
  login : ∃ host username password, HasLogin e.data host username password ∧
    Fetched L said host username password ∧ Vetted L said host
  data : e.data.get? confUpdateInterval = none
  options : ∀ v, e.options.get? confUpdateInterval = some v →
    ∃ c ∈ calls, ∃ n, c.interval = some n ∧ updateIntervalMin ≤ n ∧ n ≤ updateIntervalMax ∧ v = .int n

structure Good (calls : List Call) (said : List (Ask × Answer)) (s : Store) : Prop where
  entries : ∀ entryId e, s.entries.get? entryId = some e → GoodEntry L calls said e
  numbered : ∀ entryId e, s.entries.get? entryId = some e → entryId < s.created
  unique : ∀ i j e e' uniqueId, s.entries.get? i = some e → s.entries.get? j = some e' →
    e.uniqueId = some uniqueId → e'.uniqueId = some uniqueId → i = j
  users : ∀ n, s.uniqueIds.get? ⟨.user, n⟩ = none

end Machine

section Monotone

variable {L : Libraries} {calls : List Call} {said later : List (Ask × Answer)}

theorem Fetched.mono {host username : Json} {password : String} (hsub : said ⊆ later)
    (h : Fetched L said host username password) : Fetched L later host username password := by
  obtain ⟨a, ha, hok⟩ := h
  exact ⟨a, hsub ha, hok⟩

theorem Vetted.mono {host : Json} (hsub : said ⊆ later) (h : Vetted L said host) : Vetted L later host := by
  rcases h with h | ⟨a, config, ha, hconfig⟩
  · exact Or.inl h
  · exact Or.inr ⟨a, config, hsub ha, hconfig⟩

theorem GoodEntry.mono {e : Entry} (hsub : said ⊆ later) (h : GoodEntry L calls said e) :
    GoodEntry L calls later e := by
  obtain ⟨host, username, password, hlogin, hfetched, hvetted⟩ := h.login
  exact ⟨⟨host, username, password, hlogin, hfetched.mono hsub, hvetted.mono hsub⟩, h.data, h.options⟩

end Monotone

def goodInvariant (L : Libraries) (calls : List Call) : Invariant Store Ask Answer where
  holds := Good L calls
  asks _ _ := True
  mono _ _ _ hsub h := ⟨fun i e he => (h.entries i e he).mono hsub, h.numbered, h.unique, h.users⟩
  asks_mono _ _ _ _ h := h

section Writes

variable {L : Libraries} {calls : List Call} {said : List (Ask × Answer)} {s : Store}

theorem good_init : Good L calls [] {} := by
  have hnone : ∀ entryId e, ({} : Store).entries.get? entryId ≠ some e := by
    intro entryId e he
    cases he
  exact ⟨fun i e he => absurd he (hnone i e), fun i e he => absurd he (hnone i e),
    fun i _ e _ _ he => absurd he (hnone i e), fun _ => rfl⟩

theorem users_of_leaves (h : Good L calls said s) {written : Nat → Entry → Prop} {s' : Store}
    (hleaves : Leaves s written s') (n : Nat) : s'.uniqueIds.get? ⟨.user, n⟩ = none := by
  cases hget : s'.uniqueIds.get? ⟨.user, n⟩ with
  | none => rfl
  | some u =>
      have hbefore := hleaves.uniqueIds _ _ hget
      rw [h.users n] at hbefore
      cases hbefore

/-- A write of a good entry, with a unique id that no entry has which stays. -/
theorem Good.leaves (h : Good L calls said s) {written : Nat → Entry → Prop} {s' : Store}
    (hleaves : Leaves s written s')
    (hgood : ∀ i e, written i e → GoodEntry L calls said e ∧ i < s'.created)
    (hfree : ∀ i e, written i e → ∀ j e', written j e' ∨ s.entries.get? j = some e' →
      ∀ u, e.uniqueId = some u → e'.uniqueId = some u → i = j) : Good L calls said s' := by
  refine ⟨?_, ?_, ?_, users_of_leaves h hleaves⟩
  · intro i e hi
    rcases hleaves.entries i e hi with hwritten | hold
    · exact (hgood i e hwritten).1
    · exact h.entries i e hold
  · intro i e hi
    rcases hleaves.entries i e hi with hwritten | hold
    · exact (hgood i e hwritten).2
    · exact (h.numbered i e hold).trans_le hleaves.created
  · intro i j e e' u hi hj hu hu'
    rcases hleaves.entries i e hi with hwritten | hold
    · exact hfree i e hwritten j e' (hleaves.entries j e' hj) u hu hu'
    · rcases hleaves.entries j e' hj with hwritten' | hold'
      · exact (hfree j e' hwritten' i e (Or.inr hold) u hu' hu).symm
      · exact h.unique i j e e' u hold hold' hu hu'

theorem Good.leaves_none (h : Good L calls said s) {s' : Store} (hleaves : Leaves s (fun _ _ => False) s') :
    Good L calls said s' :=
  h.leaves hleaves (fun _ _ hfalse => hfalse.elim) fun _ _ hfalse => hfalse.elim

theorem Good.updated (h : Good L calls said s) {entryId : Nat} {entry entry' : Entry}
    (he : s.entries.get? entryId = some entry) (hgood : GoodEntry L calls said entry')
    (hid : entry'.uniqueId = entry.uniqueId) :
    Good L calls said (L.entries.asyncUpdateEntry s entryId entry') := by
  have hleaves := L.entries.updated s entryId entry'
  refine h.leaves hleaves ?_ ?_
  · rintro _ _ ⟨rfl, rfl⟩
    exact ⟨hgood, (h.numbered _ entry he).trans_le hleaves.created⟩
  · rintro _ _ ⟨rfl, rfl⟩ j e' (⟨rfl, -⟩ | hold) u hu hu'
    · rfl
    · exact h.unique _ j entry e' u he hold (hid.symm.trans hu) hu'

theorem Good.added (h : Good L calls said s) (flow : FlowId) {data : Config}
    (hgood : GoodEntry L calls said ⟨data, Dict.empty, s.uniqueIds.get? flow⟩)
    (hfree : ∀ u, s.uniqueIds.get? flow = some u → ∀ i e, s.entries.get? i = some e →
      e.uniqueId ≠ some u) : Good L calls said (L.entries.asyncAdd s flow data) := by
  refine h.leaves (L.entries.added s flow data) ?_ ?_
  · rintro _ _ ⟨rfl, rfl⟩
    exact ⟨hgood, L.entries.created_lt s flow data⟩
  · rintro _ _ ⟨rfl, rfl⟩ j e' (⟨rfl, -⟩ | hold) u hu hu'
    · rfl
    · exact absurd hu' (hfree u hu j e' hold)

theorem Good.claimed (h : Good L calls said s) {flow : FlowId} (hflow : flow.source = .ssdp)
    {uniqueId : String} {s' : Store} (hclaimed : Claimed s flow uniqueId s') : Good L calls said s' := by
  refine ⟨?_, ?_, ?_, ?_⟩
  · rw [hclaimed.entries]
    exact h.entries
  · rw [hclaimed.entries, hclaimed.created]
    exact h.numbered
  · rw [hclaimed.entries]
    exact h.unique
  · intro n
    have hne : (⟨.user, n⟩ : FlowId) ≠ flow := by
      rintro rfl
      cases hflow
    rw [hclaimed.others _ hne]
    exact h.users n

end Writes

end FritzboxVpn.FlowRuns
