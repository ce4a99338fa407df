import FritzboxVpn.Runs
import FritzboxVpn.UidRemap
import Mathlib.Data.List.Sort
import Mathlib.Data.Rat.Defs
import Mathlib.Data.String.Basic

namespace FritzboxVpn.Coordinator

open Constants Exceptions HomeAssistant JsonValue OrderedDict Text UidIdentity UidRemap

/-- The order in which Python walks through a set. -/
structure IterationOrder where
  toList : Finset String → List String
  nodup : ∀ s, (toList s).Nodup
  toFinset : ∀ s, (toList s).toFinset = s

theorem mem_toList {order : IterationOrder} {s : Finset String} {uid : String} :
    uid ∈ order.toList s ↔ uid ∈ s := by
  rw [← List.mem_toFinset, order.toFinset]

def sortedOrder : IterationOrder where
  toList s := Quot.liftOn s.val (fun l => l.insertionSort (· ≤ ·)) fun a b h =>
    (((List.perm_insertionSort _ a).trans h).trans (List.perm_insertionSort _ b).symm).eq_of_pairwise'
      (List.pairwise_insertionSort _ a) (List.pairwise_insertionSort _ b)
  nodup := by
    rintro ⟨l, hl⟩
    induction l using Quot.ind
    exact (List.perm_insertionSort _ _).nodup_iff.mpr hl
  toFinset := by
    rintro ⟨l, hl⟩
    induction l using Quot.ind
    ext x
    exact List.mem_toFinset.trans (List.mem_insertionSort _)

structure Env where
  api : RegistryApi
  reprContainer : Json → String
  order : IterationOrder
  entryId : Option String
  updateIntervalSeconds : Nat

def recoveryWindowSeconds (updateIntervalSeconds : Nat) : Nat :=
  max (recoveryMinIntervalFactor * updateIntervalSeconds)
    (recoveryMinIntervalFactor * retryAfterSeconds)

def recoveryMaxSeconds (updateIntervalSeconds : Nat) : Nat :=
  recoveryMaxWindowFactor * recoveryWindowSeconds updateIntervalSeconds

structure State where
  data : Option (Dict String Json) := none
  lastUpdateSuccess : Bool := true
  reauthScheduled : Bool := false
  seenUids : Finset String := ∅
  missingUidCounts : Dict String Nat := Dict.empty
  confirmedOrphanUids : Finset String := ∅
  uidNames : Dict String String := Dict.empty
  uidRemap : Dict String String := Dict.empty
  recoveringUntil : Option ℚ := none
  recoveryStartedAt : Option ℚ := none
  recoveryStablePolls : Nat := 0

/-- One poll: what the session answers, and the two readings of the clock
the poll makes at most. -/
structure Poll where
  fetch : Except PyError (Dict String Json)
  now : ℚ
  later : ℚ

inductive FailureKind
  | emptyDuringRecovery
  | authentication
  | connectivity
deriving DecidableEq

structure UpdateFailed where
  message : String
  retryAfter : Option Nat
  kind : FailureKind
deriving DecidableEq

structure Report where
  outcome : Except UpdateFailed (Dict String Json)
  newlyConfirmed : Finset String := ∅
  reauthStarted : Bool := false
  sessionInvalidated : Bool := false

def resolveLoop (uidRemap : Dict String String) : Nat → Finset String → String → String
  | 0, _, uid => uid
  | fuel + 1, seen, uid =>
      match uidRemap.get? uid with
      | none => uid
      | some next => if uid ∈ seen then uid else resolveLoop uidRemap fuel (insert uid seen) next

namespace State

/-- Fuel for one round a key is enough: a round either stops or visits a key it
has not seen. -/
def resolveConnectionUid (c : State) (connectionUid : String) : String :=
  resolveLoop c.uidRemap (c.uidRemap.keys.card + 1) ∅ connectionUid

theorem resolveConnectionUid_of_none {c : State} {uid : String} (h : c.uidRemap.get? uid = none) :
    c.resolveConnectionUid uid = uid := by
  rw [resolveConnectionUid, resolveLoop, h]

theorem resolveConnectionUid_of_some {c : State} {uid next : String}
    (h : c.uidRemap.get? uid = some next) (hn : c.uidRemap.get? next = none) :
    c.resolveConnectionUid uid = next := by
  have hpos := Finset.card_pos.mpr ⟨uid, Dict.mem_keys_iff.mpr ⟨next, h⟩⟩
  obtain ⟨k, hk⟩ := Nat.exists_eq_succ_of_ne_zero (Nat.pos_iff_ne_zero.mp hpos)
  rw [resolveConnectionUid, hk, resolveLoop, h]
  simp only [Finset.notMem_empty, if_false]
  rw [resolveLoop, hn]

theorem resolveLoop_cases (uidRemap : Dict String String) (fuel : Nat) (seen : Finset String)
    (uid : String) : resolveLoop uidRemap fuel seen uid = uid ∨
      ∃ o, uidRemap.get? o = some (resolveLoop uidRemap fuel seen uid) := by
  induction fuel generalizing seen uid with
  | zero => exact Or.inl rfl
  | succ fuel ih =>
      rw [resolveLoop]
      cases h : uidRemap.get? uid with
      | none => exact Or.inl rfl
      | some next =>
          by_cases hs : uid ∈ seen
          · simp [hs]
          · simp only [if_neg hs]
            rcases ih (insert uid seen) next with he | he
            · exact Or.inr ⟨uid, by rw [he, h]⟩
            · exact Or.inr he

/-- A UID resolves to itself or to the new UID of some remap. -/
theorem resolveConnectionUid_cases (c : State) (uid : String) :
    c.resolveConnectionUid uid = uid ∨ ∃ o, c.uidRemap.get? o = some (c.resolveConnectionUid uid) :=
  resolveLoop_cases c.uidRemap _ ∅ uid

def dataKeys (c : State) : Finset String :=
  match c.data with
  | none => ∅
  | some data => data.keys

def inRecovery (c : State) : Bool := c.recoveringUntil.isSome

def resetOrphanMissStreaks (c : State) : State := { c with missingUidCounts := Dict.empty }

end State

def isAuthError (error : PyError) : Bool :=
  authIndicators.any fun ind => contains ind (lower error.message)

def rememberName (reprContainer : Json → String) (names : Dict String String)
    (p : String × Json) : Dict String String :=
  match (asDict p.2).bind (·.get? apiKeyName) with
  | none => names
  | some name => if truthy name then names.insert p.1 (pyStr reprContainer name) else names

def rememberConnectionNames (env : Env) (c : State) (connections : Dict String Json) : State :=
  { c with uidNames := connections.entries.foldl (rememberName env.reprContainer) c.uidNames }

def rememberData (env : Env) (c : State) : State :=
  match c.data with
  | none => c
  | some data =>
      rememberConnectionNames env { c with seenUids := c.seenUids ∪ data.keys } data

def armRecovery (env : Env) (c : State) (p : Poll) : State :=
  let until_ := p.now + recoveryWindowSeconds env.updateIntervalSeconds
  { rememberData env c with
    recoveryStartedAt := some (c.recoveryStartedAt.getD p.later)
    recoveringUntil :=
      match c.recoveringUntil with
      | none => some until_
      | some current => if until_ > current then some until_ else some current
    recoveryStablePolls := 0
    missingUidCounts := Dict.empty }

def clearRecovery (c : State) : State :=
  { c with recoveringUntil := none, recoveryStartedAt := none, recoveryStablePolls := 0 }

def recoveryMaxElapsed (env : Env) (c : State) (now : ℚ) : Bool :=
  match c.recoveryStartedAt with
  | none => false
  | some startedAt => decide (startedAt + recoveryMaxSeconds env.updateIntervalSeconds ≤ now)

def noteSuccessfulPoll (c : State) (connections : Dict String Json) (now : ℚ) : State :=
  match c.recoveringUntil with
  | none => c
  | some until_ =>
      if connections.isEmpty ∨ now < until_ then { c with recoveryStablePolls := 0 }
      else if c.recoveryStablePolls + 1 ≥ recoveryStablePolls then
        clearRecovery { c with recoveryStablePolls := c.recoveryStablePolls + 1 }
      else { c with recoveryStablePolls := c.recoveryStablePolls + 1 }

def noteRemapped (env : Env) (connections : Dict String Json) (c : State) (p : String × String) :
    State :=
  { c with
    uidRemap := c.uidRemap.insert p.1 p.2
    seenUids := insert p.2 (c.seenUids.erase p.1)
    uidNames :=
      match c.uidNames.get? p.1 with
      | some name => (c.uidNames.erase p.1).insert p.2 name
      | none =>
          match connections.get? p.2 with
          | some payload => rememberName env.reprContainer c.uidNames (p.2, payload)
          | none => c.uidNames
    missingUidCounts := c.missingUidCounts.erase p.1
    confirmedOrphanUids := c.confirmedOrphanUids.erase p.1 }

/-- An exception of the registry leaves the coordinator as it is. -/
def applyUidRemapIfNeeded (env : Env) (hass : Hass) (c : State) (connections : Dict String Json) :
    Except PyError State × Hass :=
  match env.entryId with
  | none => (.ok c, hass)
  | some entryId =>
      if !c.inRecovery || entryId == "" || connections.isEmpty then (.ok c, hass)
      else
        let removed := c.seenUids \ connections.keys
        let added := connections.keys \ c.seenUids
        if removed = ∅ ∨ added = ∅ then (.ok c, hass)
        else
          match nameBijectionUidRemap env.reprContainer (env.order.toList removed)
              (env.order.toList added) c.uidNames connections with
          | .error _ => (.ok c, hass)
          | .ok mapping =>
              match remapConnectionUids env.api hass entryId mapping with
              | (.error e, hass') => (.error e, hass')
              | (.ok applied, hass') =>
                  (.ok (applied.entries.foldl (noteRemapped env connections) c), hass')

def countMissing (counts : Dict String Nat) (uid : String) : Dict String Nat :=
  counts.insert uid ((counts.get? uid).getD 0 + 1)

def trackMissingUids (env : Env) (c : State) (currentUids : Finset String) : Finset String × State :=
  let c := rememberData env c
  let seen := c.seenUids ∪ currentUids
  let kept := (env.order.toList currentUids).foldl Dict.erase c.missingUidCounts
  let confirmed := c.confirmedOrphanUids \ currentUids
  let counts := (env.order.toList (seen \ currentUids)).foldl countMissing kept
  let newlyConfirmed := (seen \ currentUids).filter fun uid =>
    orphanConfirmPolls ≤ (counts.get? uid).getD 0 ∧ uid ∉ confirmed
  (newlyConfirmed,
    { c with seenUids := seen, missingUidCounts := counts,
             confirmedOrphanUids := confirmed ∪ newlyConfirmed })

def scheduleReauth (env : Env) (hass : Hass) (c : State) : Bool × State :=
  match env.entryId with
  | none => (false, c)
  | some entryId =>
      match hass.configEntries.get? entryId with
      | none => (false, c)
      | some entry =>
          if c.reauthScheduled || entryId == "" || entry.state != .loaded then (false, c)
          else (true, { c with reauthScheduled := true })

def failAuthentication (env : Env) (hass : Hass) (c : State) (err : PyError) (text : String) :
    Report × State :=
  let (started, c') := scheduleReauth env hass c
  ({ outcome := .error ⟨text ++ err.message, none, .authentication⟩, reauthStarted := started }, c')

def failConnectivity (env : Env) (c : State) (p : Poll) (err : PyError) (text : String) :
    Report × State :=
  ({ outcome := .error ⟨text ++ err.message, some retryAfterSeconds, .connectivity⟩
     sessionInvalidated := !isAuthError err }, armRecovery env c p)

def handleError (env : Env) (hass : Hass) (c : State) (p : Poll) (err : PyError) : Report × State :=
  if err.isConnectionError || err.isValueError then
    if isAuthError err then failAuthentication env hass c err "Error fetching VPN data: "
    else failConnectivity env c p err "Error fetching VPN data: "
  else if err.isTimeoutError then failConnectivity env c p err "Error fetching VPN data: "
  else if isAuthError err then failAuthentication env hass c err "Unexpected error fetching VPN data: "
  else failConnectivity env c p err "Unexpected error fetching VPN data: "

def trackPoll (env : Env) (c : State) (currentUids : Finset String) : Finset String × State :=
  if c.inRecovery then
    (∅, { c with missingUidCounts := Dict.empty, seenUids := c.seenUids ∪ c.dataKeys ∪ currentUids })
  else trackMissingUids env c currentUids

def finishPoll (env : Env) (c : State) (p : Poll) (connections : Dict String Json) : Report × State :=
  ({ outcome := .ok connections, newlyConfirmed := (trackPoll env c connections.keys).1 },
    { noteSuccessfulPoll (trackPoll env c connections.keys).2 connections p.later with
      reauthScheduled := false })

def processConnections (env : Env) (hass : Hass) (c : State) (p : Poll)
    (connections : Dict String Json) : (Report × State) × Hass :=
  let c := rememberConnectionNames env c connections
  match applyUidRemapIfNeeded env hass c connections with
  | (.error e, hass') => (handleError env hass' c p e, hass')
  | (.ok c', hass') => (finishPoll env c' p connections, hass')

def hadConnections (c : State) : Bool := decide (c.seenUids ≠ ∅ ∨ c.dataKeys ≠ ∅)

def asyncUpdateData (env : Env) (hass : Hass) (c : State) (p : Poll) : (Report × State) × Hass :=
  match p.fetch with
  | .error e => (handleError env hass c p e, hass)
  | .ok connections =>
      if connections.isEmpty && c.inRecovery && hadConnections c then
        if recoveryMaxElapsed env c p.now then
          processConnections env hass (clearRecovery c) p connections
        else
          (({ outcome := .error ⟨"VPN list empty while recovering after connectivity outage",
                some retryAfterSeconds, .emptyDuringRecovery⟩ },
            { c.resetOrphanMissStreaks with recoveryStablePolls := 0 }), hass)
      else processConnections env hass c p connections

/-- The update coordinator of Home Assistant: a failed update keeps the data. -/
def refresh (report : Report) (c : State) : State :=
  match report.outcome with
  | .ok connections => { c with data := some connections, lastUpdateSuccess := true }
  | .error _ => { c with lastUpdateSuccess := false }

def poll (env : Env) (hass : Hass) (c : State) (p : Poll) : (Report × State) × Hass :=
  let ((report, c'), hass') := asyncUpdateData env hass c p
  ((report, refresh report c'), hass')

theorem poll_data {env : Env} {hass : Hass} {c : State} {p : Poll} {connections : Dict String Json}
    (h : (poll env hass c p).1.1.outcome = .ok connections) :
    (poll env hass c p).1.2.data = some connections := by
  rcases hx : asyncUpdateData env hass c p with ⟨⟨report, c'⟩, hass'⟩
  simp only [poll, hx] at h ⊢
  rw [refresh, h]

section Frame

variable (env : Env) (c : State) (p : Poll) (connections : Dict String Json)

@[simp]
theorem rememberConnectionNames_data : (rememberConnectionNames env c connections).data = c.data := rfl

@[simp]
theorem rememberConnectionNames_dataKeys :
    (rememberConnectionNames env c connections).dataKeys = c.dataKeys := rfl

@[simp]
theorem rememberConnectionNames_seenUids :
    (rememberConnectionNames env c connections).seenUids = c.seenUids := rfl

@[simp]
theorem rememberConnectionNames_uidRemap :
    (rememberConnectionNames env c connections).uidRemap = c.uidRemap := rfl

@[simp]
theorem rememberConnectionNames_inRecovery :
    (rememberConnectionNames env c connections).inRecovery = c.inRecovery := rfl

@[simp]
theorem rememberData_data : (rememberData env c).data = c.data := by
  rw [rememberData]
  split <;> rfl

@[simp]
theorem rememberData_dataKeys : (rememberData env c).dataKeys = c.dataKeys := by
  rw [State.dataKeys, rememberData_data, State.dataKeys]

@[simp]
theorem rememberData_seenUids : (rememberData env c).seenUids = c.seenUids ∪ c.dataKeys := by
  rw [rememberData, State.dataKeys]
  cases c.data with
  | none => exact (Finset.union_empty _).symm
  | some data => rfl

@[simp]
theorem rememberData_uidRemap : (rememberData env c).uidRemap = c.uidRemap := by
  rw [rememberData]
  split <;> rfl

@[simp]
theorem rememberData_missingUidCounts :
    (rememberData env c).missingUidCounts = c.missingUidCounts := by
  rw [rememberData]
  split <;> rfl

@[simp]
theorem rememberData_inRecovery : (rememberData env c).inRecovery = c.inRecovery := by
  rw [rememberData]
  split <;> rfl

@[simp]
theorem rememberData_recoveryStartedAt :
    (rememberData env c).recoveryStartedAt = c.recoveryStartedAt := by
  rw [rememberData]
  split <;> rfl

@[simp]
theorem rememberData_recoveringUntil : (rememberData env c).recoveringUntil = c.recoveringUntil := by
  rw [rememberData]
  split <;> rfl

@[simp]
theorem armRecovery_data : (armRecovery env c p).data = c.data := rememberData_data env c

@[simp]
theorem armRecovery_dataKeys : (armRecovery env c p).dataKeys = c.dataKeys :=
  rememberData_dataKeys env c

@[simp]
theorem armRecovery_seenUids : (armRecovery env c p).seenUids = c.seenUids ∪ c.dataKeys :=
  rememberData_seenUids env c

@[simp]
theorem armRecovery_uidRemap : (armRecovery env c p).uidRemap = c.uidRemap :=
  rememberData_uidRemap env c

@[simp]
theorem armRecovery_missingUidCounts : (armRecovery env c p).missingUidCounts = Dict.empty := rfl

@[simp]
theorem armRecovery_recoveryStartedAt :
    (armRecovery env c p).recoveryStartedAt = some (c.recoveryStartedAt.getD p.later) := rfl

@[simp]
theorem armRecovery_inRecovery : (armRecovery env c p).inRecovery = true := by
  change ((match c.recoveringUntil with
    | none => some (p.now + recoveryWindowSeconds env.updateIntervalSeconds)
    | some current => if p.now + recoveryWindowSeconds env.updateIntervalSeconds > current then
        some (p.now + recoveryWindowSeconds env.updateIntervalSeconds) else some current).isSome) = true
  cases c.recoveringUntil with
  | none => rfl
  | some current => dsimp only; split <;> rfl

/-- A successful poll leaves recovery alone or ends it. -/
theorem noteSuccessfulPoll_cases (now : ℚ) :
    (∃ n, noteSuccessfulPoll c connections now = { c with recoveryStablePolls := n }) ∨
      (connections.isEmpty = false ∧ noteSuccessfulPoll c connections now = clearRecovery c) := by
  rw [noteSuccessfulPoll]
  split
  next => exact Or.inl ⟨c.recoveryStablePolls, rfl⟩
  next until_ hu =>
    by_cases hw : connections.isEmpty ∨ now < until_
    · exact Or.inl ⟨0, if_pos hw⟩
    · rw [if_neg hw]
      split
      · right
        rw [not_or, Bool.not_eq_true] at hw
        exact ⟨hw.1, rfl⟩
      · exact Or.inl ⟨_, rfl⟩

@[simp]
theorem noteSuccessfulPoll_uidRemap (now : ℚ) :
    (noteSuccessfulPoll c connections now).uidRemap = c.uidRemap := by
  rcases noteSuccessfulPoll_cases c connections now with ⟨n, h⟩ | ⟨-, h⟩
  · rw [h]
  · rw [h]; rfl

@[simp]
theorem noteSuccessfulPoll_seenUids (now : ℚ) :
    (noteSuccessfulPoll c connections now).seenUids = c.seenUids := by
  rcases noteSuccessfulPoll_cases c connections now with ⟨n, h⟩ | ⟨-, h⟩
  · rw [h]
  · rw [h]; rfl

@[simp]
theorem noteSuccessfulPoll_uidNames (now : ℚ) :
    (noteSuccessfulPoll c connections now).uidNames = c.uidNames := by
  rcases noteSuccessfulPoll_cases c connections now with ⟨n, h⟩ | ⟨-, h⟩
  · rw [h]
  · rw [h]; rfl

@[simp]
theorem noteSuccessfulPoll_missingUidCounts (now : ℚ) :
    (noteSuccessfulPoll c connections now).missingUidCounts = c.missingUidCounts := by
  rcases noteSuccessfulPoll_cases c connections now with ⟨n, h⟩ | ⟨-, h⟩
  · rw [h]
  · rw [h]; rfl

theorem noteSuccessfulPoll_inRecovery {now : ℚ}
    (h : (noteSuccessfulPoll c connections now).inRecovery = true) : c.inRecovery = true := by
  rcases noteSuccessfulPoll_cases c connections now with ⟨n, he⟩ | ⟨-, he⟩
  · rw [he] at h
    exact h
  · rw [he] at h
    cases h

@[simp]
theorem trackMissingUids_uidRemap (currentUids : Finset String) :
    (trackMissingUids env c currentUids).2.uidRemap = c.uidRemap := rememberData_uidRemap env c

@[simp]
theorem trackMissingUids_seenUids (currentUids : Finset String) :
    (trackMissingUids env c currentUids).2.seenUids = c.seenUids ∪ c.dataKeys ∪ currentUids := by
  change (rememberData env c).seenUids ∪ currentUids = _
  rw [rememberData_seenUids]

theorem trackMissingUids_inRecovery (currentUids : Finset String) :
    (trackMissingUids env c currentUids).2.inRecovery = c.inRecovery := rememberData_inRecovery env c

theorem trackPoll_inside (h : c.inRecovery = true) (currentUids : Finset String) :
    trackPoll env c currentUids = (∅, { c with
      missingUidCounts := Dict.empty, seenUids := c.seenUids ∪ c.dataKeys ∪ currentUids }) := if_pos h

theorem trackPoll_outside (h : c.inRecovery = false) (currentUids : Finset String) :
    trackPoll env c currentUids = trackMissingUids env c currentUids := by
  rw [trackPoll, h]
  rfl

@[simp]
theorem trackPoll_uidRemap (currentUids : Finset String) :
    (trackPoll env c currentUids).2.uidRemap = c.uidRemap := by
  rw [trackPoll]
  split
  · rfl
  · exact trackMissingUids_uidRemap env c currentUids

@[simp]
theorem trackPoll_seenUids (currentUids : Finset String) :
    (trackPoll env c currentUids).2.seenUids = c.seenUids ∪ c.dataKeys ∪ currentUids := by
  rw [trackPoll]
  split
  · rfl
  · exact trackMissingUids_seenUids env c currentUids

@[simp]
theorem trackPoll_inRecovery (currentUids : Finset String) :
    (trackPoll env c currentUids).2.inRecovery = c.inRecovery := by
  rw [trackPoll]
  split
  · rfl
  · exact trackMissingUids_inRecovery env c currentUids

@[simp]
theorem finishPoll_uidRemap : (finishPoll env c p connections).2.uidRemap = c.uidRemap :=
  (noteSuccessfulPoll_uidRemap _ _ _).trans (trackPoll_uidRemap env c _)

@[simp]
theorem finishPoll_seenUids :
    (finishPoll env c p connections).2.seenUids = c.seenUids ∪ c.dataKeys ∪ connections.keys :=
  (noteSuccessfulPoll_seenUids _ _ _).trans (trackPoll_seenUids env c _)

@[simp]
theorem finishPoll_outcome : (finishPoll env c p connections).1.outcome = .ok connections := rfl

theorem scheduleReauth_cases (hass : Hass) :
    (scheduleReauth env hass c).2 = c ∨
      (scheduleReauth env hass c).2 = { c with reauthScheduled := true } := by
  rw [scheduleReauth]
  cases env.entryId with
  | none => exact Or.inl rfl
  | some entryId =>
      cases h : hass.configEntries.get? entryId with
      | none => exact Or.inl (by simp [h])
      | some entry =>
          simp only [h]
          split
          · exact Or.inl rfl
          · exact Or.inr rfl

end Frame

end FritzboxVpn.Coordinator
