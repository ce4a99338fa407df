import FritzboxVpn.Constants
import FritzboxVpn.Exceptions
import FritzboxVpn.JsonValue
import FritzboxVpn.Text

namespace FritzboxVpn.Parsing

open Constants Exceptions JsonValue OrderedDict Text

def connectionActiveFromApi (conn : Dict String Json) : Bool :=
  match (field conn apiKeyActive).or (field conn apiKeyActivated) with
  | some (.bool b) => b
  | some (.int n) => n != 0
  | some (.str s) => activeStateStringsTrue.contains (lower (strip s))
  | _ => false

def normalizeConnectionUid (repr : Json → String) (rawUid : Option Json) : Option String :=
  match rawUid with
  | none => none
  | some v => if strip (pyStr repr v) = "" then none else some (strip (pyStr repr v))

def rawUidOf (dictKey : Option String) (c : Dict String Json) : Option Json :=
  match dictKey, field c apiKeyUid with
  | some key, none => some (.str key)
  | some key, some (.str s) => if strip s = "" then some (.str key) else some (.str s)
  | _, rawUid => rawUid

def normalizeEntry (uid : String) (c : Dict String Json) : Json :=
  .obj ((c.insert apiKeyUid (.str uid)).insert apiKeyActive (.bool (connectionActiveFromApi c))).entries

def addConnection (repr : Json → String) (result : Dict String Json)
    (item : Option String × Json) : Dict String Json :=
  match asDict item.2 with
  | none => result
  | some c =>
      match normalizeConnectionUid repr (rawUidOf item.1 c) with
      | none => result
      | some uid => result.insert uid (normalizeEntry uid c)

def itemsWithKeys : Json → List (Option String × Json)
  | .obj fields => (Dict.ofList fields).entries.map fun p => (some p.1, p.2)
  | .arr items => items.map fun c => (none, c)
  | _ => []

def normalizeBoxConnections (repr : Json → String) (box : Json) : Dict String Json :=
  (itemsWithKeys box).foldl (addConnection repr) Dict.empty

def textFromXml (parseXml : String → Option (String → Option String)) (tag content : String) :
    Option String :=
  if strip content = "" then none
  else (parseXml content).bind fun findtext => findtext tag

def parseChallengeFromLoginXml (parseXml : String → Option (String → Option String))
    (content : String) : Option String :=
  textFromXml parseXml loginTagChallenge content

def parseSidFromLoginResponse (parseXml : String → Option (String → Option String))
    (content : String) : Option String :=
  textFromXml parseXml loginTagSid content

def parseBlocktimeFromLoginXml (parseXml : String → Option (String → Option String))
    (content : String) : Option Int :=
  (textFromXml parseXml loginTagBlocktime content).bind parseInt

def boxConnectionsOf (payload : Option Json) : Option Json :=
  (payload.bind asDict).bind fun d => field d apiKeyBoxConnections

/-- The places of boxConnections in the order in which they are tried. -/
def extractBoxConnectionsFromData (data : Dict String Json) (page : String) : Option Json :=
  match (field data apiKeyData).bind asDict with
  | none => none
  | some inner =>
      let init := (field inner apiKeyInit).bind asDict
      (init.bind fun d => field d apiKeyBoxConnections).or
        ((boxConnectionsOf (init.bind fun d => field d page)).or
          ((field inner apiKeyBoxConnections).or (boxConnectionsOf (field inner page))))

/-- `int(value) != 0`, false where it raises ValueError or TypeError. -/
def nonzeroInt : Json → Except PyError Bool
  | .bool b => .ok b
  | .int n => .ok (n != 0)
  | .float x =>
      match x.toInt with
      | some n => .ok (n != 0)
      | none =>
          if x.repr = "nan" then .ok false
          else .error (otherError "cannot convert float infinity to integer")
  | .str s => .ok ((parseInt s).any (· != 0))
  | _ => .ok false

def stateReady (conn : Dict String Json) : Bool :=
  match conn.get? apiKeyState with
  | some (.str s) => strip s == wireguardStateReady
  | _ => false

def connectionConnectedFromRest (conn : Dict String Json) : Except PyError Bool :=
  if stateReady conn then .ok true
  else
    match field conn apiKeyConnectedSince with
    | none => .ok false
    | some rawSince => nonzeroInt rawSince

def restWireguardEntry (repr : Json → String) (conn : Dict String Json) :
    Except PyError (Option Json) :=
  let get (key : String) : Json := (conn.get? key).getD .null
  if strip (pyStr repr (get apiKeyAccessType)) ≠ accessTypeWireguard then .ok none
  else
    (connectionConnectedFromRest conn).map fun connected =>
      some (.obj
        [(apiKeyUid, ((field conn apiKeyUid).or (field conn apiKeyUidRest)).getD .null),
          (apiKeyName, get apiKeyName), (apiKeyActivated, get apiKeyActivated),
          (apiKeyActive, (conn.get? apiKeyActive).getD (get apiKeyActivated)),
          (apiKeyConnected, .bool connected)])

def restWireguardEntries (repr : Json → String) : List Json → Except PyError (List Json)
  | [] => .ok []
  | item :: rest =>
      match asDict item with
      | none => restWireguardEntries repr rest
      | some conn =>
          (restWireguardEntry repr conn).bind fun entry =>
            (restWireguardEntries repr rest).map fun entries => entry.toList ++ entries

def extractWireguardConnectionsFromRest (repr : Json → String) (data : Dict String Json) :
    Except PyError (Option (List Json)) :=
  match field data apiKeyConnection with
  | some (.arr rawConnections) => (restWireguardEntries repr rawConnections).map some
  | _ => .ok none

def Normalized (connections : Dict String Json) : Prop :=
  ∀ uid v, connections.get? uid = some v → ∃ c, v = normalizeEntry uid c

theorem addConnection_normalized {repr : Json → String} {result : Dict String Json}
    (h : Normalized result) (item : Option String × Json) :
    Normalized (addConnection repr result item) := by
  rw [addConnection]
  split
  · exact h
  · rename_i c _
    split
    · exact h
    · intro uid v hv
      rw [Dict.get?_insert] at hv
      split at hv
      · rename_i hkey
        rw [hkey]
        exact ⟨c, (Option.some.inj hv).symm⟩
      · exact h uid v hv

theorem normalizeBoxConnections_normalized (repr : Json → String) (box : Json) :
    Normalized (normalizeBoxConnections repr box) := by
  have kept : ∀ (items : List (Option String × Json)) result, Normalized result →
      Normalized (items.foldl (addConnection repr) result) := by
    intro items
    induction items with
    | nil => exact fun _ h => h
    | cons item items ih => exact fun _ h => ih _ (addConnection_normalized h item)
  exact kept _ _ fun uid v h => by cases h

theorem asDict_normalizeEntry {uid : String} {c d : Dict String Json}
    (h : asDict (normalizeEntry uid c) = some d) :
    d.get? apiKeyUid = some (.str uid) ∧
      d.get? apiKeyActive = some (.bool (connectionActiveFromApi c)) := by
  rw [normalizeEntry, asDict, Option.some.injEq] at h
  subst h
  rw [Dict.ofList_entries, Dict.ofList_entries]
  constructor
  · rw [Dict.get?_insert_ne _ (by decide), Dict.get?_insert_self]
  · rw [Dict.get?_insert_self]

/-- A number outside the integers is the only thing the extraction fails on. -/
theorem nonzeroInt_error {v : Json} {e : PyError} (h : nonzeroInt v = .error e) :
    e = otherError "cannot convert float infinity to integer" := by
  cases v with
  | float x =>
      simp only [nonzeroInt] at h
      split at h
      · cases h
      · split at h
        · cases h
        · exact (Except.error.inj h).symm
  | _ => simp [nonzeroInt] at h

theorem connectionConnectedFromRest_error {conn : Dict String Json} {e : PyError}
    (h : connectionConnectedFromRest conn = .error e) :
    e = otherError "cannot convert float infinity to integer" := by
  simp only [connectionConnectedFromRest] at h
  split at h
  · cases h
  · split at h
    · cases h
    · exact nonzeroInt_error h

theorem restWireguardEntries_error {repr : Json → String} {items : List Json} {e : PyError}
    (h : restWireguardEntries repr items = .error e) :
    e = otherError "cannot convert float infinity to integer" := by
  induction items with
  | nil => cases h
  | cons item rest ih =>
      simp only [restWireguardEntries] at h
      split at h
      · exact ih h
      · rename_i conn _
        cases he : restWireguardEntry repr conn with
        | error e' =>
            rw [he] at h
            simp only [restWireguardEntry] at he
            split at he
            · cases he
            · cases hc : connectionConnectedFromRest conn with
              | ok b => rw [hc] at he; cases he
              | error e'' =>
                  rw [hc] at he
                  cases he
                  cases h
                  exact connectionConnectedFromRest_error hc
        | ok entry =>
            rw [he] at h
            cases hr : restWireguardEntries repr rest with
            | ok entries => rw [Except.bind, hr] at h; cases h
            | error e' =>
                rw [Except.bind, hr] at h
                cases h
                exact ih hr

theorem extractWireguardConnectionsFromRest_error {repr : Json → String} {data : Dict String Json}
    {e : PyError} (h : extractWireguardConnectionsFromRest repr data = .error e) :
    e = otherError "cannot convert float infinity to integer" := by
  simp only [extractWireguardConnectionsFromRest] at h
  split at h
  · rename_i raw _
    cases hr : restWireguardEntries repr raw with
    | ok entries => rw [hr] at h; cases h
    | error e' =>
        rw [hr] at h
        cases h
        exact restWireguardEntries_error hr
  · cases h

end FritzboxVpn.Parsing
