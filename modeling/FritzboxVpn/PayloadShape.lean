import FritzboxVpn.FailedPolls
import FritzboxVpn.ListingPlaces

namespace FritzboxVpn.PayloadShape

open Constants Exceptions FailedPolls FetchErrors Interaction Interaction.Program JsonValue
  ListingPlaces Listings OrderedDict Parsing Session

def isContainer : Json → Bool
  | .arr _ | .obj _ => true
  | _ => false

def HasList (mode : ListingMode) (document : Json) : Prop :=
  ∃ v, foundList mode document = some v ∧ isContainer v = true

variable {account : Account} {sid : String} {mode : ListingMode} {document : Json}
  {partner : Partner Request Answer} {w : SessionWorld}

/-- A document without a connection list is taken for a missing payload, and
only one with a list for a box without connections. -/
structure MissingNotEmpty (account : Account) (sid : String) (mode : ListingMode) (document : Json)
    (partner : Partner Request Answer) (w : SessionWorld) : Prop where
  empty : ∀ connections, (fetchListingByMode account sid mode partner w).1 = .ok (some connections) →
    connections.isEmpty = true → HasList mode document
  missing : ¬ HasList mode document → (fetchListingByMode account sid mode partner w).1 = .ok none

def WrongType (mode : ListingMode) (document : Json) : Prop :=
  mode = .dataLua ∧ ∃ v, foundList mode document = some v ∧ isContainer v = false

theorem notFound_of_jsonBody {lib : Library} {a : Answer} (h : jsonBody lib a = some document) :
    notFound a = false := by
  cases a with
  | error e => rfl
  | ok response =>
      have hs : response.status = httpStatusOk := by
        by_contra hs
        rw [jsonBody_of_status hs] at h
        cases h
      rw [notFound, hs]
      rfl

theorem fetchListingByMode_document {result : Option Listing}
    (h : jsonBody account.lib (partner w.trace (listingRequest mode w.state.protocol sid)) =
      some document)
    (hc : connectionList account.lib mode document = .ok result) :
    (fetchListingByMode account sid mode partner w).1 = .ok result := by
  have h404 := notFound_of_jsonBody h
  have hsent := sentListing_of_jsonBody mode h
  rw [hc] at hsent
  refine yields_result (P := fun r _ => r = .ok result) |>.mp ?_
  refine fetchListingByMode_answered rfl ⟨?_, ?_, ?_, ?_⟩
  · intro l hl
    rw [hsent] at hl
    exact congrArg Except.ok hl.symm
  · intro hn _
    rw [hsent] at hn
    exact congrArg Except.ok hn.symm
  · intro hn habsent
    rw [hsent] at hn
    obtain rfl : result = none := hn
    exact absurd (Or.inr ⟨document, h, hc⟩) habsent
  · intro hn hyes
    rw [hsent] at hn
    obtain rfl : result = none := hn
    have hfound := (hyes (Or.inr ⟨document, h, hc⟩)).2
    rw [h404] at hfound
    cases hfound

theorem connectionList_dataLua (lib : Library) (document : Json) :
    connectionList lib .dataLua document =
      .ok ((foundList .dataLua document).map (normalizeBoxConnections lib.repr)) := by
  cases hd : asDict document with
  | none => rw [foundList_of_asDict_none hd, connectionList, hd]; rfl
  | some data =>
      simp only [connectionList, hd, dataLuaConnections, extractBoxConnectionsFromData_eq hd]

/-- The REST listing is only read where it is an array. -/
theorem connectionList_rest_none {lib : Library} (h : ¬ HasList .rest document) :
    connectionList lib .rest document = .ok none := by
  cases hd : asDict document with
  | none => rw [connectionList, hd]
  | some data =>
      have hnone : extractWireguardConnectionsFromRest lib.repr data = .ok none := by
        rw [extractWireguardConnectionsFromRest]
        split
        · rename_i items hf
          exact absurd ⟨.arr items, by rw [foundList_rest hd, hf], rfl⟩ h
        · rfl
      simp only [connectionList, hd, restConnections, hnone]
      rfl

theorem normalizeBoxConnections_of_not_container {repr : Json → String} {v : Json}
    (h : isContainer v = false) : normalizeBoxConnections repr v = Dict.empty := by
  cases v with
  | arr items => cases h
  | obj fields => cases h
  | _ => rfl

/-- A malformed listing is a missing one, except where data.lua has a value
of another type in the place of the list. -/
theorem missingNotEmpty_iff
    (h : jsonBody account.lib (partner w.trace (listingRequest mode w.state.protocol sid)) =
      some document) :
    MissingNotEmpty account sid mode document partner w ↔ ¬ WrongType mode document := by
  constructor
  · rintro hm ⟨rfl, v, hv, hcontainer⟩
    have hc := connectionList_dataLua account.lib document
    rw [hv, Option.map_some, normalizeBoxConnections_of_not_container hcontainer] at hc
    obtain ⟨v', hv', hcontainer'⟩ := hm.empty _ (fetchListingByMode_document h hc) rfl
    rw [hv] at hv'
    cases hv'
    rw [hcontainer] at hcontainer'
    cases hcontainer'
  · intro hno
    have hmissing : ¬ HasList mode document →
        (fetchListingByMode account sid mode partner w).1 = .ok none := by
      intro hlist
      apply fetchListingByMode_document h
      cases mode with
      | rest => exact connectionList_rest_none hlist
      | dataLua =>
          have hnone : foundList .dataLua document = none := by
            rw [Option.eq_none_iff_forall_ne_some]
            intro v hv
            cases hcontainer : isContainer v with
            | false => exact hno ⟨rfl, v, hv, hcontainer⟩
            | true => exact hlist ⟨v, hv, hcontainer⟩
          rw [connectionList_dataLua, hnone, Option.map_none]
    refine ⟨?_, hmissing⟩
    intro connections hc _
    by_contra hlist
    rw [hmissing hlist] at hc
    cases hc

def documentLibrary (document : Json) : Library := { flatLibrary with loads := fun _ => .ok document }

def documentAccount (document : Json) : Account :=
  ⟨"fritz.box", "admin", "secret", documentLibrary document⟩

def jsonPage : Answer := .ok ⟨200, "application/json", .ok ""⟩

def loggedIn : SessionWorld := ⟨{ sid := some "0123456789abcdef" }, []⟩

theorem jsonBody_jsonPage (document : Json) :
    jsonBody (documentLibrary document) jsonPage = some document := by
  rw [jsonPage, jsonBody, if_pos ⟨rfl, by decide +kernel⟩]
  rfl

def lastPlace (list : Json) : Json :=
  .obj [(apiKeyData, .obj [(apiPageSharewireguard, .obj [(apiKeyBoxConnections, list)])])]

/-- An empty text in the place of the list makes a box without connections,
and the whole call reports it as one. -/
theorem emptyText_soft_success :
    (∃ connections, (asyncGetVpnConnections (documentAccount (lastPlace (.str "")))
        (fun _ _ => jsonPage) loggedIn).1 = .ok connections ∧ connections.isEmpty = true) ∧
    ¬ ∀ (account : Account) (sid : String) (mode : ListingMode) (document : Json)
      (partner : Partner Request Answer) (w : SessionWorld),
      jsonBody account.lib (partner w.trace (listingRequest mode w.state.protocol sid)) =
        some document → MissingNotEmpty account sid mode document partner w := by
  have hbody := jsonBody_jsonPage (lastPlace (.str ""))
  have hlist : connectionList (documentLibrary (lastPlace (.str ""))) .dataLua
      (lastPlace (.str "")) = .ok (some Dict.empty) := rfl
  constructor
  · have hrun : ((asyncGetVpnConnections (documentAccount (lastPlace (.str "")))
        (fun _ _ => jsonPage) loggedIn).1.toOption.any (·.isEmpty)) = true := by decide +kernel
    obtain ⟨connections, hc, hempty⟩ := (Option.any_eq_true _ _).mp hrun
    exact ⟨connections, toOption_eq_some hc, hempty⟩
  · intro h
    have hm := h (documentAccount (lastPlace (.str ""))) "0123456789abcdef" .dataLua
      (lastPlace (.str "")) (fun _ _ => jsonPage) loggedIn hbody
    obtain ⟨v, hv, hcontainer⟩ := hm.empty _ (fetchListingByMode_document hbody hlist) rfl
    cases hv
    cases hcontainer

theorem missingNotEmpty_emptyList :
    MissingNotEmpty (documentAccount (lastPlace (.arr []))) "0123456789abcdef" .dataLua
      (lastPlace (.arr [])) (fun _ _ => jsonPage) loggedIn := by
  refine (missingNotEmpty_iff ?_).mpr ?_
  · exact jsonBody_jsonPage (lastPlace (.arr []))
  rintro ⟨-, v, hv, hcontainer⟩
  cases hv
  cases hcontainer

end FritzboxVpn.PayloadShape
