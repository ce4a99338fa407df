import FritzboxVpn.Listings

namespace FritzboxVpn.ListingPlaces

open Constants JsonValue OrderedDict Parsing Session

/-- The value at the end of a path of keys through nested dicts; null counts
as missing. -/
def valueAt : Json → List String → Option Json
  | v, [] => some v
  | v, key :: path => ((asDict v).bind fun d => field d key).bind fun inner => valueAt inner path

def places : ListingMode → List (List String)
  | .dataLua =>
      [[apiKeyData, apiKeyInit, apiKeyBoxConnections],
        [apiKeyData, apiKeyInit, apiPageSharewireguard, apiKeyBoxConnections],
        [apiKeyData, apiKeyBoxConnections],
        [apiKeyData, apiPageSharewireguard, apiKeyBoxConnections]]
  | .rest => [[apiKeyConnection]]

def foundList (mode : ListingMode) (document : Json) : Option Json :=
  (places mode).findSome? (valueAt document)

theorem findSome?_four {α β : Type} (f : α → Option β) (a b c d : α) :
    [a, b, c, d].findSome? f = (f a).or ((f b).or ((f c).or (f d))) := by
  simp only [List.findSome?_cons, List.findSome?_nil]
  cases f a <;> cases f b <;> cases f c <;> cases f d <;> rfl

theorem foundList_of_asDict_none {document : Json} (h : asDict document = none) (mode : ListingMode) :
    foundList mode document = none := by
  cases mode <;> simp [foundList, places, valueAt, h]

theorem extractBoxConnectionsFromData_eq {document : Json} {data : Dict String Json}
    (h : asDict document = some data) :
    extractBoxConnectionsFromData data apiPageSharewireguard = foundList .dataLua document := by
  have hvalue : ∀ v, valueAt v [] = some v := fun v => rfl
  rw [foundList, places, findSome?_four]
  simp only [valueAt, h, Option.bind_some, extractBoxConnectionsFromData, boxConnectionsOf]
  cases hdata : field data apiKeyData with
  | none => rfl
  | some v =>
      simp only [Option.bind_some]
      cases asDict v with
      | none => rfl
      | some inner =>
          simp only [Option.bind_some, Option.bind_assoc, Option.bind_fun_some]

theorem foundList_rest {document : Json} {data : Dict String Json} (h : asDict document = some data) :
    foundList .rest document = field data apiKeyConnection := by
  simp only [foundList, places, List.findSome?_cons, List.findSome?_nil, valueAt, h,
    Option.bind_some, Option.bind_fun_some]
  cases field data apiKeyConnection <;> rfl

end FritzboxVpn.ListingPlaces
