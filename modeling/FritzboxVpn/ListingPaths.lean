import FritzboxVpn.EntityStates
import FritzboxVpn.FailedPolls
import FritzboxVpn.ListingPlaces
import FritzboxVpn.Normalisation

namespace FritzboxVpn.ListingPaths

open Constants Coordinator Entity EntityStates FailedPolls JsonValue ListingPlaces Listings Normalisation
  OrderedDict Parsing Session Text

structure Connection where
  uid : String
  name : String
  activated : Bool
  connected : Bool
  trimmed : strip uid = uid
  nonblank : uid ≠ ""

namespace Connection

def status (conn : Connection) : String :=
  if conn.activated = false then statusDisabled
  else if conn.connected then statusConnected
  else statusEnabled

end Connection

inductive EncodesActivated : Bool → Json → Prop
  | bool (b : Bool) : EncodesActivated b (.bool b)
  | int (n : Int) : EncodesActivated (n != 0) (.int n)
  | yes {s : String} (h : lower (strip s) ∈ activeStateStringsTrue) :
      EncodesActivated true (.str s)
  | no {s : String} (h : lower (strip s) ∈ ["0", "false", "no", "off"]) :
      EncodesActivated false (.str s)

inductive EncodesConnected : Bool → Json → Prop
  | bool (b : Bool) : EncodesConnected b (.bool b)
  | one : EncodesConnected true (.int 1)
  | zero : EncodesConnected false (.int 0)
  | oneText : EncodesConnected true (.str "1")
  | zeroText : EncodesConnected false (.str "0")

inductive EncodesSince : Int → Json → Prop
  | int (n : Int) : EncodesSince n (.int n)
  | text {n : Int} {s : String} (h : parseInt s = some n) : EncodesSince n (.str s)

inductive RestConnected (fields : Dict String Json) : Bool → Prop
  | ready {s : String} (hs : fields.get? apiKeyState = some (.str s))
      (hr : strip s = wireguardStateReady) : RestConnected fields true
  | since {v : Json} {n : Int} (hv : field fields apiKeyConnectedSince = some v)
      (hn : EncodesSince n v) (h0 : n ≠ 0) : RestConnected fields true
  | idle (hs : ∀ s, fields.get? apiKeyState = some (.str s) → strip s ≠ wireguardStateReady)
      (hv : ∀ v, field fields apiKeyConnectedSince = some v → EncodesSince 0 v) :
      RestConnected fields false

structure Item (repr : Json → String) (conn : Connection) (item : Option String × Json)
    (fields : Dict String Json) : Prop where
  identifies : Identifies repr item conn.uid fields
  name : fields.get? apiKeyName = some (.str conn.name)
  activated : ∃ v, FlagOf fields v ∧ EncodesActivated conn.activated v

def DataLuaItem (repr : Json → String) (conn : Connection) (item : Option String × Json) : Prop :=
  ∃ fields, Item repr conn item fields ∧
    ∃ v, fields.get? apiKeyConnected = some v ∧ EncodesConnected conn.connected v

def accessType (repr : Json → String) (fields : Dict String Json) : String :=
  strip (pyStr repr ((fields.get? apiKeyAccessType).getD .null))

structure RestItem (repr : Json → String) (conn : Connection) (fields : Dict String Json) :
    Prop where
  wireguard : accessType repr fields = accessTypeWireguard
  uid : ∃ v, (field fields apiKeyUid).or (field fields apiKeyUidRest) = some v ∧
    strip (pyStr repr v) = conn.uid
  name : fields.get? apiKeyName = some (.str conn.name)
  activated : ∃ v, FlagOf fields v ∧ EncodesActivated conn.activated v
  connected : RestConnected fields conn.connected

/-- The REST listing has VPN connections of other kinds between the WireGuard ones. -/
inductive RestList (repr : Json → String) : List Connection → List Json → Prop
  | nil : RestList repr [] []
  | listed {conn : Connection} {v : Json} {fields : Dict String Json} {conns : List Connection}
      {items : List Json} (hv : asDict v = some fields) (hi : RestItem repr conn fields)
      (hl : RestList repr conns items) : RestList repr (conn :: conns) (v :: items)
  | other {v : Json} {conns : List Connection} {items : List Json}
      (hv : ∀ fields, asDict v = some fields → accessType repr fields ≠ accessTypeWireguard)
      (hl : RestList repr conns items) : RestList repr conns (v :: items)

structure Described (repr : Json → String) (conns : List Connection) (dataLua rest : Json) :
    Prop where
  distinct : (conns.map Connection.uid).Nodup
  dataLua : ∃ box, foundList .dataLua dataLua = some box ∧
    List.Forall₂ (DataLuaItem repr) conns (itemsWithKeys box)
  rest : ∃ order items, order.Perm conns ∧ foundList .rest rest = some (.arr items) ∧
    RestList repr order items

def Shows (connections : Listing) (conn : Connection) : Prop :=
  ∀ c : Coordinator.State, c.data = some connections →
    ∀ uid, c.resolveConnectionUid uid = conn.uid →
      getVpnStatus c uid = conn.status ∧ switchIsOn c uid = conn.activated ∧
        connectedIsOn c uid = conn.connected

/-- A listing comes out, with the box's connections and nothing else, and all are shown right. -/
def ShowsAll (lib : Library) (conns : List Connection) (mode : ListingMode) (document : Json) :
    Prop :=
  ∃ connections, connectionList lib mode document = .ok (some connections) ∧
    connections.keys = (conns.map Connection.uid).toFinset ∧
    ∀ conn ∈ conns, Shows connections conn

def SaysZeroText (document : Json) : Prop :=
  ∃ box, foundList .dataLua document = some box ∧
    ∃ item ∈ itemsWithKeys box, ∃ fields, asDict item.2 = some fields ∧
      fields.get? apiKeyConnected = some (.str "0")

variable {repr : Json → String}

theorem EncodesActivated.affirms {b : Bool} {v : Json} (h : EncodesActivated b v) :
    b = true ↔ Affirms v := by
  constructor
  · intro hb
    cases h with
    | bool => exact hb ▸ Affirms.bool
    | int n => exact Affirms.int (by simpa using hb)
    | yes h => exact Affirms.str h
    | no h => cases hb
  · intro ha
    cases h with
    | bool => cases ha; rfl
    | int n =>
        cases ha with
        | int hn => simpa using hn
    | yes h => rfl
    | no h =>
        cases ha with
        | str hs =>
            simp only [activeStateStringsTrue, List.mem_cons, List.not_mem_nil, or_false] at h hs
            rcases h with h | h | h | h <;> simp [h] at hs

theorem EncodesConnected.truthy_iff {b : Bool} {v : Json} (h : EncodesConnected b v) :
    truthy v = b ↔ v ≠ .str "0" := by
  cases h <;> simp [truthy]

theorem exists_right {α β : Type} {R : α → β → Prop} {l : List α} {l' : List β}
    (h : List.Forall₂ R l l') : ∀ a ∈ l, ∃ b ∈ l', R a b := by
  induction h with
  | nil => exact fun a ha => by cases ha
  | cons hr _ ih =>
      intro a ha
      rcases List.mem_cons.mp ha with rfl | ha
      · exact ⟨_, List.mem_cons_self, hr⟩
      · obtain ⟨b, hb, hab⟩ := ih a ha
        exact ⟨b, List.mem_cons_of_mem _ hb, hab⟩

section Normalised

variable {conns : List Connection} {box : Json} {R : Connection → Option String × Json → Prop}

theorem entries_keys (hR : ∀ conn item, R conn item → ∃ fields, Identifies repr item conn.uid fields)
    {items : List (Option String × Json)} (h : List.Forall₂ R conns items) :
    (items.filterMap (entryOf repr)).map Prod.fst = conns.map Connection.uid := by
  induction h with
  | nil => rfl
  | @cons conn item _ _ hr _ ih =>
      obtain ⟨fields, hf⟩ := hR conn item hr
      have he := entryOf_eq_some.mpr ⟨fields, hf, rfl⟩
      rw [List.filterMap_cons_some he, List.map_cons, List.map_cons, ih]

theorem keys_of_items
    (hR : ∀ conn item, R conn item → ∃ fields, Identifies repr item conn.uid fields)
    (h : List.Forall₂ R conns (itemsWithKeys box)) :
    (normalizeBoxConnections repr box).keys = (conns.map Connection.uid).toFinset := by
  rw [normalizeBoxConnections_eq, Dict.keys_ofList, entries_keys hR h]

/-- With distinct UIDs no item overwrites another's entry. -/
theorem get?_of_item
    (hR : ∀ conn item, R conn item → ∃ fields, Identifies repr item conn.uid fields)
    (h : List.Forall₂ R conns (itemsWithKeys box)) (hd : (conns.map Connection.uid).Nodup)
    {item : Option String × Json} (hi : item ∈ itemsWithKeys box) {uid : String}
    {fields : Dict String Json} (hf : Identifies repr item uid fields) :
    (normalizeBoxConnections repr box).get? uid = some (normalizeEntry uid fields) := by
  rw [← entries_keys hR h] at hd
  rw [normalizeBoxConnections_eq, Dict.get?_ofList fun p hp q hq he =>
    congrArg Prod.snd (List.inj_on_of_nodup_map hd hp hq he)]
  exact List.mem_filterMap.mpr ⟨item, hi, entryOf_eq_some.mpr ⟨fields, hf, rfl⟩⟩

end Normalised

/-- An entry shows its connection as the box knows it exactly if the value of
its connected flag is true in Python where the connection is up. -/
theorem shows_iff {connections : Listing} {conn : Connection} {item : Option String × Json}
    {fields : Dict String Json} {v : Json} (hi : Item repr conn item fields)
    (hget : connections.get? conn.uid = some (normalizeEntry conn.uid fields))
    (hv : fields.get? apiKeyConnected = some v) :
    Shows connections conn ↔ truthy v = conn.connected := by
  obtain ⟨entry, he, hc⟩ := normalizeEntry_carries conn.uid fields
  obtain ⟨b, hb, hflag⟩ := hc.active
  have hactive : b = conn.activated := by
    obtain ⟨w, hw, henc⟩ := hi.activated
    rw [Bool.eq_iff_iff, hflag, henc.affirms]
    constructor
    · rintro ⟨w', hw', ha⟩
      exact hw.unique hw' ▸ ha
    · exact fun ha => ⟨w, hw, ha⟩
  have hconnected : entry.get? apiKeyConnected = some v := by
    rw [hc.rest _ (by decide) (by decide), hv]
  have hconn : ∀ c : Coordinator.State, c.data = some connections →
      ∀ uid, c.resolveConnectionUid uid = conn.uid → vpnConnection c uid = some entry := by
    intro c hdata uid hres
    rw [vpnConnection, connectionData, hdata, hres, Option.bind_some, hget, he, Option.bind_some,
      asDict, Dict.ofList_entries_eq]
  constructor
  · intro h
    have hres : ({ data := some connections } : Coordinator.State).resolveConnectionUid conn.uid =
        conn.uid := State.resolveConnectionUid_of_none rfl
    obtain ⟨-, -, hon⟩ := h { data := some connections } rfl conn.uid hres
    rw [connectedIsOn, hconn _ rfl conn.uid hres] at hon
    simpa only [flagValue, hconnected, Option.getD_some] using hon
  · intro ht c hdata uid hres
    have hentry := hconn c hdata uid hres
    refine ⟨?_, ?_, ?_⟩
    · simp only [getVpnStatus, hentry, flagValue, hb, hconnected, Option.getD_some, truthy_bool,
        hactive, ht, Connection.status]
    · simp only [switchIsOn, hentry, flagValue, hb, Option.getD_some, truthy_bool,
        hactive]
    · simp only [connectedIsOn, hentry, flagValue, hconnected, Option.getD_some, ht]

theorem dataLua_showsAll_iff {lib : Library} {conns : List Connection} {document rest : Json}
    (h : Described lib.repr conns document rest) :
    ShowsAll lib conns .dataLua document ↔ ¬ SaysZeroText document := by
  obtain ⟨box, hbox, hitems⟩ := h.dataLua
  have hR : ∀ conn item, DataLuaItem lib.repr conn item →
      ∃ fields, Identifies lib.repr item conn.uid fields := fun _ _ ⟨fields, hf, _⟩ =>
    ⟨fields, hf.identifies⟩
  have hlist : connectionList lib .dataLua document =
      .ok (some (normalizeBoxConnections lib.repr box)) := by
    cases hd : asDict document with
    | none => rw [foundList_of_asDict_none hd] at hbox; cases hbox
    | some data =>
        simp only [connectionList, hd, dataLuaConnections]
        rw [extractBoxConnectionsFromData_eq hd, hbox, Option.map_some]
  have hshows : ∀ conn item fields v, item ∈ itemsWithKeys box → Item lib.repr conn item fields →
      fields.get? apiKeyConnected = some v → EncodesConnected conn.connected v →
      (Shows (normalizeBoxConnections lib.repr box) conn ↔ v ≠ .str "0") := by
    intro conn item fields v hi hf hv henc
    rw [shows_iff hf (get?_of_item hR hitems h.distinct hi hf.identifies) hv, henc.truthy_iff]
  constructor
  · rintro ⟨connections, hc, -, hall⟩ ⟨box', hbox', item, hi, fields, hd, hzero⟩
    rw [hlist] at hc
    cases hc
    rw [hbox] at hbox'
    cases hbox'
    obtain ⟨conn, hconn, fields', hf, v, hv, henc⟩ := exists_right hitems.flip item hi
    obtain rfl : fields' = fields := Option.some.inj (hf.identifies.1.symm.trans hd)
    have hne := (hshows conn item fields' v hi hf hv henc).mp (hall conn hconn)
    exact hne (Option.some.inj (hv.symm.trans hzero))
  · intro hno
    refine ⟨_, hlist, keys_of_items hR hitems, ?_⟩
    intro conn hconn
    obtain ⟨item, hi, fields, hf, v, hv, henc⟩ := exists_right hitems conn hconn
    rw [hshows conn item fields v hi hf hv henc]
    rintro rfl
    exact hno ⟨box, hbox, item, hi, fields, hf.identifies.1, hv⟩

def RestEntry (repr : Json → String) (conn : Connection) (item : Option String × Json) : Prop :=
  ∃ fields, Item repr conn item fields ∧ fields.get? apiKeyConnected = some (.bool conn.connected)

theorem EncodesSince.nonzeroInt_eq {n : Int} {v : Json} (h : EncodesSince n v) :
    nonzeroInt v = .ok (n != 0) := by
  cases h with
  | int => rfl
  | text h => rw [nonzeroInt, h, Option.any_some]

theorem RestConnected.connectionConnectedFromRest_eq {fields : Dict String Json} {b : Bool}
    (h : RestConnected fields b) : connectionConnectedFromRest fields = .ok b := by
  rw [connectionConnectedFromRest]
  cases h with
  | ready hs hr =>
      have hready : stateReady fields = true := by simp only [stateReady, hs, hr, BEq.rfl]
      rw [if_pos hready]
  | since hv hn h0 =>
      split
      · rfl
      · simp only [hv, hn.nonzeroInt_eq, bne_iff_ne.mpr h0]
  | idle hs hv =>
      have hready : stateReady fields = false := by
        rw [stateReady]
        split
        · rename_i s hstate
          exact beq_false_of_ne (hs s hstate)
        · rfl
      rw [hready, if_neg Bool.false_ne_true]
      cases hf : field fields apiKeyConnectedSince with
      | none => rfl
      | some v => simp only [(hv v hf).nonzeroInt_eq, bne_self_eq_false]

theorem restWireguardEntry_of_item {conn : Connection} {fields : Dict String Json}
    (h : RestItem repr conn fields) :
    ∃ entry, restWireguardEntry repr fields = .ok (some entry) ∧
      RestEntry repr conn (none, entry) := by
  obtain ⟨raw, hraw, hstrip⟩ := h.uid
  have hnull : raw ≠ .null := by
    rcases Option.or_eq_some_iff.mp hraw with hf | ⟨-, hf⟩
    · exact (field_eq_some_iff.mp hf).2
    · exact (field_eq_some_iff.mp hf).2
  have hwg : ¬ strip (pyStr repr ((fields.get? apiKeyAccessType).getD .null)) ≠
      accessTypeWireguard := not_not.mpr h.wireguard
  simp only [restWireguardEntry, if_neg hwg, h.connected.connectionConnectedFromRest_eq, hraw,
    h.name, Option.getD_some]
  refine ⟨_, rfl, _, ⟨⟨rfl, conn.nonblank, _, IdText.own (v := raw) ?_ ?_, hstrip⟩, rfl, ?_⟩, rfl⟩
  · exact field_eq_some_iff.mpr ⟨rfl, hnull⟩
  · rintro s rfl hblank
    exact conn.nonblank (hstrip.symm.trans hblank)
  · obtain ⟨v, hv, henc⟩ := h.activated
    refine ⟨v, ?_, henc⟩
    cases hv with
    | active hv =>
        obtain ⟨hget, hne⟩ := field_eq_some_iff.mp hv
        refine FlagOf.active (field_eq_some_iff.mpr ⟨?_, hne⟩)
        rw [hget]
        rfl
    | activated hn hv =>
        obtain ⟨hget, hne⟩ := field_eq_some_iff.mp hv
        rcases field_eq_none_iff.mp hn with hn | hn
        · refine FlagOf.active (field_eq_some_iff.mpr ⟨?_, hne⟩)
          rw [hn, hget]
          rfl
        · refine FlagOf.activated (field_eq_none_iff.mpr (Or.inr ?_))
            (field_eq_some_iff.mpr ⟨?_, hne⟩)
          · rw [hn]
            rfl
          · rw [hget]
            rfl

theorem restWireguardEntries_of_list {conns : List Connection} {items : List Json}
    (h : RestList repr conns items) :
    ∃ entries, restWireguardEntries repr items = .ok entries ∧
      List.Forall₂ (RestEntry repr) conns (itemsWithKeys (.arr entries)) := by
  induction h with
  | nil => exact ⟨[], rfl, List.Forall₂.nil⟩
  | listed hv hi _ ih =>
      obtain ⟨entry, he, hentry⟩ := restWireguardEntry_of_item hi
      obtain ⟨entries, hes, hentries⟩ := ih
      refine ⟨entry :: entries, ?_, List.Forall₂.cons hentry hentries⟩
      simp only [restWireguardEntries, hv, he, Except.bind, hes]
      rfl
  | @other v conns items hv _ ih =>
      obtain ⟨entries, hes, hentries⟩ := ih
      refine ⟨entries, ?_, hentries⟩
      cases hd : asDict v with
      | none => simp only [restWireguardEntries, hd, hes]
      | some fields =>
          have hnone : restWireguardEntry repr fields = .ok none := if_pos (hv fields hd)
          simp only [restWireguardEntries, hd, hnone, Except.bind, hes]
          rfl

theorem rest_showsAll {lib : Library} {conns : List Connection} {dataLua document : Json}
    (h : Described lib.repr conns dataLua document) : ShowsAll lib conns .rest document := by
  obtain ⟨order, items, hperm, hfound, hitems⟩ := h.rest
  obtain ⟨entries, hes, hentries⟩ := restWireguardEntries_of_list hitems
  have hlist : connectionList lib .rest document =
      .ok (some (normalizeBoxConnections lib.repr (.arr entries))) := by
    cases hd : asDict document with
    | none => rw [foundList_of_asDict_none hd] at hfound; cases hfound
    | some data =>
        rw [foundList_rest hd] at hfound
        simp only [connectionList, hd, restConnections, extractWireguardConnectionsFromRest, hfound,
          hes]
        rfl
  have hR : ∀ conn item, RestEntry lib.repr conn item →
      ∃ fields, Identifies lib.repr item conn.uid fields := by
    rintro _ _ ⟨fields, hf, -⟩
    exact ⟨fields, hf.identifies⟩
  have hdistinct : (order.map Connection.uid).Nodup :=
    (hperm.map Connection.uid).nodup_iff.mpr h.distinct
  refine ⟨_, hlist, ?_, ?_⟩
  · rw [keys_of_items hR hentries]
    exact List.toFinset_eq_of_perm _ _ (hperm.map Connection.uid)
  · intro conn hconn
    obtain ⟨item, hi, fields, hf, hv⟩ := exists_right hentries conn (hperm.mem_iff.mpr hconn)
    rw [shows_iff hf (get?_of_item hR hentries hdistinct hi hf.identifies) hv, truthy_bool]

/-- The two listings show the same connections in the same states exactly if
the data.lua one never writes "not connected" as the text "0". -/
theorem listings_agree_iff {lib : Library} {conns : List Connection} {dataLua rest : Json}
    (h : Described lib.repr conns dataLua rest) :
    ShowsAll lib conns .dataLua dataLua ∧ ShowsAll lib conns .rest rest ↔
      ¬ SaysZeroText dataLua := by
  rw [dataLua_showsAll_iff h]
  exact and_iff_left (rest_showsAll h)

def officeTunnel : Connection := ⟨"wg0", "Office", true, false, by decide, by decide⟩

def officeDataLua (connected : Json) : Json :=
  .obj [(apiKeyData, .obj [(apiKeyInit, .obj [(apiKeyBoxConnections, .arr [.obj
    [(apiKeyUid, .str "wg0"), (apiKeyName, .str "Office"), (apiKeyActive, .str "1"),
      (apiKeyConnected, connected)]])])])]

def officeRest : Json :=
  .obj [(apiKeyConnection, .arr [.obj
    [(apiKeyUid, .str "wg0"), (apiKeyName, .str "Office"), (apiKeyAccessType, .str "4"),
      (apiKeyActivated, .str "1"), (apiKeyConnectedSince, .str "0")]])]

theorem office_described {v : Json} (h : EncodesConnected false v) :
    Described flatLibrary.repr [officeTunnel] (officeDataLua v) officeRest := by
  have hidentified : ∀ fields : Dict String Json, fields.get? apiKeyUid = some (.str "wg0") →
      IdText flatLibrary.repr fields none "wg0" := by
    intro fields hf
    refine IdText.own (v := .str "wg0") (field_eq_some_iff.mpr ⟨hf, by simp⟩) ?_
    rintro s hs
    cases hs
    decide
  have hyes : EncodesActivated true (.str "1") := EncodesActivated.yes (by decide +kernel)
  refine ⟨by simp, ⟨_, rfl, List.Forall₂.cons ?_ List.Forall₂.nil⟩,
    ⟨[officeTunnel], _, List.Perm.refl _, rfl, RestList.listed rfl ?_ RestList.nil⟩⟩
  · refine ⟨_, ⟨⟨rfl, officeTunnel.nonblank, "wg0", hidentified _ rfl, by decide⟩, rfl, ?_⟩,
      v, rfl, h⟩
    exact ⟨_, FlagOf.active (field_eq_some_iff.mpr ⟨rfl, by simp⟩), hyes⟩
  · refine ⟨by decide +kernel, ⟨.str "wg0", rfl, by decide +kernel⟩, rfl, ?_, ?_⟩
    · exact ⟨_, FlagOf.activated rfl (field_eq_some_iff.mpr ⟨rfl, by simp⟩), hyes⟩
    · refine RestConnected.idle ?_ ?_
      · intro s hs
        cases hs
      · intro w hw
        cases hw
        exact EncodesSince.text (by decide +kernel)

theorem officeDataLua_saysZeroText : SaysZeroText (officeDataLua (.str "0")) :=
  ⟨_, rfl, _, List.mem_cons_self, _, rfl, rfl⟩

/-- Over data.lua the office connection is down and shown as up. -/
theorem zeroText_shown_connected :
    (∃ connections, connectionList flatLibrary .dataLua (officeDataLua (.str "0")) =
        .ok (some connections) ∧
      getVpnStatus { data := some connections } "wg0" = statusConnected ∧
      connectedIsOn { data := some connections } "wg0" = true) ∧
    ¬ ∀ (lib : Library) (conns : List Connection) (dataLua rest : Json),
      Described lib.repr conns dataLua rest →
        ShowsAll lib conns .dataLua dataLua ∧ ShowsAll lib conns .rest rest := by
  refine ⟨⟨_, rfl, by decide +kernel, by decide +kernel⟩, ?_⟩
  intro h
  have hdescribed := office_described EncodesConnected.zeroText
  have hall := (h flatLibrary [officeTunnel] _ _ hdescribed).1
  exact (dataLua_showsAll_iff hdescribed).mp hall officeDataLua_saysZeroText

/-- With the number 0 both listings show it as down. -/
theorem listings_agree_office :
    ShowsAll flatLibrary [officeTunnel] .dataLua (officeDataLua (.int 0)) ∧
      ShowsAll flatLibrary [officeTunnel] .rest officeRest := by
  apply (listings_agree_iff (office_described EncodesConnected.zero)).mpr
  rintro ⟨box, hbox, item, hi, fields, hf, hzero⟩
  cases hbox
  obtain rfl := List.mem_singleton.mp hi
  cases hf
  cases hzero

end FritzboxVpn.ListingPaths
