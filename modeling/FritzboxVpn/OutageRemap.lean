import FritzboxVpn.CoordinatorSteps

namespace FritzboxVpn.OutageRemap

open Constants Coordinator CoordinatorSteps Exceptions HomeAssistant JsonValue KeyMatching OrderedDict
  RemapAtomicity Runs Text UidIdentity UidRemap UniqueIdCodec

variable {env : Env}

def nameOfPayload (reprContainer : Json → String) (payload : Json) : Option String :=
  match (asDict payload).bind (·.get? apiKeyName) with
  | none => none
  | some name => if truthy name then some (pyStr reprContainer name) else none

def connectionName (env : Env) (listing : Dict String Json) (uid : String) : Option String :=
  (listing.get? uid).bind (nameOfPayload env.reprContainer)

theorem rememberName_eq (reprContainer : Json → String) (names : Dict String String)
    (p : String × Json) :
    rememberName reprContainer names p =
      match nameOfPayload reprContainer p.2 with
      | none => names
      | some name => names.insert p.1 name := by
  rw [rememberName, nameOfPayload]
  cases (asDict p.2).bind (·.get? apiKeyName) with
  | none => rfl
  | some name => cases h : truthy name <;> simp [h]

theorem get?_foldl_rememberName (reprContainer : Json → String) {l : List (String × Json)}
    (hn : (l.map Prod.fst).Nodup) (names : Dict String String) (uid : String) :
    (l.foldl (rememberName reprContainer) names).get? uid =
      ((l.lookup uid).bind (nameOfPayload reprContainer)).or (names.get? uid) := by
  induction l generalizing names with
  | nil => rfl
  | cons p l ih =>
      obtain ⟨k, v⟩ := p
      rw [List.map_cons, List.nodup_cons] at hn
      rw [List.foldl_cons, ih hn.2, lookup_cons_ite, rememberName_eq]
      by_cases hu : uid = k
      · subst hu
        have hl : l.lookup uid = none := by
          rw [List.lookup_eq_none_iff]
          intro p hp
          simp only [bne_iff_ne, ne_eq]
          intro he
          have hk : p.1 ∈ l.map Prod.fst := List.mem_map_of_mem hp
          exact hn.1 (he ▸ hk)
        cases hv : nameOfPayload reprContainer v <;> simp [hl, hv]
      · cases hv : nameOfPayload reprContainer v <;> simp [hu, Dict.get?_insert_ne]

theorem get?_rememberConnectionNames (c : State) (listing : Dict String Json) (uid : String) :
    (rememberConnectionNames env c listing).uidNames.get? uid =
      (connectionName env listing uid).or (c.uidNames.get? uid) :=
  get?_foldl_rememberName env.reprContainer listing.nodup c.uidNames uid

theorem connectionName_mem {listing : Dict String Json} {uid name : String}
    (h : connectionName env listing uid = some name) : uid ∈ listing.keys := by
  obtain ⟨payload, hp, -⟩ := Option.bind_eq_some_iff.mp h
  exact Dict.mem_keys_iff.mpr ⟨payload, hp⟩

/-- What is remembered as a name is what the remap decision reads. -/
theorem payloadName_of_connectionName {listing : Dict String Json} {uid name : String}
    (h : connectionName env listing uid = some name) :
    payloadName env.reprContainer listing uid = some name := by
  obtain ⟨payload, hp, hn⟩ := Option.bind_eq_some_iff.mp h
  rw [nameOfPayload] at hn
  rw [payloadName, hp, Option.bind_some]
  cases hd : asDict payload with
  | none => simp [hd] at hn
  | some fields =>
      cases hg : fields.get? apiKeyName with
      | none => simp [hd, hg] at hn
      | some v =>
          simp only [hd, hg, Option.bind_some, Option.ite_none_right_eq_some,
            Option.some.injEq] at hn
          obtain ⟨ht, rfl⟩ := hn
          cases v with
          | null => cases ht
          | bool | int | float | str | arr | obj => simp [field, hg]

theorem trimmed_congr {f g : String → Option String} {u : String} (h : f u = g u) :
    trimmed f u = trimmed g u := by
  rw [trimmed, h, trimmed]

theorem of_trimmed {f : String → Option String} {u name : String} (h : trimmed f u = some name) :
    ∃ raw, f u = some raw := by
  obtain ⟨raw, hr, -⟩ := Option.bind_eq_some_iff.mp h
  exact ⟨raw, hr⟩

structure OutageState (env : Env) (c : State) (listing : Dict String Json) : Prop where
  data : c.data = some listing
  recovering : c.inRecovery = true
  seen : listing.keys ⊆ c.seenUids
  names : ∀ u name, connectionName env listing u = some name → c.uidNames.get? u = some name

theorem OutageState.arm {c : State} {listing : Dict String Json} (h : c.data = some listing) (p : Poll) :
    OutageState env { armRecovery env c p with lastUpdateSuccess := false } listing := by
  refine ⟨(armRecovery_data env c p).trans h, armRecovery_inRecovery env c p, ?_, ?_⟩
  · change listing.keys ⊆ (armRecovery env c p).seenUids
    rw [armRecovery_seenUids, State.dataKeys, h]
    exact Finset.subset_union_right
  · intro u name hn
    change (rememberData env c).uidNames.get? u = some name
    rw [rememberData, h]
    dsimp only
    rw [get?_rememberConnectionNames, hn]
    rfl

theorem OutageState.of_eq {c c' : State} {listing : Dict String Json} (h : OutageState env c listing)
    (hd : c'.data = c.data) (hr : c'.recoveringUntil = c.recoveringUntil)
    (hs : c'.seenUids = c.seenUids) (hn : c'.uidNames = c.uidNames) : OutageState env c' listing := by
  refine ⟨hd.trans h.data, ?_, hs ▸ h.seen, hn ▸ h.names⟩
  rw [State.inRecovery, hr]
  exact h.recovering

/-- The same connections as before: names, pairwise distinct and not blank, are
the same on both lists. -/
def SameNames (env : Env) (listing listing' : Dict String Json) : Prop :=
  Matching listing.keys listing'.keys (trimmed (connectionName env listing))
    (trimmed (connectionName env listing'))

structure Renames (env : Env) (listing listing' : Dict String Json) (o n : String) : Prop where
  old : o ∈ listing.keys
  new : n ∈ listing'.keys
  name : trimmed (connectionName env listing) o = trimmed (connectionName env listing') n

theorem Renames.exists_new {listing listing' : Dict String Json} (h : SameNames env listing listing')
    {o : String} (ho : o ∈ listing.keys) : ∃ n, Renames env listing listing' o n := by
  obtain ⟨n, hn, he⟩ := h.partner ho
  exact ⟨n, ho, hn, he⟩

theorem Renames.unique {listing listing' : Dict String Json} (h : SameNames env listing listing')
    {o n n' : String} (hr : Renames env listing listing' o n)
    (hr' : Renames env listing listing' o n') : n = n' :=
  h.right_injective n hr.new n' hr'.new (hr.name.symm.trans hr'.name)

theorem SameNames.isEmpty_right {listing listing' : Dict String Json} (h : SameNames env listing listing')
    (hne : listing.keys ≠ ∅) : listing'.isEmpty = false := by
  by_contra he
  rw [Bool.not_eq_false, Dict.isEmpty_iff] at he
  obtain ⟨o, ho⟩ := Finset.nonempty_iff_ne_empty.mpr hne
  obtain ⟨n, hn⟩ := Renames.exists_new h ho
  have hnew := hn.new
  rw [he] at hnew
  exact Finset.notMem_empty n hnew

theorem remapDecision_matching {c : State} {connections mapping}
    (h : remapDecision env c connections = .ok mapping) :
    Matching (c.seenUids \ connections.keys) (connections.keys \ c.seenUids)
      (trimmed c.uidNames.get?) (trimmed (payloadName env.reprContainer connections)) := by
  have hm := (remapDecision_ok h).matching
  rwa [env.order.toFinset, env.order.toFinset] at hm

theorem remapDecision_exists {c : State} {connections : Dict String Json}
    (hne : c.seenUids \ connections.keys ≠ ∅)
    (hm : Matching (c.seenUids \ connections.keys) (connections.keys \ c.seenUids)
      (trimmed c.uidNames.get?) (trimmed (payloadName env.reprContainer connections))) :
    ∃ mapping, remapDecision env c connections = .ok mapping := by
  apply nameBijectionUidRemap_exists (env.order.nodup _) (env.order.nodup _)
  · intro hnil
    apply hne
    rw [← env.order.toFinset (c.seenUids \ connections.keys), hnil]
    rfl
  · intro uid ho hn
    exact (Finset.mem_sdiff.mp (mem_toList.mp ho)).2 (Finset.mem_sdiff.mp (mem_toList.mp hn)).1
  · rwa [env.order.toFinset, env.order.toFinset]

/-- A poll whose list differs from what was seen in the number of UIDs is
never taken for a renaming. -/
theorem remapDecision_refused {c : State} {connections : Dict String Json}
    (h : (connections.keys \ c.seenUids).card ≠ (c.seenUids \ connections.keys).card)
    (mapping : Dict String String) : remapDecision env c connections ≠ .ok mapping := by
  intro hm
  exact h (remapDecision_matching hm).card_eq.symm

section FullList

variable {c : State} {listing listing' : Dict String Json}

structure FullList (env : Env) (c : State) (listing listing' : Dict String Json) : Prop where
  outage : OutageState env c listing
  seen : c.seenUids = listing.keys
  names : SameNames env listing listing'
  fresh : ∀ u ∈ listing'.keys, u ∉ listing.keys

theorem FullList.removed (h : FullList env c listing listing') :
    c.seenUids \ listing'.keys = listing.keys := by
  rw [h.seen, Finset.sdiff_eq_self_iff_disjoint, Finset.disjoint_left]
  exact fun u hu hn => h.fresh u hn hu

theorem FullList.added (h : FullList env c listing listing') :
    listing'.keys \ c.seenUids = listing'.keys := by
  rw [h.seen, Finset.sdiff_eq_self_iff_disjoint, Finset.disjoint_left]
  exact fun u hn hu => h.fresh u hn hu

theorem FullList.old_name (h : FullList env c listing listing') {o : String}
    (ho : o ∈ listing.keys) :
    trimmed (rememberConnectionNames env c listing').uidNames.get? o =
      trimmed (connectionName env listing) o := by
  obtain ⟨name, hn⟩ := h.names.left_labelled o ho
  obtain ⟨raw, hraw⟩ := of_trimmed hn
  apply trimmed_congr
  rw [get?_rememberConnectionNames, hraw, h.outage.names o raw hraw]
  cases hc : connectionName env listing' o with
  | none => rfl
  | some name' => exact absurd ho (h.fresh o (connectionName_mem hc))

theorem FullList.new_name (h : FullList env c listing listing') {n : String}
    (hn : n ∈ listing'.keys) :
    trimmed (payloadName env.reprContainer listing') n = trimmed (connectionName env listing') n := by
  obtain ⟨name, hname⟩ := h.names.right_labelled n hn
  obtain ⟨raw, hraw⟩ := of_trimmed hname
  apply trimmed_congr
  rw [payloadName_of_connectionName hraw, hraw]

/-- The decision renames every connection to the one of the same name. -/
theorem FullList.decision (h : FullList env c listing listing') (hne : listing.keys ≠ ∅) :
    ∃ mapping, remapDecision env (rememberConnectionNames env c listing') listing' = .ok mapping ∧
      ∀ o n, mapping.get? o = some n ↔ Renames env listing listing' o n := by
  have hm : Matching listing.keys listing'.keys
      (trimmed (rememberConnectionNames env c listing').uidNames.get?)
      (trimmed (payloadName env.reprContainer listing')) := by
    refine ⟨?_, ?_, ?_, ?_, ?_⟩
    · intro o ho
      rw [h.old_name ho]
      exact h.names.left_labelled o ho
    · intro n hn
      rw [h.new_name hn]
      exact h.names.right_labelled n hn
    · intro o ho o' ho'
      rw [h.old_name ho, h.old_name ho']
      exact h.names.left_injective o ho o' ho'
    · intro n hn n' hn'
      rw [h.new_name hn, h.new_name hn']
      exact h.names.right_injective n hn n' hn'
    · intro name
      have hl : (∃ o ∈ listing.keys,
          trimmed (rememberConnectionNames env c listing').uidNames.get? o = some name) ↔
            ∃ o ∈ listing.keys, trimmed (connectionName env listing) o = some name :=
        exists_congr fun o => and_congr_right fun ho => by rw [h.old_name ho]
      have hr : (∃ n ∈ listing'.keys, trimmed (payloadName env.reprContainer listing') n = some name) ↔
          ∃ n ∈ listing'.keys, trimmed (connectionName env listing') n = some name :=
        exists_congr fun n => and_congr_right fun hn => by rw [h.new_name hn]
      rw [hl, hr]
      exact h.names.same_labels name
  have hsets : (rememberConnectionNames env c listing').seenUids \ listing'.keys = listing.keys ∧
      listing'.keys \ (rememberConnectionNames env c listing').seenUids = listing'.keys :=
    ⟨h.removed, h.added⟩
  have hexists : ∃ mapping,
      remapDecision env (rememberConnectionNames env c listing') listing' = .ok mapping :=
    remapDecision_exists (by rw [hsets.1]; exact hne) (by rw [hsets.1, hsets.2]; exact hm)
  obtain ⟨mapping, hok⟩ := hexists
  refine ⟨mapping, hok, ?_⟩
  intro o n
  rw [(remapDecision_ok hok).get?_iff o n, mem_toList, mem_toList, hsets.1, hsets.2]
  constructor
  · rintro ⟨ho, hn, he⟩
    rw [h.old_name ho, h.new_name hn] at he
    exact ⟨ho, hn, he⟩
  · rintro ⟨ho, hn, he⟩
    rw [h.old_name ho, h.new_name hn]
    exact ⟨ho, hn, he⟩

end FullList

def entityDomain : UniqueIdSuffix → String
  | .switch => "switch"
  | .connected => "binary_sensor"
  | .vpnUid | .status | .uid => "sensor"

structure HasEntities (hass : Hass) (entryId uid : String) : Prop where
  rows : ∀ s, ∃ r ∈ hass.entities.rows, r.configEntryId = some entryId ∧
    r.entityId.domain = entityDomain s ∧ r.uniqueId = entityUniqueId uid s
  device : ∃ d ∈ hass.devices.devices, connectionIdentifier entryId uid ∈ d.identifiers ∧
    ∀ v, connectionIdentifier entryId v ∈ d.identifiers → v = uid

structure AbsentFrom (hass : Hass) (entryId uid : String) : Prop where
  rows : ∀ r ∈ hass.entities.rows, r.platform = domain → ∀ s, r.uniqueId ≠ entityUniqueId uid s
  devices : ∀ d ∈ hass.devices.devices, connectionIdentifier entryId uid ∉ d.identifiers

structure Registered (hass : Hass) (entryId : String) (listing listing' : Dict String Json) : Prop where
  old : ∀ u ∈ listing.keys, HasEntities hass entryId u
  new : ∀ u ∈ listing'.keys, AbsentFrom hass entryId u

theorem AbsentFrom.of_suffixes {hass : Hass} {entryId uid : String}
    (hr : ∀ r ∈ hass.entities.rows, ∀ s ∈ uniqueIdSuffixes, r.uniqueId ≠ entityUniqueId uid s)
    (hd : ∀ d ∈ hass.devices.devices, connectionIdentifier entryId uid ∉ d.identifiers) :
    AbsentFrom hass entryId uid :=
  ⟨fun r hmem _ s => hr r hmem s (by cases s <;> decide), hd⟩

def homeRow (uid : String) (s : UniqueIdSuffix) : RegistryEntry :=
  ⟨⟨entityDomain s, uid ++ "_" ++ s.token⟩, entityUniqueId uid s, Constants.domain, some "entry"⟩

def home : Hass where
  entities := ⟨uniqueIdSuffixes.map (homeRow "a") ++ uniqueIdSuffixes.map (homeRow "b"),
    by decide +kernel, by decide +kernel⟩
  devices := ⟨[⟨"da", {connectionIdentifier "entry" "a"}⟩, ⟨"db", {connectionIdentifier "entry" "b"}⟩],
    by decide +kernel, by decide +kernel⟩
  configEntries := Dict.ofList [("entry", ⟨.loaded, some ⟨∅, ∅, ∅⟩⟩)]

theorem home_loaded : Loaded home "entry" ⟨∅, ∅, ∅⟩ := ⟨by decide +kernel, by decide +kernel⟩

theorem home_hasEntities {uid : String} (h : uid = "a" ∨ uid = "b") : HasEntities home "entry" uid := by
  have hone : ∀ v, connectionIdentifier "entry" v ∈ ({connectionIdentifier "entry" uid} : Finset _) →
      v = uid := by
    intro v hv
    simpa [connectionIdentifier] using hv
  rcases h with rfl | rfl
  · refine ⟨?_, ⟨_, List.mem_cons_self, Finset.mem_singleton_self _, hone⟩⟩
    intro s
    cases s <;> decide +kernel
  · refine ⟨?_, ⟨_, List.mem_cons_of_mem _ List.mem_cons_self, Finset.mem_singleton_self _, hone⟩⟩
    intro s
    cases s <;> decide +kernel

theorem keys_office (uid : String) : (office uid).keys = {uid} := by
  ext u
  simp [office, Dict.mem_keys_iff, Dict.get?_ofList]

def officeAndLab (u v : String) : Dict String Json :=
  Dict.ofList [(u, .obj [("name", .str "Office")]), (v, .obj [("name", .str "Lab")])]

theorem sameNames_office : SameNames memoryEnv (office "a") (office "n") :=
  Matching.of_image (by decide +kernel) (by decide +kernel) (by decide +kernel) (by decide +kernel)

theorem sameNames_officeAndLab : SameNames memoryEnv (officeAndLab "a" "b") (officeAndLab "n" "m") :=
  Matching.of_image (by decide +kernel) (by decide +kernel) (by decide +kernel) (by decide +kernel)

theorem home_absent {uid : String} (h : uid = "n" ∨ uid = "m") : AbsentFrom home "entry" uid := by
  rcases h with rfl | rfl
  · exact AbsentFrom.of_suffixes (by decide +kernel) (by decide +kernel)
  · exact AbsentFrom.of_suffixes (by decide +kernel) (by decide +kernel)

theorem home_registered : Registered home "entry" (office "a") (office "n") := by
  refine ⟨?_, ?_⟩
  · intro u hu
    rw [keys_office, Finset.mem_singleton] at hu
    exact home_hasEntities (Or.inl hu)
  · intro u hu
    rw [keys_office, Finset.mem_singleton] at hu
    exact home_absent (Or.inl hu)

theorem home_registered_both :
    Registered home "entry" (officeAndLab "a" "b") (officeAndLab "n" "m") := by
  have hkeys : ∀ u v w, w ∈ (officeAndLab u v).keys → w = u ∨ w = v := by
    intro u v w hw
    simpa [officeAndLab, Dict.ofList, Dict.keys_insert, or_comm] using hw
  exact ⟨fun u hu => home_hasEntities (hkeys "a" "b" u hu), fun u hu => home_absent (hkeys "n" "m" u hu)⟩

/-- One connection gets a new UID that is another one's new UID with _vpn
behind it: their unique ids run into each other. -/
def Entangled (env : Env) (listing listing' : Dict String Json) : Prop :=
  ∃ o₁ o₂ n, Renames env listing listing' o₁ n ∧ Renames env listing listing' o₂ (n ++ "_vpn") ∧
    endsWith "_vpn" o₂ = false

section Registries

variable {hass : Hass} {entryId : String} {runtime : RuntimeData} {c : State}
  {listing listing' : Dict String Json} {mapping : Dict String String}

theorem HasEntities.pairRow {uid : String} (h : HasEntities hass entryId uid) (s : UniqueIdSuffix)
    (hs : s = .uid → endsWith "_vpn" uid = false) :
    ∃ r, PairRow hass entryId uid s r ∧ r.entityId.domain = entityDomain s := by
  obtain ⟨r, hr, he, hd, hu⟩ := h.rows s
  exact ⟨r, ⟨hr, he, hu ▸ decodes_entityUniqueId uid s hs⟩, hd⟩

variable (hmap : ∀ o n, mapping.get? o = some n ↔ Renames env listing listing' o n)
  (hreg : Registered hass entryId listing listing')

include hmap hreg in
theorem not_blocked (o : String) : ¬ Blocked hass entryId mapping o := by
  rintro (⟨r, hr, he, u, ht, r', hr', hkey⟩ | ⟨n, hn, d, -, -, d', hd', hi', -⟩)
  · obtain ⟨n, s, hn, -, hu⟩ := rowTarget_eq_some.mp ht
    rw [RegistryEntry.uniqueKey, Prod.mk.injEq, Prod.mk.injEq] at hkey
    exact (hreg.new n ((hmap o n).mp hn).new).rows r' hr' hkey.2.1 s (hkey.2.2.trans hu)
  · exact (hreg.new n ((hmap o n).mp hn).new).devices d' hd' hi'

include hmap hreg in
theorem clash_iff_entangled : Clash hass entryId mapping ↔ Entangled env listing listing' := by
  constructor
  · rintro ⟨r₁, r₂, o₁, o₂, n, -, hp₂, -, hn₁, hn₂, -, -⟩
    refine ⟨o₁, o₂, n, (hmap o₁ n).mp hn₁, (hmap o₂ _).mp hn₂, ?_⟩
    by_contra he
    rw [Bool.not_eq_false] at he
    obtain ⟨front, rfl⟩ := endsWith_iff_append.mp he
    have hd := decodes_vpn_uid front
    rw [← hp₂.decodes.eq] at hd
    have hs := hd.2.symm.trans hp₂.decodes.2
    cases hs
  · rintro ⟨o₁, o₂, n, h₁, h₂, hend⟩
    obtain ⟨r₁, hp₁, hd₁⟩ := (hreg.old o₁ h₁.old).pairRow .vpnUid (by simp)
    obtain ⟨r₂, hp₂, hd₂⟩ := (hreg.old o₂ h₂.old).pairRow .uid (fun _ => hend)
    exact ⟨r₁, r₂, o₁, o₂, n, hp₁, hp₂, hd₁.trans hd₂.symm, (hmap o₁ n).mpr h₁,
      (hmap o₂ _).mpr h₂, not_blocked hmap hreg o₁, not_blocked hmap hreg o₂⟩

include hmap hreg in
theorem not_sharedDevice : ¬ SharedDevice hass entryId mapping := by
  rintro ⟨d, hd, o₁, o₂, n₁, n₂, hne, hn₁, hn₂, hi₁, hi₂, -⟩
  obtain ⟨d', hd', hi', hone⟩ := (hreg.old o₁ ((hmap o₁ n₁).mp hn₁).old).device
  have he : d = d' := hass.devices.disjoint d hd d' hd' _ hi₁ hi'
  subst he
  exact hne (hone o₂ hi₂).symm

/-- The remap of a full list: every connection is moved, or, where unique ids
run into each other, the registry refuses a write. -/
theorem FullList.apply (h : FullList env c listing listing') (hne : listing.keys ≠ ∅)
    (hload : Loaded hass entryId runtime) (hreg : Registered hass entryId listing listing')
    (hentry : env.entryId = some entryId) (hid : entryId ≠ "") :
    (¬ Entangled env listing listing' ∧ ∃ applied hass',
        applyUidRemapIfNeeded env hass (rememberConnectionNames env c listing') listing' =
          (.ok (noteApplied env listing' (rememberConnectionNames env c listing') applied), hass') ∧
        (∀ o n, applied.get? o = some n ↔ Renames env listing listing' o n) ∧
        (∀ o n, Renames env listing listing' o n → Moved hass hass' entryId o n) ∧
        ∀ r ∈ hass.entities.rows, (∀ o ∈ listing.keys, ∀ s, ¬ PairRow hass entryId o s r) →
          r ∈ hass'.entities.rows) ∨
      (Entangled env listing listing' ∧ ∃ e hass',
        applyUidRemapIfNeeded env hass (rememberConnectionNames env c listing') listing' =
          (.error e, hass')) := by
  obtain ⟨mapping, hok, hmap⟩ := h.decision hne
  obtain ⟨o, ho⟩ := Finset.nonempty_iff_ne_empty.mpr hne
  obtain ⟨n, hn⟩ := Renames.exists_new h.names ho
  have hdue : RemapDue env (rememberConnectionNames env c listing') listing' entryId := by
    refine ⟨hentry, hid, h.outage.recovering, h.names.isEmpty_right hne, ?_, ?_⟩
    · rw [rememberConnectionNames_seenUids, h.removed]
      exact hne
    · rw [rememberConnectionNames_seenUids, h.added]
      exact Finset.nonempty_iff_ne_empty.mp ⟨n, hn.new⟩
  have ren : Renaming mapping := NamesMatch.renaming (remapDecision_ok hok)
  have hcases := applyUidRemap_cases env hass (rememberConnectionNames env c listing') listing'
  have hsame : ∀ {e : String} {m : Dict String String},
      RemapDue env (rememberConnectionNames env c listing') listing' e →
        remapDecision env (rememberConnectionNames env c listing') listing' = .ok m →
          e = entryId ∧ m = mapping := by
    intro e m he hm
    refine ⟨(Option.some.inj (hentry.symm.trans he.entry)).symm, ?_⟩
    rw [hok, Except.ok.injEq] at hm
    exact hm.symm
  rcases hcases with ⟨-, hno⟩ | ⟨e, m, he, hm, hout⟩
  · exact absurd ⟨entryId, mapping, hdue, hok⟩ hno
  · obtain ⟨rfl, rfl⟩ := hsame he hm
    rcases remap_result ren env.api hload with
      ⟨hclash, applied, hass', hr, ha⟩ | ⟨hclash, err, hass', hr, -⟩
    · left
      refine ⟨fun hent => hclash ((clash_iff_entangled hmap hreg).mpr hent), applied, hass', ?_, ?_, ?_,
        ?_⟩
      · rcases hout with ⟨applied', hass'', hr', happ⟩ | ⟨err, hass'', hr', -⟩
        · rw [hr, Prod.mk.injEq, Except.ok.injEq] at hr'
          rw [happ, hr'.1, hr'.2]
        · rw [hr] at hr'
          cases hr'
      · intro o n
        rw [ha.get?_iff, hmap]
        constructor
        · exact fun hx => hx.1
        · intro hx
          obtain ⟨d, hd, hi, -⟩ := (hreg.old o hx.old).device
          exact ⟨hx, not_blocked hmap hreg o, Or.inr ⟨d, hd, hi⟩⟩
      · intro o n hx
        have hn := (hmap o n).mpr hx
        have hb := not_blocked hmap hreg o
        exact ⟨fun r s hp => ha.row_moved hp hn hb,
          fun d hd hi => ha.device_moved (not_sharedDevice hmap hreg) hd hi hn hb⟩
      · intro r hr hno
        exact ha.row_kept hr fun o n s hp hn => absurd hp (hno o ((hmap o n).mp hn).old s)
    · right
      refine ⟨(clash_iff_entangled hmap hreg).mp hclash, err, hass', ?_⟩
      rcases hout with ⟨applied', hass'', hr', -⟩ | ⟨err', hass'', hr', happ⟩
      · rw [hr] at hr'
        cases hr'
      · rw [hr, Prod.mk.injEq, Except.error.injEq] at hr'
        rw [happ, hr'.1, hr'.2]

end Registries

section Poll

variable {hass hass' : Hass} {c c₂ : State} {p : Poll} {connections : Dict String Json}

theorem poll_of_apply_ok (hf : p.fetch = .ok connections) (hne : connections.isEmpty = false)
    (hr : applyUidRemapIfNeeded env hass (rememberConnectionNames env c connections) connections =
      (.ok c₂, hass')) :
    poll env hass c p = (((finishPoll env c₂ p connections).1,
      { (finishPoll env c₂ p connections).2 with
        data := some connections, lastUpdateSuccess := true }), hass') := by
  simp only [poll, asyncUpdateData, hf, hne, Bool.false_and, Bool.false_eq_true, if_false,
    processConnections, hr]
  rfl

theorem poll_of_apply_error {e : PyError} (hf : p.fetch = .ok connections)
    (hne : connections.isEmpty = false)
    (hr : applyUidRemapIfNeeded env hass (rememberConnectionNames env c connections) connections =
      (.error e, hass')) :
    (∃ failed, (poll env hass c p).1.1.outcome = .error failed) ∧
      (poll env hass c p).1.2.uidRemap = c.uidRemap := by
  have hpoll : asyncUpdateData env hass c p =
      (handleError env hass' (rememberConnectionNames env c connections) p e, hass') := by
    simp only [asyncUpdateData, hf, hne, Bool.false_and, Bool.false_eq_true, if_false,
      processConnections, hr]
  rw [poll, hpoll]
  rcases handleError_cases env hass' (rememberConnectionNames env c connections) p e with
    ⟨-, text, he⟩ | ⟨-, text, he⟩
  · rw [he]
    refine ⟨⟨_, rfl⟩, ?_⟩
    change (scheduleReauth env hass' (rememberConnectionNames env c connections)).2.uidRemap = _
    rcases scheduleReauth_cases env (rememberConnectionNames env c connections) hass' with h | h
    · rw [h]; rfl
    · rw [h]; rfl
  · rw [he]
    exact ⟨⟨_, rfl⟩, armRecovery_uidRemap env (rememberConnectionNames env c connections) p⟩

structure Unremapped (c : State) (connections : Dict String Json) (c' : State) : Prop where
  uidRemap : c'.uidRemap = c.uidRemap
  seenUids : c'.seenUids = c.seenUids ∪ c.dataKeys ∪ connections.keys
  data : c'.data = some connections

theorem poll_unremapped (hf : p.fetch = .ok connections) (hne : connections.isEmpty = false)
    (hno : ¬ ∃ entryId mapping,
      RemapDue env (rememberConnectionNames env c connections) connections entryId ∧
        remapDecision env (rememberConnectionNames env c connections) connections = .ok mapping) :
    Unremapped c connections (poll env hass c p).1.2 ∧ (poll env hass c p).2 = hass := by
  have happ : applyUidRemapIfNeeded env hass (rememberConnectionNames env c connections) connections =
      (.ok (rememberConnectionNames env c connections), hass) := by
    rcases applyUidRemap_cases env hass (rememberConnectionNames env c connections) connections with
      ⟨h, -⟩ | ⟨entryId, mapping, hdue, hm, -⟩
    · exact h
    · exact absurd ⟨entryId, mapping, hdue, hm⟩ hno
  rw [poll_of_apply_ok hf hne happ]
  exact ⟨⟨finishPoll_uidRemap env _ p connections, finishPoll_seenUids env _ p connections, rfl⟩, rfl⟩

theorem poll_of_refused (hf : p.fetch = .ok connections) (hne : connections.isEmpty = false)
    (hno : ∀ mapping,
      remapDecision env (rememberConnectionNames env c connections) connections ≠ .ok mapping) :
    Unremapped c connections (poll env hass c p).1.2 ∧ (poll env hass c p).2 = hass := by
  apply poll_unremapped hf hne
  rintro ⟨entryId, mapping, -, hm⟩
  exact hno mapping hm

/-- A list without a new UID remaps nothing. -/
theorem poll_of_nothing_new (hf : p.fetch = .ok connections) (hne : connections.isEmpty = false)
    (hsub : connections.keys ⊆ c.seenUids) :
    Unremapped c connections (poll env hass c p).1.2 ∧ (poll env hass c p).2 = hass := by
  apply poll_unremapped hf hne
  rintro ⟨entryId, mapping, hdue, -⟩
  exact hdue.added (Finset.sdiff_eq_empty_iff_subset.mpr hsub)

theorem noteRemapped_uidNames (c : State) (q : String × String) {uid : String} (h : q.2 ≠ uid) :
    (noteRemapped env connections c q).uidNames.get? uid =
      if q.1 = uid then none else c.uidNames.get? uid := by
  have hne : uid ≠ q.2 := fun he => h he.symm
  cases hc : c.uidNames.get? q.1 with
  | some name =>
      simp only [noteRemapped, hc, Dict.get?_insert_ne _ hne, Dict.get?_erase]
      by_cases hu : q.1 = uid
      · simp [hu]
      · have hu' : uid ≠ q.1 := fun he => hu he.symm
        simp [hu, hu']
  | none =>
      have hkeep : (noteRemapped env connections c q).uidNames.get? uid = c.uidNames.get? uid := by
        simp only [noteRemapped, hc]
        cases connections.get? q.2 with
        | none => rfl
        | some payload =>
            simp only [rememberName_eq]
            cases nameOfPayload env.reprContainer payload with
            | none => rfl
            | some name => exact Dict.get?_insert_ne _ hne name
      refine hkeep.trans ?_
      by_cases hu : q.1 = uid
      · rw [if_pos hu, ← hu, hc]
      · rw [if_neg hu]

theorem noteApplied_uidNames {applied : Dict String String} (c : State) {o n : String}
    (hn : applied.get? o = some n) (hfresh : ∀ u, applied.get? u ≠ some o) :
    (noteApplied env connections c applied).uidNames.get? o = none := by
  have hfold : ∀ (l : List (String × String)) (c : State), (∀ q ∈ l, q.2 ≠ o) →
      (l.foldl (noteRemapped env connections) c).uidNames.get? o =
        if o ∈ l.map Prod.fst then none else c.uidNames.get? o := by
    intro l
    induction l with
    | nil => exact fun c _ => rfl
    | cons q l ih =>
        intro c hl
        rw [List.foldl_cons, ih _ fun q' hq' => hl q' (List.mem_cons_of_mem q hq'),
          noteRemapped_uidNames c q (hl q List.mem_cons_self), List.map_cons]
        by_cases hq : q.1 = o
        · simp [hq]
        · have hq' : o ≠ q.1 := fun he => hq he.symm
          simp only [List.mem_cons, hq, hq', false_or, if_false]
  rw [noteApplied, hfold]
  · exact if_pos (List.mem_map_of_mem (f := Prod.fst) (Dict.mem_entries_iff.mpr hn))
  · rintro ⟨u, v⟩ hq rfl
    exact hfresh u (Dict.mem_entries_iff.mp hq)

end Poll

structure RemappedAll (env : Env) (entryId : String) (hass hass' : Hass)
    (listing listing' : Dict String Json) (c' : State) : Prop where
  data : c'.data = some listing'
  seen : listing.keys ∪ listing'.keys ⊆ c'.seenUids
  remapped : ∀ o n, Renames env listing listing' o n → c'.uidRemap.get? o = some n
  current : ∀ n ∈ listing'.keys, c'.uidRemap.get? n = none
  nameless : ∀ o ∈ listing.keys, c'.uidNames.get? o = none
  moved : ∀ o n, Renames env listing listing' o n → Moved hass hass' entryId o n
  kept : ∀ r ∈ hass.entities.rows, (∀ o ∈ listing.keys, ∀ s, ¬ PairRow hass entryId o s r) →
    r ∈ hass'.entities.rows

theorem RemappedAll.resolves {entryId : String} {hass hass' : Hass}
    {listing listing' : Dict String Json} {c' : State}
    (h : RemappedAll env entryId hass hass' listing listing' c') {o n : String}
    (hr : Renames env listing listing' o n) : c'.resolveConnectionUid o = n :=
  State.resolveConnectionUid_of_some (h.remapped o n hr) (h.current n hr.new)

theorem FullList.poll {hass : Hass} {entryId : String} {runtime : RuntimeData} {c : State}
    {listing listing' : Dict String Json} {p : Poll} (h : FullList env c listing listing')
    (hne : listing.keys ≠ ∅) (hload : Loaded hass entryId runtime)
    (hreg : Registered hass entryId listing listing') (hentry : env.entryId = some entryId)
    (hid : entryId ≠ "") (hp : p.fetch = .ok listing')
    (hunused : ∀ n ∈ listing'.keys, c.uidRemap.get? n = none) :
    (¬ Entangled env listing listing' ∧ (poll env hass c p).1.1.outcome = .ok listing' ∧
        RemappedAll env entryId hass (poll env hass c p).2 listing listing' (poll env hass c p).1.2) ∨
      (Entangled env listing listing' ∧ (∃ failed, (poll env hass c p).1.1.outcome = .error failed) ∧
        (poll env hass c p).1.2.uidRemap = c.uidRemap) := by
  have hempty := h.names.isEmpty_right hne
  rcases h.apply hne hload hreg hentry hid with
    ⟨hent, applied, hass', happ, hget, hmoved, hkept⟩ | ⟨hent, e, hass', happ⟩
  · left
    refine ⟨hent, ?_⟩
    rw [poll_of_apply_ok hp hempty happ]
    have hframe := noteApplied_sameRecovery env listing' (rememberConnectionNames env c listing') applied
    have hdata : (noteApplied env listing' (rememberConnectionNames env c listing') applied).dataKeys =
        listing.keys := by
      rw [hframe.dataKeys, rememberConnectionNames_dataKeys, State.dataKeys, h.outage.data]
    have hremap : ∀ u n, (finishPoll env (noteApplied env listing'
        (rememberConnectionNames env c listing') applied) p listing').2.uidRemap.get? u = some n ↔
          applied.get? u = some n ∨ (applied.get? u = none ∧ c.uidRemap.get? u = some n) := by
      intro u n
      rw [finishPoll_uidRemap]
      exact noteApplied_uidRemap env listing' (rememberConnectionNames env c listing') applied
    refine ⟨rfl, rfl, ?_, ?_, ?_, ?_, hmoved, hkept⟩
    · change listing.keys ∪ listing'.keys ⊆ (finishPoll env _ p listing').2.seenUids
      rw [finishPoll_seenUids, hdata]
      intro u hu
      rcases Finset.mem_union.mp hu with hu | hu
      · exact Finset.mem_union_left _ (Finset.mem_union_right _ hu)
      · exact Finset.mem_union_right _ hu
    · intro o n hr
      exact (hremap o n).mpr (Or.inl ((hget o n).mpr hr))
    · intro n hn
      rw [Option.eq_none_iff_forall_ne_some]
      intro m hm
      rcases (hremap n m).mp hm with ha | ⟨-, hc⟩
      · exact h.fresh n hn ((hget n m).mp ha).old
      · rw [hunused n hn] at hc
        cases hc
    · intro o ho
      obtain ⟨n, hr⟩ := Renames.exists_new h.names ho
      change (noteSuccessfulPoll (trackPoll env _ _).2 listing' p.later).uidNames.get? o = none
      rw [noteSuccessfulPoll_uidNames, trackPoll, if_pos]
      · exact noteApplied_uidNames _ ((hget o n).mpr hr) fun u hu =>
          h.fresh o ((hget u o).mp hu).new ho
      · rw [hframe.inRecovery]
        exact h.outage.recovering
  · exact Or.inr ⟨hent, poll_of_apply_error hp hempty happ⟩

end FritzboxVpn.OutageRemap
