import FritzboxVpn.CoordinatorSteps
import FritzboxVpn.Orphans
import FritzboxVpn.RepairPlans

namespace FritzboxVpn.OrphanCleanup

open Constants Coordinator CoordinatorSteps EmptyDevices EntityRepairs Exceptions HomeAssistant Orphans
  RegistryRows RepairPlans UniqueIdCodec

/-- Registries as the entities of the integration leave them: a device is of one
connection, and a row of a connection is on the device of that. -/
structure SelfRegistered (R : Registries) : Prop where
  oneConnection : ∀ d ∈ R.devices, ∀ entryId uid entryId' uid', [domain, entryId, uid] ∈ d.identifiers →
    [domain, entryId', uid'] ∈ d.identifiers → entryId = entryId' ∧ uid = uid'
  ownDevice : ∀ r ∈ R.rows, ∀ uid, connectionUidFromEntityUniqueId r.uniqueId = some uid →
    ∀ deviceId, r.deviceId = some deviceId → ∃ entryId, r.configEntryId = some entryId ∧
      ∃ d ∈ R.devices, d.id = deviceId ∧ [domain, entryId, uid] ∈ d.identifiers

def removedUids (R : Registries) (entryId : String) (currentUids : Finset String) : Finset String :=
  uidsFromEntityEntries (orphanedEntityEntries R entryId currentUids)

def OfConnections (entryId : String) (uids : List String) (d : DeviceRow) : Prop :=
  ∃ uid ∈ uids, [domain, entryId, uid] ∈ d.identifiers

variable {σ : Type} {calls : RegistryCalls σ}

theorem removeRows_spec (w : Willing calls) (entries : List EntityRow) (hnodup : entries.Nodup) (s : σ)
    (hrows : ∀ r ∈ entries, r ∈ (calls.view s).rows) : ∃ s', removeRows calls entries s = (.ok (), s') ∧
      (∀ x, x ∈ (calls.view s').rows ↔ x ∈ (calls.view s).rows ∧ x ∉ entries) ∧
        ∀ d, d ∈ (calls.view s').devices ↔ d ∈ (calls.view s).devices := by
  induction entries generalizing s with
  | nil => exact ⟨s, rfl, fun x => by simp, fun _ => Iff.rfl⟩
  | cons r entries ih =>
      rw [List.nodup_cons] at hnodup
      have hr := hrows r List.mem_cons_self
      obtain ⟨s₁, hs₁⟩ := w.remove r.entityId s ⟨r, hr, rfl⟩
      have hrem := calls.remove_ok _ _ _ hs₁
      have hrows₁ : ∀ x, x ∈ (calls.view s₁).rows ↔ x ∈ (calls.view s).rows ∧ x ≠ r := fun x => by
        rw [hrem.rows]
        exact and_congr_right fun hx =>
          not_congr ⟨fun he => Registries.eq_of_entityId hx hr he, fun he => he ▸ rfl⟩
      obtain ⟨s', hrun, hrows', hdevices⟩ := ih hnodup.2 s₁ fun x hx =>
        (hrows₁ x).mpr ⟨hrows x (List.mem_cons_of_mem r hx), fun he => hnodup.1 (he ▸ hx)⟩
      refine ⟨s', by simp only [removeRows, hs₁, hrun], fun x => ?_, fun d => ?_⟩
      · rw [hrows', hrows₁, List.mem_cons, not_or, and_assoc]
      · rw [hdevices, hrem.devices]

theorem removeConnectionDevices_spec (w : Willing calls) (entryId : String) (uids : List String)
    (affected : Finset String) (s : σ) : ∃ left s',
      removeConnectionDevices calls entryId uids affected s = (.ok left, s') ∧
        Without (calls.view s) (calls.view s') (OfConnections entryId uids) ∧
          ∀ id, id ∈ left ↔
            id ∈ affected ∧ ∀ d ∈ (calls.view s).devices, OfConnections entryId uids d → d.id ≠ id := by
  induction uids generalizing affected s with
  | nil =>
      have hnone : ∀ d, ¬ OfConnections entryId [] d := fun d ⟨uid, huid, _⟩ => by cases huid
      exact ⟨affected, s, rfl, Without.of_none fun d _ => hnone d, fun id => by simp [hnone]⟩
  | cons uid uids ih =>
      have hcons : ∀ d, OfConnections entryId (uid :: uids) d ↔
          [domain, entryId, uid] ∈ d.identifiers ∨ OfConnections entryId uids d := fun d =>
        List.exists_mem_cons_iff ..
      rw [removeConnectionDevices]
      cases hfind : connectionDevice entryId (calls.view s) uid with
      | none =>
          have hskip : ∀ d ∈ (calls.view s).devices,
              OfConnections entryId uids d ↔ OfConnections entryId (uid :: uids) d := by
            intro d hd
            rw [hcons, or_iff_right]
            intro hid
            rw [connectionDevice, Registries.asyncGetDevice_iff.mpr ⟨hd, hid⟩] at hfind
            cases hfind
          obtain ⟨left, s', hrun, hwithout, hleft⟩ := ih affected s
          refine ⟨left, s', hrun, hwithout.congr hskip, fun id => (hleft id).trans ?_⟩
          exact and_congr_right fun _ => forall₂_congr fun d hd => imp_congr_left (hskip d hd)
      | some d =>
          obtain ⟨hd, hid⟩ := Registries.asyncGetDevice_iff.mp hfind
          obtain ⟨s₁, hs₁⟩ := w.removeDevice d.id s ⟨d, hd, rfl⟩
          have hremoved := calls.device_ok _ _ _ hs₁
          have hnamed : ∀ e ∈ (calls.view s).devices,
              (e = d ∨ OfConnections entryId uids e) ↔ OfConnections entryId (uid :: uids) e := by
            intro e he
            rw [hcons]
            refine or_congr_left ⟨fun heq => heq ▸ hid, fun hide => ?_⟩
            exact (calls.view s).disjoint e he d hd _ hide hid
          obtain ⟨left, s', hrun, hwithout, hleft⟩ := ih (affected.erase d.id) s₁
          refine ⟨left, s', by simp only [hs₁, hrun], (hwithout.step hd hremoved).congr hnamed, fun id => ?_⟩
          rw [hleft, Finset.mem_erase]
          constructor
          · rintro ⟨⟨hne, hin⟩, hkeep⟩
            refine ⟨hin, fun e he hdoomed hide => ?_⟩
            rcases (hnamed e he).mpr hdoomed with rfl | hdoomed
            · exact hne hide.symm
            · exact hkeep e ((hremoved.devices e).mpr ⟨he, fun heq => hne (hide.symm.trans heq)⟩) hdoomed hide
          · rintro ⟨hin, hkeep⟩
            refine ⟨⟨fun heq => ?_, hin⟩, fun e he hdoomed => ?_⟩
            · exact hkeep d hd ((hcons d).mpr (Or.inl hid)) heq.symm
            · exact hkeep e ((hremoved.devices e).mp he).1 ((hcons e).mpr (Or.inr hdoomed))

def LeftOf (R R' : Registries) (r : EntityRow) : Prop :=
  ((∃ d ∈ R.devices, d ∉ R'.devices ∧ r.deviceId = some d.id) ∧ off r ∈ R'.rows) ∨
    ((∀ d ∈ R.devices, d ∉ R'.devices → r.deviceId ≠ some d.id) ∧ r ∈ R'.rows)

/-- What a cleanup does to the registries. A row goes if it is an orphan, or with
a device of an orphan's connection. -/
structure CleansUp (R R' : Registries) (entryId : String) (currentUids : Finset String) : Prop where
  removed : ∀ r ∈ R.rows, (∀ r' ∈ R'.rows, r'.id ≠ r.id) ↔
    r ∈ orphanedEntityEntries R entryId currentUids ∨ ∃ d ∈ R.devices, d ∉ R'.devices ∧ GoesWith d r
  left : ∀ r ∈ R.rows, (∃ r' ∈ R'.rows, r'.id = r.id) → LeftOf R R' r
  added : ∀ r' ∈ R'.rows, ∃ r ∈ R.rows, r'.id = r.id
  listedRows : ∀ r ∈ R.asyncEntriesForConfigEntry entryId, IsListed currentUids r → r ∈ R'.rows
  devices : ∀ d, d ∈ R'.devices ↔
    d ∈ R.devices ∧ ∀ uid ∈ removedUids R entryId currentUids, [domain, entryId, uid] ∉ d.identifiers
  listedDevices : ∀ d ∈ R.devices, ∀ uid ∈ currentUids, [domain, entryId, uid] ∈ d.identifiers →
    d ∈ R'.devices

structure CleansOrphans (calls : RegistryCalls σ) (order : IterationOrder) (entryId : String)
    (entry : Option LiveEntry) (known : RuntimeData) (s : σ) : Prop where
  available : ∀ currentUids, resolveCurrentUids entry = .ok currentUids → ∃ known' s',
    removeUnavailableEntities calls order entryId entry known s = (.ok none, known', s') ∧
      CleansUp (calls.view s) (calls.view s') entryId currentUids ∧
        ∀ platform, known'.platformTracking platform =
          known.platformTracking platform \ removedUids (calls.view s) entryId currentUids
  unavailable : ∀ errorKey, resolveCurrentUids entry = .error errorKey →
    removeUnavailableEntities calls order entryId entry known s = (.ok (some errorKey), known, s)

theorem mem_removedUids {R : Registries} {entryId : String} {currentUids : Finset String} {uid : String} :
    uid ∈ removedUids R entryId currentUids ↔ uid ∉ currentUids ∧
      ∃ r ∈ R.asyncEntriesForConfigEntry entryId, connectionUidFromEntityUniqueId r.uniqueId = some uid := by
  rw [removedUids, uidsFromEntityEntries, List.mem_toFinset, List.mem_filterMap]
  constructor
  · rintro ⟨r, hr, huid⟩
    obtain ⟨hrow, uid', hout, huid'⟩ := mem_orphanedEntityEntries.mp hr
    rw [huid, Option.some.injEq] at huid'
    exact ⟨huid' ▸ hout, r, hrow, huid⟩
  · rintro ⟨hout, r, hrow, huid⟩
    exact ⟨r, mem_orphanedEntityEntries.mpr ⟨hrow, uid, hout, huid⟩, huid⟩

section Cleanup

variable {R R₁ R' : Registries} {entryId : String} {currentUids : Finset String} {uids : List String}
  (hrows₁ : ∀ x, x ∈ R₁.rows ↔ x ∈ R.rows ∧ x ∉ orphanedEntityEntries R entryId currentUids)
  (hdevices₁ : ∀ d, d ∈ R₁.devices ↔ d ∈ R.devices)
  (huids : ∀ uid, uid ∈ uids ↔ uid ∈ removedUids R entryId currentUids)
  (h : Without R₁ R' (OfConnections entryId uids))

include hdevices₁ h

theorem device_gone_iff {d : DeviceRow} (hd : d ∈ R.devices) :
    d ∉ R'.devices ↔ OfConnections entryId uids d := by
  rw [h.devices, hdevices₁, not_and_not_right]
  exact forall_prop_of_true hd

include hrows₁

theorem row_after_iff {x : EntityRow} : x ∈ R'.rows ↔ ∃ r ∈ R.rows,
    (r ∉ orphanedEntityEntries R entryId currentUids ∧ ∀ d ∈ R.devices, d ∉ R'.devices → ¬ GoesWith d r) ∧
      (((∃ d ∈ R.devices, d ∉ R'.devices ∧ r.deviceId = some d.id) ∧ x = off r) ∨
        ((∀ d ∈ R.devices, d ∉ R'.devices → r.deviceId ≠ some d.id) ∧ x = r)) := by
  have hgone : ∀ d ∈ R.devices, OfConnections entryId uids d ↔ d ∉ R'.devices := fun d hd =>
    (device_gone_iff hdevices₁ h hd).symm
  have hany : ∀ P : DeviceRow → Prop, (∃ d ∈ R.devices, OfConnections entryId uids d ∧ P d) ↔
      ∃ d ∈ R.devices, d ∉ R'.devices ∧ P d := fun P =>
    exists_congr fun d => and_congr_right fun hd => and_congr_left fun _ => hgone d hd
  have hall : ∀ P : DeviceRow → Prop, (∀ d ∈ R.devices, OfConnections entryId uids d → P d) ↔
      ∀ d ∈ R.devices, d ∉ R'.devices → P d := fun P =>
    forall₂_congr fun d hd => imp_congr_left (hgone d hd)
  rw [h.rows]
  simp only [hrows₁, hdevices₁, hany, hall, and_assoc]

theorem row_before {r r' : EntityRow} (hr : r ∈ R.rows) (hr' : r' ∈ R'.rows) (hid : r'.id = r.id) :
    (r ∉ orphanedEntityEntries R entryId currentUids ∧
      ∀ d ∈ R.devices, d ∉ R'.devices → ¬ GoesWith d r) ∧ LeftOf R R' r := by
  obtain ⟨q, hq, hstays, hcase⟩ := (row_after_iff hrows₁ hdevices₁ h).mp hr'
  have hqr : q = r := by
    refine List.inj_on_of_nodup_map R.rowIds_nodup hq hr ?_
    rcases hcase with ⟨-, rfl⟩ | ⟨-, rfl⟩ <;> exact hid
  subst hqr
  refine ⟨hstays, hcase.imp (And.imp_right ?_) (And.imp_right ?_)⟩
  · rintro rfl
    exact hr'
  · rintro rfl
    exact hr'

theorem row_stays {r : EntityRow} (hr : r ∈ R.rows) (horphan : r ∉ orphanedEntityEntries R entryId currentUids)
    (hgoes : ∀ d ∈ R.devices, d ∉ R'.devices → ¬ GoesWith d r) : ∃ r' ∈ R'.rows, r'.id = r.id := by
  by_cases hon : ∃ d ∈ R.devices, d ∉ R'.devices ∧ r.deviceId = some d.id
  · exact ⟨off r, (row_after_iff hrows₁ hdevices₁ h).mpr ⟨r, hr, ⟨horphan, hgoes⟩, Or.inl ⟨hon, rfl⟩⟩, rfl⟩
  · push Not at hon
    exact ⟨r, (row_after_iff hrows₁ hdevices₁ h).mpr ⟨r, hr, ⟨horphan, hgoes⟩, Or.inr ⟨hon, rfl⟩⟩, rfl⟩

include huids

omit hrows₁ in
theorem device_after_iff {d : DeviceRow} : d ∈ R'.devices ↔
    d ∈ R.devices ∧ ∀ uid ∈ removedUids R entryId currentUids, [domain, entryId, uid] ∉ d.identifiers := by
  rw [h.devices, hdevices₁, OfConnections]
  simp only [huids]
  push Not
  exact Iff.rfl

/-- A listed row is on its own device, which is not of a removed connection. -/
theorem listed_stays (hreg : SelfRegistered R) {r : EntityRow}
    (hrow : r ∈ R.asyncEntriesForConfigEntry entryId) (hlisted : IsListed currentUids r) : r ∈ R'.rows := by
  obtain ⟨hr, hof⟩ := Registries.mem_entriesForConfigEntry.mp hrow
  obtain ⟨uid, hin, huid⟩ := hlisted
  have hoff : ∀ d ∈ R.devices, d ∉ R'.devices → r.deviceId ≠ some d.id := by
    intro d hd hgone hon
    obtain ⟨uid', huid', hid'⟩ := (device_gone_iff hdevices₁ h hd).mp hgone
    obtain ⟨entryId', hof', d', hd', hdid, hid⟩ := hreg.ownDevice r hr uid huid d.id hon
    rw [Registries.eq_of_deviceId hd' hd hdid] at hid
    rw [(hreg.oneConnection d hd _ _ _ _ hid hid').2] at hin
    exact (mem_removedUids.mp ((huids uid').mp huid')).1 hin
  refine (row_after_iff hrows₁ hdevices₁ h).mpr ⟨r, hr, ⟨fun horphan => ?_, ?_⟩, Or.inr ⟨hoff, rfl⟩⟩
  · exact (mem_orphanedEntityEntries.mp horphan).2.not_listed ⟨uid, hin, huid⟩
  · exact fun d hd hgone hgoes => hoff d hd hgone hgoes.1

theorem cleansUp_of_without (hreg : SelfRegistered R) : CleansUp R R' entryId currentUids where
  removed := by
    intro r hr
    constructor
    · intro hgone
      by_contra hnot
      push Not at hnot
      obtain ⟨r', hr', hid⟩ := row_stays hrows₁ hdevices₁ h hr hnot.1 hnot.2
      exact hgone r' hr' hid
    · intro hcase r' hr' hid
      obtain ⟨⟨horphan, hgoes⟩, -⟩ := row_before hrows₁ hdevices₁ h hr hr' hid
      rcases hcase with hcase | ⟨d, hd, hgone, hgo⟩
      · exact horphan hcase
      · exact hgoes d hd hgone hgo
  left := fun r hr ⟨r', hr', hid⟩ => (row_before hrows₁ hdevices₁ h hr hr' hid).2
  added := by
    intro r' hr'
    obtain ⟨r, hr, -, ⟨-, rfl⟩ | ⟨-, rfl⟩⟩ := (row_after_iff hrows₁ hdevices₁ h).mp hr'
    · exact ⟨r, hr, rfl⟩
    · exact ⟨_, hr, rfl⟩
  listedRows := fun r hrow hlisted => listed_stays hrows₁ hdevices₁ huids h hreg hrow hlisted
  devices := fun d => device_after_iff hdevices₁ huids h
  listedDevices := by
    intro d hd uid hin hid
    refine (device_after_iff hdevices₁ huids h).mpr ⟨hd, fun uid' huid' hid' => ?_⟩
    rw [(hreg.oneConnection d hd _ _ _ _ hid hid').2] at hin
    exact (mem_removedUids.mp huid').1 hin

end Cleanup

/-- The affected devices are those of the removed connections, so none is left to
look at when these are gone. -/
theorem removeOrphanedEntities_cleansUp (w : Willing calls) (order : IterationOrder) (entryId : String)
    (currentUids : Finset String) (s : σ) (hreg : SelfRegistered (calls.view s)) : ∃ s',
      removeOrphanedEntities calls order entryId
          (orphanedEntityEntries (calls.view s) entryId currentUids) true s =
        (.ok (removedUids (calls.view s) entryId currentUids), s') ∧
      CleansUp (calls.view s) (calls.view s') entryId currentUids := by
  have horphan := fun r (hr : r ∈ orphanedEntityEntries (calls.view s) entryId currentUids) =>
    mem_orphanedEntityEntries.mp hr
  have hrow := fun r (hr : r ∈ orphanedEntityEntries (calls.view s) entryId currentUids) =>
    Registries.mem_entriesForConfigEntry.mp (horphan r hr).1
  obtain ⟨s₁, hrun₁, hrows₁, hdevices₁⟩ := removeRows_spec w
    (orphanedEntityEntries (calls.view s) entryId currentUids)
    (List.Nodup.filter _ (List.Nodup.filter _ (rows_nodup _))) s fun r hr => (hrow r hr).1
  obtain ⟨left, s₂, hrun₂, hwithout, hleft⟩ := removeConnectionDevices_spec w entryId
    (order.toList (removedUids (calls.view s) entryId currentUids))
    ((orphanedEntityEntries (calls.view s) entryId currentUids).filterMap fun e =>
      e.deviceId.filter (· ≠ "")).toFinset s₁
  have huids : ∀ uid, uid ∈ order.toList (removedUids (calls.view s) entryId currentUids) ↔
      uid ∈ removedUids (calls.view s) entryId currentUids := fun uid => mem_toList
  have hclean := cleansUp_of_without hrows₁ hdevices₁ huids hwithout hreg
  have hnone : left = ∅ := by
    refine Finset.eq_empty_of_forall_notMem fun id hid => ?_
    obtain ⟨haffected, hkeep⟩ := (hleft id).mp hid
    obtain ⟨r, hr, hdevice⟩ := List.mem_filterMap.mp (List.mem_toFinset.mp haffected)
    obtain ⟨uid, hout, huid⟩ := (horphan r hr).2
    obtain ⟨entryId', hof', d, hd, rfl, hidentifier⟩ := hreg.ownDevice r (hrow r hr).1 uid huid id
      (Option.filter_eq_some_iff.mp hdevice).1
    obtain rfl : entryId' = entryId := Option.some.inj (hof'.symm.trans (hrow r hr).2)
    refine hkeep d ((hdevices₁ d).mpr hd) ⟨uid, (huids uid).mpr ?_, hidentifier⟩ rfl
    exact mem_removedUids.mpr ⟨hout, r, (horphan r hr).1, huid⟩
  have hempty : order.toList ∅ = [] := List.eq_nil_iff_forall_not_mem.mpr fun uid huid =>
    Finset.notMem_empty uid (mem_toList.mp huid)
  rw [removeOrphanedEntities]
  split
  next hnil =>
    have hno : orphanedEntityEntries (calls.view s) entryId currentUids = [] := List.isEmpty_iff.mp hnil
    have hs : s₂ = s := by
      rw [hno] at hrun₁
      cases hrun₁
      rw [removedUids, hno] at hrun₂
      simp only [uidsFromEntityEntries, List.filterMap_nil, List.toFinset_nil, hempty] at hrun₂
      cases hrun₂
      rfl
    refine ⟨s, ?_, hs ▸ hclean⟩
    rw [removedUids, hno]
    rfl
  next =>
    refine ⟨s₂, ?_, hclean⟩
    rw [removedUids] at hrun₂ ⊢
    simp only [Bool.not_true, Bool.false_eq_true, if_false, hrun₁, hrun₂, hnone, hempty, removeEmptyDevices]

/-- A cleanup removes the orphans, and what goes with their devices. -/
theorem removeUnavailableEntities_cleansOrphans (w : Willing calls) (order : IterationOrder)
    (entryId : String) (entry : Option LiveEntry) (known : RuntimeData) (s : σ)
    (hreg : SelfRegistered (calls.view s)) : CleansOrphans calls order entryId entry known s where
  available := by
    intro currentUids hres
    obtain ⟨s', hrun, hclean⟩ := removeOrphanedEntities_cleansUp w order entryId currentUids s hreg
    refine ⟨untrack entry known (removedUids (calls.view s) entryId currentUids), s', ?_, hclean, fun platform => ?_⟩
    · simp only [removeUnavailableEntities, getOrphanedEntityEntries, hres, Except.map, hrun]
    · rw [untrack]
      split
      next hempty => rw [hempty, Finset.sdiff_empty]
      next =>
        split
        next hnone =>
          rw [resolveCurrentUids, hnone] at hres
          cases hres
        next => exact RuntimeData.platformTracking_clearKnownUids _ _ _
  unavailable := by
    intro errorKey hres
    simp only [removeUnavailableEntities, getOrphanedEntityEntries, hres, Except.map]

def helperDevice : DeviceRow := ⟨⟨"device", {[domain, "entry", "a"]}⟩, {"entry"}, some "Office", none⟩

def helperOffice : Registries where
  rows := [⟨⟨⟨"switch", "office"⟩, UidIdentity.entityUniqueId "a" .switch, domain, some "entry"⟩, "row",
      some "device", false⟩,
    ⟨⟨⟨"sensor", "office_hours"⟩, "hours", "history_stats", some "helper"⟩, "second", some "device", false⟩]
  devices := [helperDevice]
  entityIds_nodup := by decide +kernel
  uniqueKeys_nodup := by decide +kernel
  rowIds_nodup := by decide +kernel
  deviceIds_nodup := List.nodup_singleton _
  disjoint := by
    intro d hd e he _ _ _
    rw [List.mem_singleton.mp hd, List.mem_singleton.mp he]

def settledEntry (uid : String) : LiveEntry := ⟨.settled .loaded, some { data := some (office uid) }⟩

theorem helperOffice_selfRegistered : SelfRegistered helperOffice where
  oneConnection := by
    intro d hd entryId uid entryId' uid' hid hid'
    rw [List.mem_singleton.mp hd] at hid hid'
    have he := Finset.mem_singleton.mp hid
    have he' := Finset.mem_singleton.mp hid'
    simp only [List.cons.injEq, and_true, true_and] at he he'
    exact ⟨he.1.trans he'.1.symm, he.2.trans he'.2.symm⟩
  ownDevice := by
    have hswitch : connectionUidFromEntityUniqueId (UidIdentity.entityUniqueId "a" .switch) = some "a" := by
      decide +kernel
    have hhelper : connectionUidFromEntityUniqueId "hours" = none := by decide +kernel
    intro r hr uid huid deviceId hdevice
    rcases List.mem_pair.mp hr with rfl | rfl
    · rw [hswitch, Option.some.injEq] at huid
      subst huid
      exact ⟨"entry", rfl, _, List.mem_singleton_self _, Option.some.inj hdevice, Finset.mem_singleton_self _⟩
    · rw [hhelper] at huid
      cases huid

theorem helperOffice_cleansOrphans : CleansOrphans memoryCalls sortedOrder "entry"
    (some (settledEntry "b")) ⟨{"a"}, {"a"}, {"a"}⟩ helperOffice :=
  removeUnavailableEntities_cleansOrphans memoryCalls_willing sortedOrder "entry" _ _ helperOffice
    helperOffice_selfRegistered

structure RemovesExactly (R R' : Registries) (entryId : String) (currentUids : Finset String) : Prop where
  removed : ∀ r ∈ R.rows, (∀ r' ∈ R'.rows, r'.id ≠ r.id) ↔
    r ∈ orphanedEntityEntries R entryId currentUids ∨
      ∃ d ∈ R.devices, d ∉ R'.devices ∧ r.deviceId = some d.id
  others : ∀ r ∈ R.rows, r.configEntryId ≠ some entryId → r ∈ R'.rows

/-- The helper is still there, off the device. -/
theorem helperOffice_not_removesExactly : SelfRegistered helperOffice ∧
    ¬ RemovesExactly helperOffice (removeUnavailableEntities memoryCalls sortedOrder "entry"
      (some (settledEntry "b")) ⟨∅, ∅, ∅⟩ helperOffice).2.2 "entry" {"b"} := by
  refine ⟨helperOffice_selfRegistered, fun h => ?_⟩
  have hrow := h.others _ (List.mem_cons_of_mem _ (List.mem_singleton_self _)) (by decide)
  revert hrow
  decide +kernel

end FritzboxVpn.OrphanCleanup
