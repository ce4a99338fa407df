import FritzboxVpn.Orphans
import FritzboxVpn.RepairConvergence

namespace FritzboxVpn.CorrectIds

open Constants Coordinator CoordinatorSteps EntityIds EntityRepairs Exceptions HomeAssistant JsonValue
  OrderedDict Orphans RegistryRows RepairConvergence RepairMoves RepairPasses RepairPlans SetupRepair UniqueIdCodec

structure Correct (R : Registries) (slugify : String → String) (entryId : String)
    (currentUids : Finset String) (r : EntityRow) : Prop where
  row : r ∈ R.asyncEntriesForConfigEntry entryId
  expected : expectedEntityIdForRegistryEntry slugify R r = some r.entityId
  listed : IsListed currentUids r

def LeftAlone (R' : Registries) (r : EntityRow) : Prop :=
  ∃ r' ∈ R'.rows, r'.id = r.id ∧ r'.entityId = r.entityId

/-- The row's id is not numbered over a free base, or another row is first over it. -/
def NotNext (R : Registries) (entryId : String) (r : EntityRow) : Prop :=
  ∀ base, entityIdBase r.entityId = some base → R.Free base →
    ∃ f ∈ R.asyncEntriesForConfigEntry entryId, entityIdBase f.entityId = some base ∧ comesBefore f r = true

/-- No merge moves the row, no emptied device takes it, no suffix repair renames it. -/
structure Undisturbed {S : Start} (c : Choice S) (r : EntityRow) : Prop where
  merges : ∀ base, c.pick base ≠ some r
  devices : ∀ d, S.Empties d → ¬ GoesWith d r
  suffixes : ∀ base, ¬ c.SuffixMove r r.entityId base

section Repair

variable {S : Start} {c : Choice S} {R' : Registries}

theorem kept_id {r x : EntityRow} (h : S.Kept r x) : x.id = r.id := by
  rcases h with ⟨-, rfl⟩ | ⟨-, rfl⟩ <;> rfl

theorem leftAlone_iff_ends (hf : Final c R') {r : EntityRow} (hr : r ∈ S.registries.rows) :
    LeftAlone R' r ↔ S.Remains r ∧ c.Ends r r.entityId := by
  constructor
  · rintro ⟨x, hx, hid, he⟩
    obtain ⟨q, e, hq, hends, hk⟩ := (hf.rows x).mp hx
    have hqr : q = r := List.inj_on_of_nodup_map S.registries.rowIds_nodup hq.row hr
      ((kept_id hk).symm.trans hid)
    subst hqr
    rw [(kept_fields hk).1, moved_entityId] at he
    exact ⟨hq, he ▸ hends⟩
  · rintro ⟨hremains, hends⟩
    obtain ⟨x, hk⟩ := kept_exists (S := S) (moved r r.entityId)
    exact ⟨x, (hf.rows x).mpr ⟨r, _, hremains, hends, hk⟩, kept_id hk, (kept_fields hk).1⟩

variable {currentUids : Finset String} {r : EntityRow}
  (hr : Correct S.registries S.slugify S.entryId currentUids r)

include hr

theorem afterLegacy_of_correct : S.AfterLegacy r r.entityId := by
  refine Or.inr ⟨fun e hmove => ?_, rfl⟩
  obtain ⟨-, hexpected, hne, -⟩ := hmove.spec
  exact hne (Option.some.inj (hr.expected.symm.trans hexpected))

theorem afterMerge_of_correct {e : EntityId} :
    c.AfterMerge r e ↔ c.pick e = some r ∨ (e = r.entityId ∧ ∀ base, c.pick base ≠ some r) := by
  refine or_congr_right (and_congr_left fun _ => ⟨fun h => ?_, fun h => ?_⟩)
  · exact h.unique (afterLegacy_of_correct hr)
  · exact h ▸ afterLegacy_of_correct hr

theorem base_of_pick {base : EntityId} (h : c.pick base = some r) : entityIdBase r.entityId = some base := by
  obtain ⟨orphan, hpair⟩ := c.pair base r h
  obtain ⟨e, he, hsuffixed⟩ := hpair.suffixed
  rwa [he.unique (afterLegacy_of_correct hr)] at hsuffixed

/-- The row ends at its id if nothing moves it: each move makes an id shorter. -/
theorem ends_of_correct : c.Ends r r.entityId ↔
    (∀ base, c.pick base ≠ some r) ∧ ∀ base, ¬ c.SuffixMove r r.entityId base := by
  constructor
  · rintro (⟨e₀, hmove⟩ | ⟨hafter, hnot⟩)
    · exfalso
      have hlen := entityIdBase_length hmove.suffixed
      rcases (afterMerge_of_correct hr).mp hmove.stands with hpick | ⟨rfl, -⟩
      · exact lt_asymm hlen (entityIdBase_length (base_of_pick hr hpick))
      · exact lt_irrefl _ hlen
    · rcases (afterMerge_of_correct hr).mp hafter with hpick | ⟨-, hnone⟩
      · exact absurd rfl (entityIdBase_ne (base_of_pick hr hpick))
      · exact ⟨hnone, hnot⟩
  · rintro ⟨hnone, hnot⟩
    exact Or.inr ⟨(afterMerge_of_correct hr).mpr (Or.inr ⟨rfl, hnone⟩), hnot⟩

theorem not_gone_of_correct (huids : ∀ uids, resolveCurrentUids S.entry = .ok uids → uids = currentUids) :
    ¬ S.Gone r := by
  rintro ⟨base, live, hpair⟩
  obtain ⟨uids, uid, hres, huid, hout⟩ := hpair.orphaned
  obtain rfl := huids uids hres
  exact IsOrphan.not_listed ⟨uid, hout, huid⟩ hr.listed

theorem leftAlone_iff_undisturbed (hf : Final c R')
    (huids : ∀ uids, resolveCurrentUids S.entry = .ok uids → uids = currentUids) :
    LeftAlone R' r ↔ Undisturbed c r := by
  have hrow := (Registries.mem_entriesForConfigEntry.mp hr.row).1
  rw [leftAlone_iff_ends hf hrow, ends_of_correct hr]
  constructor
  · rintro ⟨hremains, hmerges, hsuffixes⟩
    exact ⟨hmerges, hremains.notLost, hsuffixes⟩
  · intro h
    exact ⟨⟨hrow, not_gone_of_correct hr huids, h.devices⟩, h.merges, h.suffixes⟩

omit hr in
/-- Where no row is orphaned, only the suffix pass disturbs a correct row, and it does not
where a correct row is at the base. -/
theorem undisturbed_of_base_held
    (hlisted : ∀ q ∈ S.registries.asyncEntriesForConfigEntry S.entryId, ¬ Orphaned S.entry q)
    (hheld : ∀ base, entityIdBase r.entityId = some base →
      ∃ q, Correct S.registries S.slugify S.entryId currentUids q ∧ q.entityId = base) : Undisturbed c r := by
  have hgone : ∀ q, ¬ S.Gone q := fun q ⟨base, live, hpair⟩ => hlisted q hpair.orphanRow hpair.orphaned
  have hempties : ∀ d, ¬ S.Empties d := by
    rintro d hd
    obtain ⟨orphan, uid, horphan, -⟩ := hd.ofOrphan
    exact hgone orphan horphan
  have hpick : ∀ base q, c.pick base ≠ some q := by
    intro base q h
    obtain ⟨orphan, hpair⟩ := c.pair base q h
    exact hgone orphan ⟨base, q, hpair⟩
  refine ⟨fun base => hpick base r, fun d hd => absurd hd (hempties d), ?_⟩
  intro base hmove
  obtain ⟨q, hq, rfl⟩ := hheld base hmove.suffixed
  have hrow := (Registries.mem_entriesForConfigEntry.mp hq.row).1
  refine hmove.free q ⟨hrow, hgone q, fun d hd => absurd hd (hempties d)⟩ ?_
  exact (afterMerge_of_correct hq).mpr (Or.inr ⟨rfl, fun base => hpick base q⟩)

end Repair

variable {σ : Type} {calls : RegistryCalls σ}

/-- The repair of a setup is the suffix pass. -/
theorem setupRepair_leftAlone_iff (w : Willing calls) (order : IterationOrder) (entryId : String)
    (coordinator : Coordinator.State) (polled : Dict String Json) (s : σ)
    (hvalid : ∀ p ∈ getEntityIdSuffixRepairs (calls.view s) entryId false, calls.validEntityId p.2.1)
    {r : EntityRow} (hr : r ∈ (calls.view s).asyncEntriesForConfigEntry entryId) :
    LeftAlone (calls.view (repairEntityIdsBeforePlatformSetup calls order entryId
        (some (settingUp coordinator polled)) s).2) r ↔ NotNext (calls.view s) entryId r := by
  have hrow := (Registries.mem_entriesForConfigEntry.mp hr).1
  have hrun : (repairEntityIdsBeforePlatformSetup calls order entryId
      (some (settingUp coordinator polled)) s).2 = (repairEntityIdSuffixes calls entryId false s).2 := by
    rw [repairEntityIdsBeforePlatformSetup, repairOrphanBaseSuffixMerges, merges_settingUp]
    rfl
  have hp := suffixPass_placed w hvalid
  have hplanned : LeftAlone (calls.view (repairEntityIdSuffixes calls entryId false s).2) r ↔
      ∀ base, (r, base, false) ∉ getEntityIdSuffixRepairs (calls.view s) entryId false := by
    constructor
    · rintro ⟨x, hx, hid, he⟩ base hplan
      obtain ⟨q, hq, -, hcase⟩ := (hp.rows x).mp hx
      have hqr : q = r := by
        refine List.inj_on_of_nodup_map (calls.view s).rowIds_nodup hq hrow ?_
        rcases hcase with ⟨e, -, rfl⟩ | ⟨-, rfl⟩ <;> exact hid
      subst hqr
      rcases hcase with ⟨e, hmove, rfl⟩ | ⟨hnot, -⟩
      · exact (suffixRepair_spec hmove).2.1 q hq he.symm
      · exact hnot base hplan
    · exact fun hnot => ⟨r, (hp.rows r).mpr ⟨r, hrow, not_false, Or.inr ⟨hnot, rfl⟩⟩, rfl, rfl⟩
  rw [hrun, hplanned, NotNext]
  simp only [mem_suffixRepairs_iff_first]
  refine forall_congr' fun base => ⟨fun h hbase hfree => ?_, fun h hplan => ?_⟩
  · by_contra hnot
    push Not at hnot
    exact h ⟨hfree, hr, hbase, hnot⟩
  · obtain ⟨hfree, -, hbase, hfirst⟩ := hplan
    obtain ⟨f, hf, hfbase, hlt⟩ := h hbase hfree
    exact hfirst f hf hfbase hlt

/-- A correct id is left alone exactly where no pass takes it for a numbered one
that is next, or its row for what is left on the device of a merged orphan. -/
theorem correct_leftAlone_iff (w : Willing calls) (order : IterationOrder) (slugify : String → String)
    (entryId : String) (entry : Option LiveEntry) (s : σ)
    (hv : (Start.mk (calls.view s) entryId slugify entry).ValidIds calls.validEntityId) :
    (∀ coordinator polled r, Correct (calls.view s) slugify entryId polled.keys r →
      (LeftAlone (calls.view (repairEntityIdsBeforePlatformSetup calls order entryId
        (some (settingUp coordinator polled)) s).2) r ↔ NotNext (calls.view s) entryId r)) ∧
    ∃ c : Choice ⟨calls.view s, entryId, slugify, entry⟩,
      c.MadeIn (calls.view (repairLegacyEntityObjectIds calls slugify entryId s).2) ∧
        ∀ currentUids, (∀ uids, resolveCurrentUids entry = .ok uids → uids = currentUids) →
          ∀ r, Correct (calls.view s) slugify entryId currentUids r →
            (LeftAlone (calls.view (repairEntityIds calls order slugify entryId entry s).2) r ↔
              Undisturbed c r) := by
  constructor
  · intro coordinator polled r hr
    refine setupRepair_leftAlone_iff w order entryId coordinator polled s (fun p hp => ?_) hr.row
    obtain ⟨-, -, hrow, hbase, -⟩ := suffixRepair_spec hp
    exact hv.base _ _ (hv.rows p.1 (Registries.mem_entriesForConfigEntry.mp hrow).1) hbase
  · obtain ⟨c, hmade, hf⟩ := repairEntityIds_final w order slugify entryId entry s hv
    exact ⟨c, hmade, fun currentUids huids r hr => leftAlone_iff_undisturbed hr hf huids⟩

def officeRow (objectId : String) : EntityRow :=
  ⟨⟨⟨"switch", objectId⟩, UidIdentity.entityUniqueId "a" .switch, domain, some "entry"⟩, "row",
    some "device", false⟩

def namedOffice (objectId name : String) : Registries where
  rows := [officeRow objectId]
  devices := [⟨⟨"device", {[domain, "entry", "a"]}⟩, {"entry"}, some name, none⟩]
  entityIds_nodup := List.nodup_singleton _
  uniqueKeys_nodup := List.nodup_singleton _
  rowIds_nodup := List.nodup_singleton _
  deviceIds_nodup := List.nodup_singleton _
  disjoint := by
    intro d hd e he _ _ _
    rw [List.mem_singleton.mp hd, List.mem_singleton.mp he]

theorem namedOffice_correct {objectId name : String} (h : underscored name = objectId) (hne : name ≠ "")
    {currentUids : Finset String} (huid : "a" ∈ currentUids) :
    Correct (namedOffice objectId name) underscored "entry" currentUids (officeRow objectId) := by
  have hsuffix : uniqueIdSuffixFromEntityUniqueId (UidIdentity.entityUniqueId "a" .switch) = some .switch := by
    decide +kernel
  have hread : connectionUidFromEntityUniqueId (UidIdentity.entityUniqueId "a" .switch) = some "a" := by
    decide +kernel
  have hdevice : "device" ≠ "" := by decide
  have hrow : officeRow objectId ∈ (namedOffice objectId name).rows := List.mem_singleton_self _
  refine ⟨Registries.mem_entriesForConfigEntry.mpr ⟨hrow, rfl⟩, expectedEntityId_iff.mpr
    ⟨.switch, _, name, hsuffix, List.mem_singleton_self _, rfl, hdevice, ?_, ?_⟩, "a", huid, hread⟩
  · simp [deviceName, hne]
  · rw [expectedObjectIdForDeviceSuffix, if_pos rfl, h]
    rfl

def secondRow : EntityRow :=
  ⟨⟨⟨"switch", "office_2"⟩, UidIdentity.entityUniqueId "b" .switch, domain, some "entry"⟩, "row 2",
    some "device 2", false⟩

def namedOffices : Registries where
  rows := [officeRow "office", secondRow]
  devices := [⟨⟨"device", {[domain, "entry", "a"]}⟩, {"entry"}, some "Office", none⟩,
    ⟨⟨"device 2", {[domain, "entry", "b"]}⟩, {"entry"}, some "Office 2", none⟩]
  entityIds_nodup := by decide +kernel
  uniqueKeys_nodup := by decide +kernel
  rowIds_nodup := by decide +kernel
  deviceIds_nodup := by decide +kernel
  disjoint := by decide +kernel

def offices : Dict String Json :=
  Dict.ofList [("a", .obj [("name", .str "Office")]), ("b", .obj [("name", .str "Office 2")])]

def officesEntry : LiveEntry := ⟨.settled .loaded, some { data := some offices }⟩

theorem namedOffices_correct {r : EntityRow} (hr : r ∈ namedOffices.rows) :
    Correct namedOffices underscored "entry" offices.keys r := by
  have hall : ∀ r ∈ namedOffices.rows, r ∈ namedOffices.asyncEntriesForConfigEntry "entry" ∧
      expectedEntityIdForRegistryEntry underscored namedOffices r = some r.entityId ∧
        ∃ uid ∈ offices.keys, connectionUidFromEntityUniqueId r.uniqueId = some uid := by
    decide +kernel
  obtain ⟨hrow, hexpected, hlisted⟩ := hall r hr
  exact ⟨hrow, hexpected, hlisted⟩

/-- The number of a name stays where the base has its own row. -/
theorem namedOffices_leftAlone :
    (∀ r ∈ namedOffices.rows, LeftAlone (repairEntityIdsBeforePlatformSetup memoryCalls sortedOrder "entry"
        (some (settingUp {} offices)) namedOffices).2 r) ∧
      ∀ r ∈ namedOffices.rows, LeftAlone (repairEntityIds memoryCalls sortedOrder underscored "entry"
        (some officesEntry) namedOffices).2 r := by
  obtain ⟨hsetup, c, -, hrepair⟩ := correct_leftAlone_iff memoryCalls_willing sortedOrder underscored "entry"
    (some officesEntry) namedOffices ⟨fun _ _ => trivial, fun _ _ _ _ => trivial, fun _ _ _ _ => trivial⟩
  have hbase : ∀ r ∈ namedOffices.rows, ∀ base, entityIdBase r.entityId = some base →
      ∃ q ∈ namedOffices.rows, q.entityId = base := by
    intro r hr base hbase
    have hheld : ∀ r ∈ namedOffices.rows, ∀ base ∈ entityIdBase r.entityId,
        ∃ q ∈ namedOffices.rows, q.entityId = base := by decide +kernel
    exact hheld r hr base hbase
  constructor
  · intro r hr
    refine (hsetup {} offices r (namedOffices_correct hr)).mpr fun base hsuffixed hfree => ?_
    obtain ⟨q, hq, rfl⟩ := hbase r hr base hsuffixed
    exact absurd rfl (hfree q hq)
  · intro r hr
    refine (hrepair offices.keys ?_ r (namedOffices_correct hr)).mpr ?_
    · intro uids huids
      exact (Except.ok.inj huids).symm
    · refine @undisturbed_of_base_held _ c offices.keys r ?_ ?_
      · rintro q hq ⟨uids, uid, huids, huid, hout⟩
        obtain rfl : offices.keys = uids := Except.ok.inj huids
        obtain ⟨uid', hin, huid'⟩ := (namedOffices_correct
          (Registries.mem_entriesForConfigEntry.mp hq).1).listed
        rw [huid, Option.some.injEq] at huid'
        exact hout (huid' ▸ hin)
      · intro base hsuffixed
        obtain ⟨q, hq, he⟩ := hbase r hr base hsuffixed
        exact ⟨q, namedOffices_correct hq, he⟩

/-- A name that ends in a number: both repairs take the number off. -/
theorem namedOffice_not_leftAlone :
    Correct (namedOffice "office_2" "Office 2") underscored "entry" {"a"} (officeRow "office_2") ∧
      ¬ LeftAlone (repairEntityIdsBeforePlatformSetup memoryCalls sortedOrder "entry"
        (some (settingUp {} (office "a"))) (namedOffice "office_2" "Office 2")).2 (officeRow "office_2") ∧
      ¬ LeftAlone (repairEntityIds memoryCalls sortedOrder underscored "entry" (some (loadedEntry "a"))
        (namedOffice "office_2" "Office 2")).2 (officeRow "office_2") := by
  refine ⟨namedOffice_correct (by decide +kernel) (by decide) (Finset.mem_singleton_self _), ?_, ?_⟩
  · rintro ⟨x, hx, -, he⟩
    revert x
    decide +kernel
  · rintro ⟨x, hx, -, he⟩
    revert x
    decide +kernel

end FritzboxVpn.CorrectIds
