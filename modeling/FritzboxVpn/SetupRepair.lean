import FritzboxVpn.CoordinatorSteps
import FritzboxVpn.EntityRepairs

namespace FritzboxVpn.SetupRepair

open Constants Coordinator CoordinatorSteps EntityIds EntityRepairs Exceptions HomeAssistant JsonValue
  OrderedDict RegistryRows UidIdentity UniqueIdCodec

/-- The entry while its setup runs: the first poll is done, and the runtime
data is set. -/
def settingUp (c : Coordinator.State) (polled : Dict String Json) : LiveEntry :=
  ⟨.setupInProgress, some { c with data := some polled }⟩

structure LiveAt (R : Registries) (entryId : String) (currentUids : Finset String) (base : EntityId)
    (live : EntityRow) : Prop where
  row : live ∈ R.asyncEntriesForConfigEntry entryId
  suffixed : entityIdBase live.entityId = some base
  listed : ∃ uid ∈ currentUids, connectionUidFromEntityUniqueId live.uniqueId = some uid

structure OrphanAt (R : Registries) (entryId : String) (currentUids : Finset String) (base : EntityId)
    (orphan : EntityRow) : Prop where
  row : orphan ∈ R.asyncEntriesForConfigEntry entryId
  holds : orphan.entityId = base
  unlisted : ∃ uid, uid ∉ currentUids ∧ connectionUidFromEntityUniqueId orphan.uniqueId = some uid

def EligiblePair (R : Registries) (entryId : String) (currentUids : Finset String) (base : EntityId) :
    Prop :=
  (∃ orphan, OrphanAt R entryId currentUids base orphan) ∧ ∃ live, LiveAt R entryId currentUids base live

def HealsPairs (R R' : Registries) (entryId : String) (currentUids : Finset String) : Prop :=
  ∀ base, EligiblePair R entryId currentUids base →
    ∃ live, LiveAt R entryId currentUids base live ∧ ∃ r ∈ R'.rows, r.id = live.id ∧ r.entityId = base

variable {σ : Type} {calls : RegistryCalls σ}

theorem suffixRepair_free {R : Registries} {entryId : String} {p : EntityRow × EntityId × Bool}
    (h : p ∈ getEntityIdSuffixRepairs R entryId false) : p.2.2 = false ∧ R.Free p.2.1 := by
  obtain ⟨q, -, hq⟩ := List.mem_filterMap.mp h
  split at hq
  next => cases hq
  next preferred hpref =>
    split at hq
    next baseEntry hbase =>
      split at hq
      · cases hq
      · cases hq
    next hbase =>
      split at hq
      next => cases hq
      next hget =>
        cases hq
        refine ⟨rfl, ?_⟩
        rw [Bool.not_eq_true, Option.isSome_eq_false_iff, Option.isNone_iff_eq_none] at hget
        exact Registries.asyncGet_eq_none.mp hget

theorem replaceAll_rows (plan : List (EntityRow × EntityId × Bool)) (hplan : ∀ p ∈ plan, p.2.2 = false)
    (s : σ) {r : EntityRow} (hr : r ∈ (calls.view (replaceAll calls plan s).2).rows) :
    ∃ r₀ ∈ (calls.view s).rows, r₀.id = r.id ∧
      (r.entityId = r₀.entityId ∨ ∃ p ∈ plan, r.entityId = p.2.1) := by
  induction plan generalizing s r with
  | nil => exact ⟨r, hr, rfl, Or.inl rfl⟩
  | cons p plan ih =>
      obtain ⟨entry, base, removeFirst⟩ := p
      have hflag : removeFirst = false := hplan _ List.mem_cons_self
      subst hflag
      have hrest : ∀ p ∈ plan, p.2.2 = false := fun p hp => hplan p (List.mem_cons_of_mem _ hp)
      rw [replaceAll] at hr
      simp only [Bool.false_eq_true, if_false] at hr
      cases hcall : calls.asyncUpdateEntity entry.entityId base s with
      | mk result s' =>
          rw [hcall] at hr
          cases result with
          | error e =>
              obtain ⟨r₀, hr₀, hid, hcase⟩ := ih hrest s' hr
              rw [calls.update_error _ _ _ _ _ hcall] at hr₀
              refine ⟨r₀, hr₀, hid, hcase.imp_right ?_⟩
              rintro ⟨p, hp, he⟩
              exact ⟨p, List.mem_cons_of_mem _ hp, he⟩
          | ok _ =>
              obtain ⟨r₁, hr₁, hid, hcase⟩ := ih hrest s' hr
              obtain ⟨r₀, hr₀, rfl⟩ := ((calls.update_ok _ _ _ _ hcall).rows r₁).mp hr₁
              rw [renamed_id] at hid
              refine ⟨r₀, hr₀, hid, ?_⟩
              rcases hcase with he | ⟨p, hp, he⟩
              · by_cases hold : r₀.entityId = entry.entityId
                · refine Or.inr ⟨_, List.mem_cons_self, ?_⟩
                  rw [he, EntityRow.renamed, if_pos hold]
                · left
                  rw [he, EntityRow.renamed, if_neg hold]
              · exact Or.inr ⟨p, List.mem_cons_of_mem _ hp, he⟩

/-- While the entry is set up its current UIDs cannot be resolved. -/
theorem merges_settingUp (R : Registries) (entryId : String) (c : Coordinator.State)
    (polled : Dict String Json) :
    getOrphanBaseSuffixMerges R entryId (some (settingUp c polled)) none = [] := rfl

/-- An orphan keeps its base through the setup: no merge is planned, and a suffix
repair goes to a free base only. -/
theorem not_healed (calls : RegistryCalls σ) (order : IterationOrder) {entryId : String}
    (c : Coordinator.State) {polled : Dict String Json} {s : σ} {base : EntityId}
    (hpair : EligiblePair (calls.view s) entryId polled.keys base) :
    ¬ HealsPairs (calls.view s) (calls.view (repairEntityIdsBeforePlatformSetup calls order entryId
        (some (settingUp c polled)) s).2) entryId polled.keys := by
  intro h
  obtain ⟨live, hlive, r, hr, hid, hbase⟩ := h base hpair
  obtain ⟨⟨orphan, horphan⟩, -⟩ := hpair
  have hmerge : repairOrphanBaseSuffixMerges calls order entryId (some (settingUp c polled)) none s =
      (.ok (0, []), s) := by
    rw [repairOrphanBaseSuffixMerges, merges_settingUp]
    rfl
  rw [repairEntityIdsBeforePlatformSetup, hmerge] at hr
  change r ∈ (calls.view (replaceAll calls
    (getEntityIdSuffixRepairs (calls.view s) entryId false) s).2).rows at hr
  obtain ⟨r₀, hr₀, hid₀, hcase⟩ := replaceAll_rows _ (fun p hp => (suffixRepair_free hp).1) s hr
  rcases hcase with he | ⟨p, hp, he⟩
  · have hlive₀ : r₀ = live := List.inj_on_of_nodup_map (calls.view s).rowIds_nodup hr₀
      (Registries.mem_entriesForConfigEntry.mp hlive.row).1 (hid₀.trans hid)
    apply entityIdBase_ne hlive.suffixed
    rw [← hbase, he, hlive₀]
  · have hfree := (suffixRepair_free hp).2
    rw [← he, hbase] at hfree
    exact hfree orphan (Registries.mem_entriesForConfigEntry.mp horphan.row).1 horphan.holds

/-- The repair step of a setup heals no pair: it does what it is for exactly
where there is none. -/
theorem healsPairs_iff (calls : RegistryCalls σ) (order : IterationOrder) (entryId : String)
    (c : Coordinator.State) (polled : Dict String Json) (s : σ) :
    HealsPairs (calls.view s) (calls.view (repairEntityIdsBeforePlatformSetup calls order entryId
        (some (settingUp c polled)) s).2) entryId polled.keys ↔
      ∀ base, ¬ EligiblePair (calls.view s) entryId polled.keys base := by
  constructor
  · exact fun h base hpair => not_healed calls order c hpair h
  · exact fun h base hpair => absurd hpair (h base)

def connectionRow (objectId uid rowId : String) : EntityRow :=
  ⟨⟨⟨"switch", objectId⟩, entityUniqueId uid .switch, domain, some "entry"⟩, rowId, none, false⟩

def successorOffice : Registries where
  rows := [connectionRow "office" "a" "row", connectionRow "office_2" "b" "second"]
  devices := []
  entityIds_nodup := by decide +kernel
  uniqueKeys_nodup := by decide +kernel
  rowIds_nodup := by decide +kernel
  deviceIds_nodup := List.nodup_nil
  disjoint := by simp

theorem successorOffice_not_healed : ∃ (R : Registries) (polled : Dict String Json),
    ¬ HealsPairs R (repairEntityIdsBeforePlatformSetup memoryCalls sortedOrder "entry"
      (some (settingUp {} polled)) R).2 "entry" polled.keys := by
  have hpair : EligiblePair successorOffice "entry" (office "b").keys ⟨"switch", "office"⟩ := by
    refine ⟨⟨connectionRow "office" "a" "row", ?_, rfl, "a", ?_, ?_⟩,
      connectionRow "office_2" "b" "second", ?_, ?_, "b", ?_, ?_⟩
    all_goals decide +kernel
  exact ⟨successorOffice, office "b", not_healed memoryCalls sortedOrder {} hpair⟩

end FritzboxVpn.SetupRepair
