import FritzboxVpn.RepairConvergence

namespace FritzboxVpn.Migration

open Constants EntityIds EntityRepairs HomeAssistant RegistryRows RepairConvergence RepairMoves
  RepairPasses RepairPlans UniqueIdCodec

variable {σ : Type} (calls : RegistryCalls σ)

def asyncMigrateEntry (slugify : String → String) (entryId : String) (version : Nat) (s : σ) :
    Bool × Nat × σ :=
  if version < 2 then (true, 2, (repairLegacyEntityObjectIds calls slugify entryId s).2)
  else (true, version, s)

variable (slugify : String → String) (entryId : String)

/-- The row is where it belongs, or is not the migration's to move. -/
def Settled (R : Registries) (r : EntityRow) : Prop :=
  expectedEntityIdForRegistryEntry slugify R r = some r.entityId ∨
    expectedEntityIdForRegistryEntry slugify R r = none ∨ r.configEntryId ≠ some entryId

/-- Every row of the entry has its expected id, or a settled row holds that. -/
def Complete (R : Registries) : Prop :=
  ∀ r ∈ R.asyncEntriesForConfigEntry entryId, ∀ target,
    expectedEntityIdForRegistryEntry slugify R r = some target →
      r.entityId = target ∨ ∃ q ∈ R.rows, q ≠ r ∧ q.entityId = target ∧ Settled slugify entryId R q

def NoneInTheWay (R : Registries) : Prop :=
  ∀ r ∈ R.asyncEntriesForConfigEntry entryId, ∀ q ∈ R.rows, q ≠ r →
    expectedEntityIdForRegistryEntry slugify R r = some q.entityId → Settled slugify entryId R q

variable {calls slugify entryId}

theorem expected_moved {R R' : Registries} {gone : EntityRow → Prop} {moves : EntityRow → EntityId → Prop}
    (hp : Placed R R' gone moves) {r : EntityRow} {e : EntityId} (hdomain : e.domain = r.entityId.domain) :
    expectedEntityIdForRegistryEntry slugify R' (moved r e) = expectedEntityIdForRegistryEntry slugify R r := by
  refine Option.ext fun target => ?_
  rw [expectedEntityId_iff, expectedEntityId_iff]
  simp only [hp.devices, moved_entityId, hdomain]
  exact Iff.rfl

section Migrated

variable {S : Start} {R' : Registries} (hp : Placed S.registries R' (fun _ => False) S.LegacyMove)

theorem stays_of_settled {q : EntityRow} (h : Settled S.slugify S.entryId S.registries q) :
    S.AfterLegacy q q.entityId := by
  refine Or.inr ⟨fun e hmove => ?_, rfl⟩
  obtain ⟨hrow, hexpected, hne, -⟩ := hmove.spec
  rcases h with h | h | h
  · exact hne (Option.some.inj (h.symm.trans hexpected))
  · rw [h] at hexpected
    cases hexpected
  · exact h (Registries.mem_entriesForConfigEntry.mp hrow).2

include hp

theorem expected_after {r : EntityRow} {e : EntityId} (he : S.AfterLegacy r e) :
    expectedEntityIdForRegistryEntry S.slugify R' (moved r e) =
      expectedEntityIdForRegistryEntry S.slugify S.registries r := expected_moved hp he.domain

/-- What a row in the way was to leave stays as the plan found it. -/
theorem noneInTheWay_of_complete (h : Complete S.slugify S.entryId R') :
    NoneInTheWay S.slugify S.entryId S.registries := by
  intro r hr q hq hne hexpected
  have hrow := (Registries.mem_entriesForConfigEntry.mp hr).1
  have hstays : S.AfterLegacy r r.entityId := Or.inr ⟨fun e hmove => by
    obtain ⟨-, htarget, -, hfree⟩ := hmove.spec
    rw [hexpected, Option.some.injEq] at htarget
    exact hfree q hq htarget, rfl⟩
  have hother : r.entityId ≠ q.entityId := fun he => hne (Registries.eq_of_entityId hq hrow he.symm)
  have hafter := (Start.mem_entries_afterLegacy hp).mpr ⟨r, hr, r.entityId, hstays, rfl⟩
  obtain ⟨x, hx, -, hid, hsettled⟩ := (h _ hafter q.entityId
    ((expected_after hp hstays).trans hexpected)).resolve_left hother
  obtain ⟨p, hpr, e, he, rfl⟩ := (Start.mem_rows_afterLegacy hp).mp hx
  obtain rfl : e = q.entityId := hid
  rcases he with hmove | ⟨hnot, heq⟩
  · exact absurd rfl (hmove.spec.2.2.2 q hq)
  · obtain rfl := Registries.eq_of_entityId hq hpr heq
    rw [Settled, expected_after hp (Or.inr ⟨hnot, rfl⟩)] at hsettled
    exact hsettled

theorem complete_of_noneInTheWay (h : NoneInTheWay S.slugify S.entryId S.registries) :
    Complete S.slugify S.entryId R' := by
  intro x hx target hexpected
  obtain ⟨r, hr, e, he, rfl⟩ := (Start.mem_entries_afterLegacy hp).mp hx
  rw [expected_after hp he] at hexpected
  refine or_iff_not_imp_left.mpr fun hne : e ≠ target => ?_
  by_cases hfree : S.registries.Free target
  · -- another row was the first to ask for the id
    obtain ⟨f, hf⟩ := Start.LegacyMove.exists hr hexpected hfree
    refine ⟨moved f target, (Start.mem_rows_afterLegacy hp).mpr
      ⟨f, (Registries.mem_entriesForConfigEntry.mp hf.spec.1).1, target, Or.inl hf, rfl⟩, ?_, rfl, ?_⟩
    · exact fun heq => hne (congrArg (fun y : EntityRow => y.entityId) heq).symm
    · exact Or.inl ((expected_after hp (Or.inl hf)).trans hf.spec.2.1)
  · -- the id was held when the plan was made
    rw [Registries.Free] at hfree
    push Not at hfree
    obtain ⟨q, hq, rfl⟩ := hfree
    have hqr : q ≠ r := by
      rintro rfl
      exact hne (he.unique (stays_of_settled (Or.inl hexpected)))
    have hsettled := h r hr q hq hqr hexpected
    have hstays := stays_of_settled hsettled
    refine ⟨moved q q.entityId, (Start.mem_rows_afterLegacy hp).mpr ⟨q, hq, _, hstays, rfl⟩, ?_, rfl, ?_⟩
    · exact fun heq => hne (congrArg (fun y : EntityRow => y.entityId) heq).symm
    · rw [Settled, expected_after hp hstays]
      exact hsettled

end Migrated

/-- The migration is complete exactly where no row is in the way of another when
the renames are planned. -/
theorem asyncMigrateEntry_complete_iff (w : Willing calls) (slugify : String → String) (entryId : String)
    (s : σ) (hvalid : ∀ r ∈ (calls.view s).rows, ∀ e,
      expectedEntityIdForRegistryEntry slugify (calls.view s) r = some e → calls.validEntityId e) :
    Complete slugify entryId (calls.view (asyncMigrateEntry calls slugify entryId 1 s).2.2) ↔
      NoneInTheWay slugify entryId (calls.view s) := by
  have hp := Start.legacyPass_placed (S := ⟨calls.view s, entryId, slugify, none⟩) w hvalid rfl
  exact ⟨noneInTheWay_of_complete hp, complete_of_noneInTheWay hp⟩

def connectionDevice (uid name : String) : DeviceRow :=
  ⟨⟨uid, {[domain, "entry", uid]}⟩, {"entry"}, some name, none⟩

def switchRow (objectId uid : String) : EntityRow :=
  ⟨⟨⟨"switch", objectId⟩, UidIdentity.entityUniqueId uid .switch, domain, some "entry"⟩, uid, some uid, false⟩

def renamedOffices : Registries where
  rows := [switchRow "home" "a", switchRow "office" "b"]
  devices := [connectionDevice "a" "Office", connectionDevice "b" "Cellar"]
  entityIds_nodup := by decide +kernel
  uniqueKeys_nodup := by decide +kernel
  rowIds_nodup := by decide +kernel
  deviceIds_nodup := by decide +kernel
  disjoint := by decide +kernel

/-- The second switch leaves the id of the first, which stays where it was. -/
theorem renamedOffices_not_complete : ¬ Complete underscored "entry"
    (asyncMigrateEntry memoryCalls underscored "entry" 1 renamedOffices).2.2 := by
  intro h
  obtain hid | ⟨q, hq, -, hid, -⟩ := h (switchRow "home" "a") (by decide +kernel) ⟨"switch", "office"⟩
    (by decide +kernel)
  · exact absurd hid (by decide +kernel)
  · exact absurd hid ((by decide +kernel : ∀ q ∈
      (asyncMigrateEntry memoryCalls underscored "entry" 1 renamedOffices).2.2.rows,
        q.entityId ≠ ⟨"switch", "office"⟩) q hq)

def movedOffice : Registries where
  rows := [switchRow "home" "a", switchRow "cellar" "b", switchRow "attic" "c"]
  devices := [connectionDevice "a" "Office", connectionDevice "b" "Cellar", connectionDevice "c" "Cellar"]
  entityIds_nodup := by decide +kernel
  uniqueKeys_nodup := by decide +kernel
  rowIds_nodup := by decide +kernel
  deviceIds_nodup := by decide +kernel
  disjoint := by decide +kernel

theorem movedOffice_complete : Complete underscored "entry"
    (asyncMigrateEntry memoryCalls underscored "entry" 1 movedOffice).2.2 := by
  refine (asyncMigrateEntry_complete_iff memoryCalls_willing underscored "entry" movedOffice
    fun _ _ _ _ => trivial).mpr fun r hr q hq hne he => ?_
  have hheld : ∀ r ∈ movedOffice.asyncEntriesForConfigEntry "entry", ∀ q ∈ movedOffice.rows, q ≠ r →
      expectedEntityIdForRegistryEntry underscored movedOffice r = some q.entityId →
        expectedEntityIdForRegistryEntry underscored movedOffice q = some q.entityId := by
    decide +kernel
  exact Or.inl (hheld r hr q hq hne he)

end FritzboxVpn.Migration
