import FritzboxVpn.RepairPasses
import FritzboxVpn.RepairPlans

namespace FritzboxVpn.SuffixSafety

open EntityIds EntityRepairs HomeAssistant RegistryRows RepairPasses RepairPlans

structure TookBase (R : Registries) (entryId : String) (r : EntityRow) (base : EntityId) (r' : EntityRow) :
    Prop where
  ofEntry : r.configEntryId = some entryId
  numbered : Numbered base r.entityId
  free : R.Free base
  moved : r' = moved r base

def changedRows (R R' : Registries) : List EntityRow := R.rows.filter fun r => r ∉ R'.rows

/-- A repair that loses nothing: it is the same row before and after where the
ids of the two rows are the same. -/
structure NonDestructive (R R' : Registries) (entryId : String) (count : Nat) : Prop where
  kept : ∀ r ∈ R.rows, ∃ r' ∈ R'.rows, r'.id = r.id ∧ r'.uniqueId = r.uniqueId
  added : ∀ r' ∈ R'.rows, ∃ r ∈ R.rows, r'.id = r.id
  changed : ∀ r ∈ changedRows R R', ∀ r' ∈ R'.rows, r'.id = r.id → ∃ base, TookBase R entryId r base r'
  once : ∀ r ∈ changedRows R R', ∀ f ∈ changedRows R R',
    entityIdBase r.entityId = entityIdBase f.entityId → r = f
  distinct : (R'.rows.map fun r => r.entityId).Nodup
  counted : count = (changedRows R R').length

theorem mem_changedRows {R R' : Registries} {r : EntityRow} :
    r ∈ changedRows R R' ↔ r ∈ R.rows ∧ r ∉ R'.rows := by
  simp [changedRows]

section Done

variable {R R' : Registries} {entryId : String} {done : List (EntityRow × EntityId)}
  (hp : Placed R R' (fun _ => False) fun r e => (r, e) ∈ done)

include hp

theorem after_of_row {r r' : EntityRow} (hr : r ∈ R.rows) (hr' : r' ∈ R'.rows) (hid : r'.id = r.id) :
    r' = r ∨ ∃ base, (r, base) ∈ done ∧ r' = moved r base := by
  obtain ⟨y, hy, -, hcase⟩ := (hp.rows r').mp hr'
  have hyr : y = r := by
    refine List.inj_on_of_nodup_map R.rowIds_nodup hy hr ?_
    rcases hcase with ⟨e, -, rfl⟩ | ⟨-, rfl⟩ <;> exact hid
  subst hyr
  exact hcase.symm.imp And.right fun h => h

variable (hplan : ∀ p ∈ done, p ∈ suffixRenames R entryId)

include hplan

theorem changed_iff {r : EntityRow} : r ∈ changedRows R R' ↔ ∃ base, (r, base) ∈ done := by
  rw [mem_changedRows]
  constructor
  · rintro ⟨hr, hnot⟩
    by_contra hdone
    exact hnot ((hp.rows r).mpr ⟨r, hr, not_false, Or.inr ⟨not_exists.mp hdone, rfl⟩⟩)
  · rintro ⟨base, hdone⟩
    have hr := (suffixRename_spec (hplan _ hdone)).1
    refine ⟨hr, fun hr' => ?_⟩
    obtain ⟨y, hy, -, ⟨e, hmove, he⟩ | ⟨hnot, rfl⟩⟩ := (hp.rows r).mp hr'
    · -- a row at the id of `r` would have gone there although it was taken
      exact (suffixRename_spec (hplan _ hmove)).2.2.2 r hr (by rw [he, moved_entityId])
    · exact hnot base hdone

theorem nonDestructive_of_done (hfirsts : (done.map Prod.fst).Nodup)
    (hbases : (done.map Prod.snd).Nodup) : NonDestructive R R' entryId done.length where
  kept := by
    intro r hr
    by_cases hdone : ∃ base, (r, base) ∈ done
    · obtain ⟨base, hdone⟩ := hdone
      exact ⟨moved r base, (hp.rows _).mpr ⟨r, hr, not_false, Or.inl ⟨base, hdone, rfl⟩⟩, rfl, rfl⟩
    · exact ⟨r, (hp.rows r).mpr ⟨r, hr, not_false, Or.inr ⟨not_exists.mp hdone, rfl⟩⟩, rfl, rfl⟩
  added := by
    intro r' hr'
    obtain ⟨r, hr, -, ⟨e, -, rfl⟩ | ⟨-, rfl⟩⟩ := (hp.rows r').mp hr'
    · exact ⟨r, hr, rfl⟩
    · exact ⟨_, hr, rfl⟩
  changed := by
    intro r hr r' hr' hid
    obtain ⟨hrow, hnot⟩ := mem_changedRows.mp hr
    rcases after_of_row hp hrow hr' hid with rfl | ⟨base, hdone, rfl⟩
    · exact absurd hr' hnot
    · obtain ⟨-, hof, hbase, hfree⟩ := suffixRename_spec (hplan _ hdone)
      exact ⟨base, hof, numbered_of_base hbase, hfree, rfl⟩
  once := by
    intro r hr f hf he
    obtain ⟨base, hdone⟩ := (changed_iff hp hplan).mp hr
    obtain ⟨base', hdone'⟩ := (changed_iff hp hplan).mp hf
    rw [(suffixRename_spec (hplan _ hdone)).2.2.1, (suffixRename_spec (hplan _ hdone')).2.2.1,
      Option.some.injEq] at he
    subst he
    exact congrArg Prod.fst (List.inj_on_of_nodup_map hbases hdone hdone' rfl)
  distinct := R'.entityIds_nodup
  counted := by
    have hperm : (done.map Prod.fst).Perm (changedRows R R') := by
      refine (List.perm_ext_iff_of_nodup hfirsts (List.Nodup.filter _ (rows_nodup R))).mpr fun r => ?_
      refine Iff.trans ?_ (changed_iff hp hplan).symm
      rw [List.mem_map]
      constructor
      · rintro ⟨⟨r, base⟩, hdone, rfl⟩
        exact ⟨base, hdone⟩
      · rintro ⟨base, hdone⟩
        exact ⟨(r, base), hdone, rfl⟩
    rw [← hperm.length_eq, List.length_map]

end Done

/-- The automatic suffix repair loses nothing, whichever renames fail. -/
theorem repairEntityIdSuffixes_nonDestructive {σ : Type} (calls : RegistryCalls σ) (entryId : String)
    (s : σ) : NonDestructive (calls.view s) (calls.view (repairEntityIdSuffixes calls entryId false s).2)
      entryId (repairEntityIdSuffixes calls entryId false s).1.1 := by
  have hfirsts := suffixRenames_rows_nodup (calls.view s) entryId
  have hbases := suffixRenames_bases_nodup (calls.view s) entryId
  obtain ⟨done, hsub, hlen, hp⟩ := renameAll_done (suffixRenames (calls.view s) entryId)
    hfirsts s fun p hp => (suffixRename_spec hp).1
  obtain ⟨hrun, hcount⟩ := repairEntityIdSuffixes_eq entryId s
  rw [hrun, hcount, hlen]
  exact nonDestructive_of_done hp (fun p hdone => hsub.subset hdone)
    (hfirsts.sublist (hsub.map Prod.fst)) (hbases.sublist (hsub.map Prod.snd))

end FritzboxVpn.SuffixSafety
