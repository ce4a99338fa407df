import FritzboxVpn.FailedReplacements
import FritzboxVpn.MergeSafety

namespace FritzboxVpn.FailedRepairs

open Constants Coordinator EmptyDevices EntityIds EntityRepairs Exceptions FailedReplacements HomeAssistant
  MergeSafety RegistryRows RepairPasses RepairPlans Replacements SetupRepair UniqueIdCodec

variable {σ : Type} {calls : RegistryCalls σ} {F : Failures} {R R₁ R' : Registries}

section Devices

variable {α : Type} {find : Registries → α → Option DeviceRow} {a : α} {as : List α} {d : DeviceRow}
  {s s₁ : σ} (hfound : find (calls.view s) a = some d)

include hfound

theorem removeEmptyDevices_found {removed : Bool} (hrun : removeIfEmpty calls d s = (.ok removed, s₁)) :
    (removeEmptyDevices calls find (a :: as) s).2 = (removeEmptyDevices calls find as s₁).2 := by
  rw [removeEmptyDevices, hfound]
  simp only [hrun]
  cases removeEmptyDevices calls find as s₁ with
  | mk result s₂ =>
      cases result with
      | error err => rfl
      | ok n => rfl

theorem removeEmptyDevices_raised {err : PyError} (hrun : removeIfEmpty calls d s = (.error err, s₁)) :
    (removeEmptyDevices calls find (a :: as) s).2 = s₁ := by
  rw [removeEmptyDevices, hfound]
  simp only [hrun]

end Devices

/-- The devices that go are empty ones whose removal does not raise, and one that
is named first goes. -/
theorem removeEmptyDevices_without (f : Failing calls F) {α : Type}
    (find : Registries → α → Option DeviceRow) (Named : α → DeviceRow → Prop)
    (hfind : ∀ R a d, find R a = some d ↔ d ∈ R.devices ∧ Named a d) (as : List α) (s : σ) :
    ∃ gone : DeviceRow → Prop,
      Without (calls.view s) (calls.view (removeEmptyDevices calls find as s).2) gone ∧
        (∀ d, gone d → Emptied (calls.view s) (fun d => ∃ a ∈ as, Named a d) d ∧
          F.removeDevice d.id = false) ∧
        ∀ a rest d, as = a :: rest → Named a d →
          Emptied (calls.view s) (fun d => ∃ a ∈ as, Named a d) d → F.removeDevice d.id = false → gone d := by
  induction as generalizing s with
  | nil =>
      refine ⟨fun _ => False, Without.of_none fun _ _ => not_false, fun d hd => hd.elim, ?_⟩
      intro a rest d hcons
      cases hcons
  | cons a as ih =>
      have hmore : ∀ d, Emptied (calls.view s) (fun d => ∃ a ∈ as, Named a d) d →
          Emptied (calls.view s) (fun d => ∃ b ∈ a :: as, Named b d) d := fun d hd =>
        ⟨hd.device, (List.exists_mem_cons_iff ..).mpr (Or.inr hd.named), hd.disabled⟩
      cases ha : find (calls.view s) a with
      | none =>
          obtain ⟨gone, hwithout, hgone, -⟩ := ih s
          rw [removeEmptyDevices, ha]
          refine ⟨gone, hwithout, fun d hd => ⟨hmore d (hgone d hd).1, (hgone d hd).2⟩, ?_⟩
          intro b rest d hcons hname hd
          cases hcons
          rw [(hfind _ a d).mpr ⟨hd.device, hname⟩] at ha
          cases ha
      | some d =>
          obtain ⟨hd, hname⟩ := (hfind _ a d).mp ha
          have hfirst : ∀ b rest e, a :: as = b :: rest → Named b e → e ∈ (calls.view s).devices → e = d := by
            intro b rest e hcons hnamee he
            cases hcons
            rw [(hfind _ a e).mpr ⟨he, hnamee⟩, Option.some.injEq] at ha
            exact ha
          by_cases hempty : ((calls.view s).asyncEntriesForDevice d.id).isEmpty = true
          · have hemptied : Emptied (calls.view s) (fun e => ∃ b ∈ a :: as, Named b e) d :=
              ⟨hd, ⟨a, List.mem_cons_self, hname⟩, noneEnabled_iff.mp hempty⟩
            cases hfails : F.removeDevice d.id with
            | true =>
                obtain ⟨err, s₁, hs₁⟩ := f.device_raises d.id s hfails
                have hview := calls.device_error _ _ _ _ hs₁
                refine ⟨fun _ => False, ?_, fun e he => he.elim, ?_⟩
                · rw [removeEmptyDevices_raised ha (by rw [removeIfEmpty, if_pos hempty, hs₁]), hview]
                  exact Without.of_none fun _ _ => not_false
                · intro b rest e hcons hnamee he hallowed
                  rw [hfirst b rest e hcons hnamee he.device, hfails] at hallowed
                  cases hallowed
            | false =>
                obtain ⟨s₁, hs₁⟩ := f.removeDevice d.id s hfails ⟨d, hd, rfl⟩
                have hremoved := calls.device_ok _ _ _ hs₁
                obtain ⟨gone, hwithout, hgone, -⟩ := ih s₁
                refine ⟨fun e => e = d ∨ gone e, ?_, ?_, fun b rest e hcons hnamee he _ =>
                  Or.inl (hfirst b rest e hcons hnamee he.device)⟩
                · rw [removeEmptyDevices_found ha (by rw [removeIfEmpty, if_pos hempty, hs₁])]
                  exact hwithout.step hd hremoved
                · rintro e (rfl | he)
                  · exact ⟨hemptied, hfails⟩
                  · refine ⟨(emptied_step hemptied (fun e' he' => ?_) hremoved e).mpr (Or.inr (hgone e he).1),
                      (hgone e he).2⟩
                    rw [List.exists_mem_cons_iff]
                    exact or_congr_left ⟨fun hn => hfirst a as e' rfl hn he', fun h => h ▸ hname⟩
          · obtain ⟨gone, hwithout, hgone, -⟩ := ih s
            refine ⟨gone, ?_, fun e he => ⟨hmore e (hgone e he).1, (hgone e he).2⟩, ?_⟩
            · rw [removeEmptyDevices_found ha (by rw [removeIfEmpty, if_neg hempty])]
              exact hwithout
            · intro b rest e hcons hnamee he
              rw [hfirst b rest e hcons hnamee he.device] at he
              exact absurd (noneEnabled_iff.mpr he.disabled) hempty

def OfOrphan (entryId : String) (m : EntityRow × EntityRow × EntityId) (d : DeviceRow) : Prop :=
  ∃ uid, connectionUidFromEntityUniqueId m.1.uniqueId = some uid ∧ [domain, entryId, uid] ∈ d.identifiers

structure MergesLoseNothing (R R' : Registries) (entryId : String)
    (plan : List (EntityRow × EntityRow × EntityId)) : Prop where
  pairs : ∀ m ∈ plan, AllOrNothing R' m.1 m.2.1 m.2.2
  devices : ∀ d ∈ R.devices, d ∉ R'.devices →
    ∃ m ∈ plan, Replaced R' m.1 m.2.1 m.2.2 ∧ OfOrphan entryId m d

structure LooksEmpty (F : Failures) (R : Registries) (entryId : String)
    (plan : List (EntityRow × EntityRow × EntityId)) (d : DeviceRow) : Prop where
  device : d ∈ R.devices
  ofOrphan : ∃ m ∈ plan, OfOrphan entryId m d
  leftOver : ∀ r ∈ R.rows, r.deviceId = some d.id → r.disabled = true ∨
    ∃ m ∈ plan, F.remove m.2.2 = false ∧ r = m.1

/-- What fails, fails before anything is done; and a device goes only with an
orphan that was merged, and without a row of any pair. -/
structure MergesIntact (F : Failures) (R : Registries) (entryId : String)
    (plan : List (EntityRow × EntityRow × EntityId)) : Prop where
  whole : ∀ m ∈ plan, F.remove m.2.2 = false → F.rename m.2.1.entityId m.2.2 = false
  merged : ∀ d, LooksEmpty F R entryId plan d → F.removeDevice d.id = false →
    ∃ m ∈ plan, F.remove m.2.2 = false ∧ OfOrphan entryId m d
  kept : ∀ d, LooksEmpty F R entryId plan d → F.removeDevice d.id = false → ∀ m ∈ plan,
    F.remove m.2.2 = true → m.1.deviceId ≠ some d.id ∧ m.2.1.deviceId ≠ some d.id
  taken : ∀ d, LooksEmpty F R entryId plan d → F.removeDevice d.id = false → ∀ m ∈ plan,
    F.remove m.2.2 = false → ¬ GoesWith d m.2.1

section Without

variable {gone : DeviceRow → Prop} (h : Without R₁ R' gone)

include h

theorem without_origin {x : EntityRow} (hx : x ∈ R'.rows) : ∃ r ∈ R₁.rows, r.id = x.id ∧
    r.entityId = x.entityId ∧ ∀ d ∈ R₁.devices, gone d → ¬ GoesWith d r ∧ x.deviceId ≠ some d.id := by
  obtain ⟨r, hr, hgo, ⟨-, rfl⟩ | ⟨hoff, rfl⟩⟩ := (h.rows x).mp hx
  · exact ⟨r, hr, rfl, rfl, fun d hd hgone => ⟨hgo d hd hgone, fun hon => by cases hon⟩⟩
  · exact ⟨x, hr, rfl, rfl, fun d hd hgone => ⟨hgo d hd hgone, hoff d hd hgone⟩⟩

theorem without_at {r : EntityRow} {e : EntityId} (hat : At R' r e) : At R₁ r e := by
  obtain ⟨x, hx, hid, hentity⟩ := hat
  obtain ⟨y, hy, hyid, hyentity, -⟩ := without_origin h hx
  exact ⟨y, hy, hyid.trans hid, hyentity.trans hentity⟩

theorem without_kept {r : EntityRow} (hr : r ∈ R₁.rows)
    (hoff : ∀ d ∈ R₁.devices, gone d → r.deviceId ≠ some d.id) : r ∈ R'.rows :=
  (h.rows r).mpr ⟨r, hr, fun d hd hgone hgo => hoff d hd hgone hgo.1, Or.inr ⟨hoff, rfl⟩⟩

theorem without_stays {r : EntityRow} (hr : r ∈ R₁.rows)
    (hgo : ∀ d ∈ R₁.devices, gone d → ¬ GoesWith d r) : At R' r r.entityId := by
  by_cases hon : ∃ d ∈ R₁.devices, gone d ∧ r.deviceId = some d.id
  · exact ⟨off r, (h.rows _).mpr ⟨r, hr, hgo, Or.inl ⟨hon, rfl⟩⟩, rfl, rfl⟩
  · push Not at hon
    exact ⟨r, without_kept h hr hon, rfl, rfl⟩

theorem without_replaced {b live : EntityRow} {base : EntityId} (hreplaced : Replaced R₁ b live base)
    (hmoved : moved live base ∈ R₁.rows) (hgo : ∀ d ∈ R₁.devices, gone d → ¬ GoesWith d live) :
    Replaced R' b live base := by
  refine ⟨fun x hx => ?_, ?_⟩
  · obtain ⟨y, hy, hid, -⟩ := without_origin h hx
    exact hid ▸ hreplaced.removed y hy
  · obtain ⟨x, hx, hid, hentity⟩ := without_stays h hmoved hgo
    exact ⟨x, hx, hid, hentity⟩

/-- A pair that was left alone is not replaced by the device pass. -/
theorem not_replaced_of_untouched {b live : EntityRow} {base : EntityId} (hne : base ≠ live.entityId)
    (huntouched : Untouched R₁ b live) : ¬ Replaced R' b live base := by
  intro hreplaced
  obtain ⟨x, hx, hid, hentity⟩ := without_at h hreplaced.takes
  rw [List.inj_on_of_nodup_map R₁.rowIds_nodup hx huntouched.suffixed hid] at hentity
  exact hne hentity.symm

end Without

def firstOrder (uid : String) : IterationOrder where
  toList s := if uid ∈ s then uid :: sortedOrder.toList (s.erase uid) else sortedOrder.toList s
  nodup s := by
    split
    · exact List.nodup_cons.mpr ⟨fun h => Finset.notMem_erase uid s (mem_toList.mp h), sortedOrder.nodup _⟩
    · exact sortedOrder.nodup s
  toFinset s := by
    split
    next h => rw [List.toFinset_cons, sortedOrder.toFinset, Finset.insert_erase h]
    next => exact sortedOrder.toFinset s

section MergePass

variable {merges : List (EntityRow × EntityRow × EntityId)} {entryId : String}

structure Pairs (R : Registries) (valid : EntityId → Prop)
    (merges : List (EntityRow × EntityRow × EntityId)) : Prop where
  bases : (merges.map fun m => m.2.2).Nodup
  orphans : ∀ m ∈ merges, m.1 ∈ R.rows
  lives : ∀ m ∈ merges, m.2.1 ∈ R.rows
  holds : ∀ m ∈ merges, m.1.entityId = m.2.2
  shorter : ∀ m ∈ merges, entityIdBase m.2.1.entityId = some m.2.2
  apart : ∀ m ∈ merges, ∀ m' ∈ merges, m.1 ≠ m'.2.1
  valid : ∀ m ∈ merges, valid m.2.2

variable {valid : EntityId → Prop} (hpairs : Pairs R valid merges)

include hpairs

theorem Pairs.planned : Planned R valid (merges.map replacement) where
  bases := by
    rw [List.map_map]
    exact hpairs.bases
  rows := List.forall_mem_map.mpr hpairs.lives
  shorter := List.forall_mem_map.mpr hpairs.shorter
  held := List.forall_mem_map.mpr fun m hm _ => ⟨m.1, hpairs.orphans m hm, hpairs.holds m hm⟩
  free := List.forall_mem_map.mpr fun m _ h => by cases h
  valid := List.forall_mem_map.mpr hpairs.valid

theorem Pairs.intact (hwhole : ∀ m ∈ merges, F.remove m.2.2 = false → F.rename m.2.1.entityId m.2.2 = false) :
    Intact F (merges.map replacement) where
  whole := List.forall_mem_map.mpr fun m hm _ => hwhole m hm
  chains := by
    refine List.forall_mem_map.mpr fun m hm => List.forall_mem_map.mpr fun m' hm' _ he => ?_
    refine absurd (Registries.eq_of_entityId (hpairs.orphans m' hm') (hpairs.lives m hm) ?_)
      (hpairs.apart m' hm' m hm)
    exact (hpairs.holds m' hm').trans he

theorem Pairs.takenOut_iff {r : EntityRow} (hr : r ∈ R.rows) :
    TakenOut F (merges.map replacement) r ↔ ∃ m ∈ merges, F.remove m.2.2 = false ∧ r = m.1 := by
  rw [takenOut_merges]
  refine exists_congr fun m => and_congr_right fun hm => and_congr_right fun _ => ?_
  rw [← hpairs.holds m hm]
  exact ⟨fun he => Registries.eq_of_entityId hr (hpairs.orphans m hm) he, fun he => he ▸ rfl⟩

variable (hplaced : Placed R R₁ (TakenOut F (merges.map replacement)) (TakesBase F (merges.map replacement)))

include hplaced

theorem Pairs.looksEmpty_iff {uids : List String}
    (huids : ∀ uid, uid ∈ uids ↔ ∃ m ∈ merges, connectionUidFromEntityUniqueId m.1.uniqueId = some uid)
    {d : DeviceRow} : Emptied R₁ (fun d => ∃ uid ∈ uids, [domain, entryId, uid] ∈ d.identifiers) d ↔
      LooksEmpty F R entryId merges d := by
  have hnamed : (∃ uid ∈ uids, [domain, entryId, uid] ∈ d.identifiers) ↔
      ∃ m ∈ merges, OfOrphan entryId m d := by
    constructor
    · rintro ⟨uid, huid, hid⟩
      obtain ⟨m, hm, huid⟩ := (huids uid).mp huid
      exact ⟨m, hm, uid, huid, hid⟩
    · rintro ⟨m, hm, uid, huid, hid⟩
      exact ⟨uid, (huids uid).mpr ⟨m, hm, huid⟩, hid⟩
  constructor
  · rintro ⟨hd, hname, hdis⟩
    refine ⟨(hplaced.devices d).mp hd, hnamed.mp hname, fun r hr hon => ?_⟩
    rw [← hpairs.takenOut_iff hr, or_iff_not_imp_right]
    intro hstays
    by_cases hmove : ∃ e, TakesBase F (merges.map replacement) r e
    · obtain ⟨e, hmove⟩ := hmove
      exact hdis (moved r e) ((hplaced.rows _).mpr ⟨r, hr, hstays, Or.inl ⟨e, hmove, rfl⟩⟩) hon
    · exact hdis r ((hplaced.rows r).mpr ⟨r, hr, hstays, Or.inr ⟨not_exists.mp hmove, rfl⟩⟩) hon
  · rintro ⟨hd, hname, hleft⟩
    refine ⟨(hplaced.devices d).mpr hd, hnamed.mpr hname, fun x hx hon => ?_⟩
    obtain ⟨r, hr, hstays, hcase⟩ := (hplaced.rows x).mp hx
    rw [hpairs.takenOut_iff hr] at hstays
    rcases hcase with ⟨e, -, rfl⟩ | ⟨-, rfl⟩
    · exact (hleft r hr hon).resolve_right hstays
    · exact (hleft x hr hon).resolve_right hstays

theorem Pairs.outcome
    (hwhole : ∀ m ∈ merges, F.remove m.2.2 = false → F.rename m.2.1.entityId m.2.2 = false)
    {m : EntityRow × EntityRow × EntityId} (hm : m ∈ merges) :
    (F.remove m.2.2 = false ∧ Replaced R₁ m.1 m.2.1 m.2.2 ∧ moved m.2.1 m.2.2 ∈ R₁.rows) ∨
      (F.remove m.2.2 = true ∧ Untouched R₁ m.1 m.2.1) := by
  have hmem := List.mem_map_of_mem (f := replacement) hm
  rcases allOrNothing_of_placed hpairs.planned (hpairs.intact hwhole) hplaced hmem rfl (hpairs.orphans m hm)
    (hpairs.holds m hm) with ⟨hdone, hreplaced⟩ | ⟨hidle, huntouched⟩
  · rw [idle_replacement, Bool.not_eq_true] at hdone
    refine Or.inl ⟨hdone, hreplaced, (hplaced.rows _).mpr ⟨m.2.1, hpairs.lives m hm, ?_, ?_⟩⟩
    · rw [hpairs.takenOut_iff (hpairs.lives m hm)]
      rintro ⟨m', hm', -, he⟩
      exact hpairs.apart m' hm' m hm he.symm
    · exact Or.inl ⟨m.2.2, takesBase_merges.mpr ⟨m, hm, hdone, rfl, rfl⟩, rfl⟩
  · exact Or.inr ⟨idle_replacement.mp hidle, huntouched⟩

end MergePass

theorem firstOrder_toList {uid : String} {s : Finset String} (h : uid ∈ s) :
    (firstOrder uid).toList s = uid :: sortedOrder.toList (s.erase uid) := if_pos h

section MergePass

variable {merges : List (EntityRow × EntityRow × EntityId)} {entryId : String} {s : σ}

def mergePass (calls : RegistryCalls σ) (order : IterationOrder) (entryId : String)
    (merges : List (EntityRow × EntityRow × EntityId)) (s : σ) : σ :=
  (removeEmptyDevices calls (connectionDevice entryId)
    (order.toList (mergeAll calls merges ∅ s).2.1) (mergeAll calls merges ∅ s).2.2).2

theorem repairOrphanBaseSuffixMerges_state (order : IterationOrder) (entry : Option LiveEntry)
    (passed : Option (Finset String)) :
    (repairOrphanBaseSuffixMerges calls order entryId entry passed s).2 =
      mergePass calls order entryId (getOrphanBaseSuffixMerges (calls.view s) entryId entry passed) s := by
  rw [repairOrphanBaseSuffixMerges, mergePass]
  cases getOrphanBaseSuffixMerges (calls.view s) entryId entry passed with
  | nil =>
      have hempty : order.toList ∅ = [] := List.toFinset_eq_empty_iff _ |>.mp (order.toFinset ∅)
      simp only [List.isEmpty_nil, if_true, mergeAll, hempty, removeEmptyDevices]
  | cons m merges =>
      simp only [List.isEmpty_cons, Bool.false_eq_true, if_false]
      cases removeEmptyDevices calls (connectionDevice entryId)
          (order.toList (mergeAll calls (m :: merges) ∅ s).2.1) (mergeAll calls (m :: merges) ∅ s).2.2 with
      | mk result s' =>
          cases result with
          | error err => rfl
          | ok n => rfl

variable (f : Failing calls F) (hpairs : Pairs (calls.view s) calls.validEntityId merges)

include f hpairs

/-- The merges of a plan, and which devices may go behind them. -/
theorem mergePass_spec (entryId : String) (order : IterationOrder) : ∃ (R₁ : Registries) (gone : DeviceRow → Prop),
    R₁ = calls.view (replaceAll calls (merges.map replacement) s).2 ∧
      Without R₁ (calls.view (mergePass calls order entryId merges s)) gone ∧
        (Placed (calls.view s) R₁ (TakenOut F (merges.map replacement))
            (TakesBase F (merges.map replacement)) →
          (∀ d, gone d → LooksEmpty F (calls.view s) entryId merges d ∧ F.removeDevice d.id = false) ∧
            ∀ uid d, (∃ m ∈ merges, connectionUidFromEntityUniqueId m.1.uniqueId = some uid) →
              order = firstOrder uid → [domain, entryId, uid] ∈ d.identifiers →
                LooksEmpty F (calls.view s) entryId merges d → F.removeDevice d.id = false → gone d) := by
  have huids : ∀ uid, uid ∈ order.toList (mergeAll calls merges ∅ s).2.1 ↔
      ∃ m ∈ merges, connectionUidFromEntityUniqueId m.1.uniqueId = some uid := fun uid => by
    rw [mem_toList, mergeAll_uids, or_iff_right (Finset.notMem_empty uid)]
  obtain ⟨gone, hwithout, hgone, hfirst⟩ := removeEmptyDevices_without f (connectionDevice entryId)
    (fun uid d => [domain, entryId, uid] ∈ d.identifiers) (fun R uid d => Registries.asyncGetDevice_iff)
    (order.toList (mergeAll calls merges ∅ s).2.1) (mergeAll calls merges ∅ s).2.2
  have hview : (mergeAll calls merges ∅ s).2.2 = (replaceAll calls (merges.map replacement) s).2 :=
    mergeAll_view merges hpairs.holds ∅ s
  refine ⟨_, gone, rfl, hview ▸ hwithout, fun hplaced => ?_⟩
  rw [← hview] at hplaced
  have hlooks : ∀ d, Emptied _ _ d ↔ LooksEmpty F (calls.view s) entryId merges d := fun d =>
    hpairs.looksEmpty_iff hplaced huids
  refine ⟨fun d hd => ⟨(hlooks d).mp (hgone d hd).1, (hgone d hd).2⟩, ?_⟩
  rintro uid d huid rfl hname hlook hallowed
  refine hfirst uid _ d (firstOrder_toList ?_) hname ((hlooks d).mpr hlook) hallowed
  exact mem_toList.mp ((huids uid).mpr huid)

theorem whole_of_loseNothing {order : IterationOrder} (h : MergesLoseNothing (calls.view s)
    (calls.view (mergePass calls order entryId merges s)) entryId merges) :
    ∀ m ∈ merges, F.remove m.2.2 = false → F.rename m.2.1.entityId m.2.2 = false := by
  intro m hm hremove
  have hmem := List.mem_map_of_mem (f := replacement) hm
  obtain ⟨R₁, gone, rfl, hwithout, -⟩ := mergePass_spec f hpairs entryId order
  rcases h.pairs m hm with hreplaced | huntouched
  · exact allowed_of_takes f hpairs.planned hmem (without_at hwithout hreplaced.takes)
  · have hraised : F.remove m.2.2 = true := raised_of_kept f hpairs.planned hmem rfl (hpairs.orphans m hm)
      (hpairs.holds m hm) (without_at hwithout ⟨m.1, huntouched.base, rfl, rfl⟩)
    rw [hremove] at hraised
    cases hraised

theorem mergesIntact_of_loseNothing (h : ∀ order, MergesLoseNothing (calls.view s)
    (calls.view (mergePass calls order entryId merges s)) entryId merges) :
    MergesIntact F (calls.view s) entryId merges := by
  have hwhole := whole_of_loseNothing f hpairs (h sortedOrder)
  have hplaced := replaceAll_placed_of_intact f hpairs.planned (hpairs.intact hwhole)
  have hne : ∀ m ∈ merges, m.2.2 ≠ m.2.1.entityId := fun m hm => entityIdBase_ne (hpairs.shorter m hm)
  have hgoes : ∀ d, LooksEmpty F (calls.view s) entryId merges d → F.removeDevice d.id = false →
      ∃ order gone, Without (calls.view (replaceAll calls (merges.map replacement) s).2)
        (calls.view (mergePass calls order entryId merges s)) gone ∧ gone d := by
    intro d hlook hallowed
    obtain ⟨m, hm, uid, huid, hname⟩ := hlook.ofOrphan
    obtain ⟨R₁, gone, rfl, hwithout, hgone⟩ := mergePass_spec f hpairs entryId (firstOrder uid)
    exact ⟨_, gone, hwithout, (hgone hplaced).2 uid d ⟨m, hm, huid⟩ rfl hname hlook hallowed⟩
  refine ⟨hwhole, fun d hlook hallowed => ?_, fun d hlook hallowed m hm hremove => ?_,
    fun d hlook hallowed m hm hremove => ?_⟩
  all_goals obtain ⟨order, gone, hwithout, hgone⟩ := hgoes d hlook hallowed
  · obtain ⟨m, hm, hreplaced, hname⟩ := (h order).devices d hlook.device fun hd =>
      ((hwithout.devices d).mp hd).2 hgone
    rcases hpairs.outcome hplaced hwhole hm with ⟨hremove, -⟩ | ⟨-, huntouched⟩
    · exact ⟨m, hm, hremove, hname⟩
    · exact absurd hreplaced (not_replaced_of_untouched hwithout (hne m hm) huntouched)
  · have hd := (hplaced.devices d).mpr hlook.device
    rcases hpairs.outcome hplaced hwhole hm with ⟨hno, -⟩ | ⟨-, huntouched⟩
    · rw [hremove] at hno
      cases hno
    · have hend := ((h order).pairs m hm).resolve_left
        (not_replaced_of_untouched hwithout (hne m hm) huntouched)
      obtain ⟨_, _, _, _, hbase⟩ := without_origin hwithout hend.base
      obtain ⟨_, _, _, _, hsuffixed⟩ := without_origin hwithout hend.suffixed
      exact ⟨(hbase d hd hgone).2, (hsuffixed d hd hgone).2⟩
  · rcases hpairs.outcome hplaced hwhole hm with ⟨-, hreplaced, hmoved⟩ | ⟨hyes, -⟩
    · have hend : At (calls.view (mergePass calls order entryId merges s)) m.2.1 m.2.2 := by
        rcases (h order).pairs m hm with hend | hend
        · exact hend.takes
        · obtain ⟨y, hy, hid, -⟩ := without_origin hwithout hend.base
          exact absurd hid (hreplaced.removed y hy)
      obtain ⟨x, hx, hid, -⟩ := hend
      obtain ⟨y, hy, hyid, -, hother⟩ := without_origin hwithout hx
      obtain rfl := List.inj_on_of_nodup_map (Registries.rowIds_nodup _) hy hmoved (hyid.trans hid)
      exact (hother d ((hplaced.devices d).mpr hlook.device) hgone).1
    · rw [hremove] at hyes
      cases hyes

theorem loseNothing_of_mergesIntact (hintact : MergesIntact F (calls.view s) entryId merges)
    (order : IterationOrder) : MergesLoseNothing (calls.view s)
      (calls.view (mergePass calls order entryId merges s)) entryId merges := by
  have hplaced := replaceAll_placed_of_intact f hpairs.planned (hpairs.intact hintact.whole)
  obtain ⟨R₁, gone, rfl, hwithout, hgone⟩ := mergePass_spec f hpairs entryId order
  have hgone := (hgone hplaced).1
  have hreplaced : ∀ m ∈ merges, F.remove m.2.2 = false →
      Replaced (calls.view (mergePass calls order entryId merges s)) m.1 m.2.1 m.2.2 := by
    intro m hm hremove
    rcases hpairs.outcome hplaced hintact.whole hm with ⟨-, hreplaced, hmoved⟩ | ⟨hyes, -⟩
    · exact without_replaced hwithout hreplaced hmoved fun d _ hd =>
        hintact.taken d (hgone d hd).1 (hgone d hd).2 m hm hremove
    · rw [hremove] at hyes
      cases hyes
  refine ⟨fun m hm => ?_, fun d hd hnot => ?_⟩
  · rcases hpairs.outcome hplaced hintact.whole hm with ⟨hremove, -⟩ | ⟨hremove, huntouched⟩
    · exact Or.inl (hreplaced m hm hremove)
    · have hoff := fun d hd => hintact.kept d (hgone d hd).1 (hgone d hd).2 m hm hremove
      exact Or.inr ⟨without_kept hwithout huntouched.base fun d _ hd => (hoff d hd).1,
        without_kept hwithout huntouched.suffixed fun d _ hd => (hoff d hd).2⟩
  · have hdgone : gone d := by
      by_contra hn
      exact hnot ((hwithout.devices d).mpr ⟨(hplaced.devices d).mpr hd, hn⟩)
    obtain ⟨m, hm, hremove, hname⟩ := hintact.merged d (hgone d hdgone).1 (hgone d hdgone).2
    exact ⟨m, hm, hreplaced m hm hremove, hname⟩

end MergePass

inductive ReplacingRepair
  | orphanBaseMerges (entry : Option LiveEntry) (currentUids : Option (Finset String))
  | suffixes

structure SuffixesLoseNothing (R R' : Registries) (plan : List (EntityRow × EntityId × Bool)) : Prop where
  pairs : ∀ p ∈ plan, p.2.2 = true → ∀ b ∈ R.rows, b.entityId = p.2.1 → AllOrNothing R' b p.1 p.2.1
  devices : ∀ d ∈ R.devices, d ∈ R'.devices

namespace ReplacingRepair

def LosesNothing (calls : RegistryCalls σ) (entryId : String) (s : σ) : ReplacingRepair → Prop
  | .orphanBaseMerges entry currentUids => ∀ order, MergesLoseNothing (calls.view s)
      (calls.view (repairOrphanBaseSuffixMerges calls order entryId entry currentUids s).2) entryId
      (getOrphanBaseSuffixMerges (calls.view s) entryId entry currentUids)
  | .suffixes => SuffixesLoseNothing (calls.view s)
      (calls.view (repairEntityIdSuffixes calls entryId true s).2)
      (getEntityIdSuffixRepairs (calls.view s) entryId true)

def Safe (F : Failures) (R : Registries) (entryId : String) : ReplacingRepair → Prop
  | .orphanBaseMerges entry currentUids =>
      MergesIntact F R entryId (getOrphanBaseSuffixMerges R entryId entry currentUids)
  | .suffixes => Intact F (getEntityIdSuffixRepairs R entryId true)

end ReplacingRepair

theorem merges_pairs {valid : EntityId → Prop} (hvalid : ∀ r ∈ R.rows, valid r.entityId) (entryId : String)
    (entry : Option LiveEntry) (currentUids : Option (Finset String)) :
    Pairs R valid (getOrphanBaseSuffixMerges R entryId entry currentUids) := by
  obtain ⟨entry', hplan⟩ : ∃ entry', getOrphanBaseSuffixMerges R entryId entry currentUids =
      getOrphanBaseSuffixMerges R entryId entry' none := by
    cases currentUids with
    | none => exact ⟨entry, rfl⟩
    | some uids =>
        obtain ⟨entry', -, hplan⟩ := merges_of_uids (show mergeUids none (some uids) = .ok uids from rfl)
        exact ⟨entry', hplan⟩
  rw [hplan]
  have hpair := fun m (hm : m ∈ getOrphanBaseSuffixMerges R entryId entry' none) => (merge_spec hm).1
  have horphan := fun m hm => (Registries.mem_entriesForConfigEntry.mp (hpair m hm).orphanRow).1
  exact ⟨merges_nodup R entryId entry', horphan,
    fun m hm => (Registries.mem_entriesForConfigEntry.mp (hpair m hm).liveRow).1,
    fun m hm => (hpair m hm).holds, fun m hm => (hpair m hm).suffixed,
    fun m hm m' hm' he => (hpair m hm).orphaned.not_listed (he ▸ (hpair m' hm').listed),
    fun m hm => (hpair m hm).holds ▸ hvalid m.1 (horphan m hm)⟩

theorem suffixes_planned {valid : EntityId → Prop} (hvalid : ∀ r ∈ R.rows, valid r.entityId)
    (hbase : ∀ e base, valid e → entityIdBase e = some base → valid base) (entryId : String) :
    Planned R valid (getEntityIdSuffixRepairs R entryId true) where
  bases := suffixRepairs_bases_nodup R entryId true
  rows _ hp := (suffixRepair_planned hp).1
  shorter _ hp := (suffixRepair_planned hp).2.1
  held _ hp := (suffixRepair_planned hp).2.2.1
  free _ hp := (suffixRepair_planned hp).2.2.2
  valid p hp := hbase _ _ (hvalid p.1 (suffixRepair_planned hp).1) (suffixRepair_planned hp).2.1

/-- A failed replacement loses nothing exactly where no call can raise halfway,
and nothing that is done reaches the rows of another pair. -/
theorem replacingRepair_losesNothing_iff (f : Failing calls F) (repair : ReplacingRepair) (entryId : String)
    (s : σ) (hvalid : ∀ r ∈ (calls.view s).rows, calls.validEntityId r.entityId)
    (hbase : ∀ e base, calls.validEntityId e → entityIdBase e = some base → calls.validEntityId base) :
    repair.LosesNothing calls entryId s ↔ repair.Safe F (calls.view s) entryId := by
  cases repair with
  | orphanBaseMerges entry currentUids =>
      have hpairs := merges_pairs hvalid entryId entry currentUids
      rw [ReplacingRepair.LosesNothing, ReplacingRepair.Safe]
      simp only [repairOrphanBaseSuffixMerges_state]
      exact ⟨mergesIntact_of_loseNothing f hpairs, loseNothing_of_mergesIntact f hpairs⟩
  | suffixes =>
      have hplanned := suffixes_planned hvalid hbase entryId
      have hrun : (repairEntityIdSuffixes calls entryId true s).2 =
          (replaceAll calls (getEntityIdSuffixRepairs (calls.view s) entryId true) s).2 := rfl
      rw [ReplacingRepair.LosesNothing, ReplacingRepair.Safe, hrun]
      constructor
      · exact fun h => (replaceAll_allOrNothing_iff f hplanned).mp h.pairs
      · intro hintact
        refine ⟨(replaceAll_allOrNothing_iff f hplanned).mpr hintact, fun d hd => ?_⟩
        exact ((replaceAll_placed_of_intact f hplanned hintact).devices d).mpr hd

def refusing (F : Failures) : RegistryCalls Registries where
  view := id
  asyncUpdateEntity old new R :=
    if F.rename old new then (.error (otherError "Refused"), R) else memoryCalls.asyncUpdateEntity old new R
  asyncRemove e R := if F.remove e then (.error (otherError "Refused"), R) else memoryCalls.asyncRemove e R
  asyncRemoveDevice deviceId R :=
    if F.removeDevice deviceId then (.error (otherError "Refused"), R)
    else memoryCalls.asyncRemoveDevice deviceId R
  validEntityId := memoryCalls.validEntityId
  update_ok := by
    intro old new R R' h
    split at h
    · cases h
    · exact memoryCalls.update_ok old new R R' h
  update_error := by
    intro old new R e R' h
    split at h
    · cases h
      rfl
    · exact memoryCalls.update_error old new R e R' h
  remove_ok := by
    intro e R R' h
    split at h
    · cases h
    · exact memoryCalls.remove_ok e R R' h
  remove_error := by
    intro e R err R' h
    split at h
    · cases h
      rfl
    · exact memoryCalls.remove_error e R err R' h
  device_ok := by
    intro deviceId R R' h
    split at h
    · cases h
    · exact memoryCalls.device_ok deviceId R R' h
  device_error := by
    intro deviceId R e R' h
    split at h
    · cases h
      rfl
    · exact memoryCalls.device_error deviceId R e R' h

theorem refusing_failing (F : Failures) : Failing (refusing F) F where
  remove_raises _ R h := ⟨_, R, if_pos h⟩
  rename_raises _ _ R h := ⟨_, R, if_pos h⟩
  device_raises _ R h := ⟨_, R, if_pos h⟩
  remove e R h hrow := by
    obtain ⟨R', hok⟩ := memoryCalls_willing.remove e R hrow
    exact ⟨R', (if_neg (Bool.eq_false_iff.mp h)).trans hok⟩
  rename old new R h hrow hfree hdomain hvalid := by
    obtain ⟨R', hok⟩ := memoryCalls_willing.update old new R hrow hfree hdomain hvalid
    exact ⟨R', (if_neg (Bool.eq_false_iff.mp h)).trans hok⟩
  removeDevice deviceId R h hdevice := by
    obtain ⟨R', hok⟩ := memoryCalls_willing.removeDevice deviceId R hdevice
    exact ⟨R', (if_neg (Bool.eq_false_iff.mp h)).trans hok⟩

def noRenames : Failures := ⟨fun _ => false, fun _ _ => true, fun _ => false⟩

/-- The orphan is removed, and the successor cannot take its id. -/
theorem successorOffice_loses : ∃ (F : Failures) (R : Registries) (repair : ReplacingRepair),
    ¬ repair.LosesNothing (refusing F) "entry" R := by
  refine ⟨noRenames, successorOffice, .orphanBaseMerges none (some {"b"}), fun h => ?_⟩
  have hpair := (h sortedOrder).pairs
    (connectionRow "office" "a" "row", connectionRow "office_2" "b" "second", ⟨"switch", "office"⟩)
    (by decide +kernel)
  have hrows : (connectionRow "office" "a" "row" ∈ (repairOrphanBaseSuffixMerges (refusing noRenames) sortedOrder
      "entry" none (some {"b"}) successorOffice).2.rows) ∨
    ∃ x ∈ (repairOrphanBaseSuffixMerges (refusing noRenames) sortedOrder "entry" none (some {"b"})
      successorOffice).2.rows, x.id = "second" ∧ x.entityId = ⟨"switch", "office"⟩ :=
    hpair.symm.imp Untouched.base Replaced.takes
  revert hrows
  decide +kernel

theorem successorOffice_losesNothing_iff :
    (ReplacingRepair.orphanBaseMerges none (some {"b"})).LosesNothing (refusing noRenames) "entry"
        successorOffice ↔
      (ReplacingRepair.orphanBaseMerges none (some {"b"})).Safe noRenames successorOffice "entry" :=
  replacingRepair_losesNothing_iff (refusing_failing noRenames) _ "entry" successorOffice
    (fun _ _ => trivial) fun _ _ _ _ => trivial

end FritzboxVpn.FailedRepairs
