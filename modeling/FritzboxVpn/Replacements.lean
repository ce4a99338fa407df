import FritzboxVpn.RepairPasses

namespace FritzboxVpn.Replacements

open Constants Coordinator EmptyDevices EntityIds EntityRepairs Exceptions HomeAssistant RegistryRows
  RepairPasses RepairPlans UniqueIdCodec

/-- Which registry calls raise although nothing in the registries is in their
way. A pass makes no call twice with the same arguments. -/
structure Failures where
  remove : EntityId → Bool
  rename : EntityId → EntityId → Bool
  removeDevice : String → Bool

def noFailures : Failures := ⟨fun _ => false, fun _ _ => false, fun _ => false⟩

structure Failing {σ : Type} (calls : RegistryCalls σ) (F : Failures) : Prop where
  remove_raises : ∀ e s, F.remove e = true → ∃ err s', calls.asyncRemove e s = (.error err, s')
  rename_raises : ∀ old new s, F.rename old new = true →
    ∃ err s', calls.asyncUpdateEntity old new s = (.error err, s')
  device_raises : ∀ deviceId s, F.removeDevice deviceId = true →
    ∃ err s', calls.asyncRemoveDevice deviceId s = (.error err, s')
  remove : ∀ e s, F.remove e = false → (∃ r ∈ (calls.view s).rows, r.entityId = e) →
    ∃ s', calls.asyncRemove e s = (.ok (), s')
  rename : ∀ old new s, F.rename old new = false → (∃ r ∈ (calls.view s).rows, r.entityId = old) →
    (calls.view s).Free new → old.domain = new.domain → calls.validEntityId new →
      ∃ s', calls.asyncUpdateEntity old new s = (.ok (), s')
  removeDevice : ∀ deviceId s, F.removeDevice deviceId = false →
    (∃ d ∈ (calls.view s).devices, d.id = deviceId) →
      ∃ s', calls.asyncRemoveDevice deviceId s = (.ok (), s')

variable {σ : Type} {calls : RegistryCalls σ} {F : Failures}

theorem failing_of_willing (w : Willing calls) : Failing calls noFailures where
  remove_raises _ _ h := by cases h
  rename_raises _ _ _ h := by cases h
  device_raises _ _ h := by cases h
  remove e s _ := w.remove e s
  rename old new s _ := w.update old new s
  removeDevice deviceId s _ := w.removeDevice deviceId s

def Idle (F : Failures) (p : EntityRow × EntityId × Bool) : Prop :=
  (p.2.2 = true ∧ F.remove p.2.1 = true) ∨ (p.2.2 = false ∧ F.rename p.1.entityId p.2.1 = true)

structure Planned (R : Registries) (valid : EntityId → Prop) (plan : List (EntityRow × EntityId × Bool)) :
    Prop where
  bases : (plan.map fun p => p.2.1).Nodup
  rows : ∀ p ∈ plan, p.1 ∈ R.rows
  shorter : ∀ p ∈ plan, entityIdBase p.1.entityId = some p.2.1
  held : ∀ p ∈ plan, p.2.2 = true → ∃ b ∈ R.rows, b.entityId = p.2.1
  free : ∀ p ∈ plan, p.2.2 = false → R.Free p.2.1
  valid : ∀ p ∈ plan, valid p.2.1

theorem Planned.eq_of_base {R : Registries} {valid : EntityId → Prop}
    {plan : List (EntityRow × EntityId × Bool)} (h : Planned R valid plan)
    {p q : EntityRow × EntityId × Bool} (hp : p ∈ plan) (hq : q ∈ plan) (he : p.2.1 = q.2.1) : p = q :=
  List.inj_on_of_nodup_map h.bases hp hq he

theorem Planned.eq_of_row {R : Registries} {valid : EntityId → Prop}
    {plan : List (EntityRow × EntityId × Bool)} (h : Planned R valid plan)
    {p q : EntityRow × EntityId × Bool} (hp : p ∈ plan) (hq : q ∈ plan) (he : p.1 = q.1) : p = q := by
  have hbase := h.shorter p hp
  rw [he, h.shorter q hq, Option.some.injEq] at hbase
  exact h.eq_of_base hp hq hbase.symm

/-- Each replacement that is made can be made, and none is in the way of another. -/
def Unhindered (F : Failures) (plan : List (EntityRow × EntityId × Bool)) : Prop :=
  ∀ p ∈ plan, ¬ Idle F p → F.rename p.1.entityId p.2.1 = false ∧
    ∀ q ∈ plan, ¬ Idle F q → q.2.2 = true → q.2.1 ≠ p.1.entityId

def TakenOut (F : Failures) (plan : List (EntityRow × EntityId × Bool)) (r : EntityRow) : Prop :=
  ∃ p ∈ plan, ¬ Idle F p ∧ p.2.2 = true ∧ r.entityId = p.2.1

def TakesBase (F : Failures) (plan : List (EntityRow × EntityId × Bool)) (r : EntityRow) (e : EntityId) :
    Prop := ∃ p ∈ plan, ¬ Idle F p ∧ r = p.1 ∧ e = p.2.1

section Loop

variable {p : EntityRow × EntityId × Bool}

theorem replaceAll_cons_idle (f : Failing calls F) (h : Idle F p)
    (plan : List (EntityRow × EntityId × Bool)) (s : σ) : ∃ s₁,
    calls.view s₁ = calls.view s ∧ (replaceAll calls (p :: plan) s).2 = (replaceAll calls plan s₁).2 := by
  obtain ⟨row, base, flag⟩ := p
  rw [replaceAll]
  rcases h with ⟨rfl, h⟩ | ⟨rfl, h⟩
  · obtain ⟨err, s₁, hs₁⟩ := f.remove_raises base s h
    exact ⟨s₁, calls.remove_error _ _ _ _ hs₁, by simp only [if_true, hs₁]⟩
  · obtain ⟨err, s₁, hs₁⟩ := f.rename_raises row.entityId base s h
    refine ⟨s₁, calls.update_error _ _ _ _ _ hs₁, ?_⟩
    simp only [Bool.false_eq_true, if_false, hs₁]

theorem replaceAll_cons_done (f : Failing calls F) (plan : List (EntityRow × EntityId × Bool))
    (hidle : ¬ Idle F p) (hrename : F.rename p.1.entityId p.2.1 = false)
    (hover : entityIdBase p.1.entityId = some p.2.1) (hvalid : calls.validEntityId p.2.1) (s : σ)
    (hrow : p.1 ∈ (calls.view s).rows)
    (hheld : p.2.2 = true → ∃ b ∈ (calls.view s).rows, b.entityId = p.2.1)
    (hfree : p.2.2 = false → (calls.view s).Free p.2.1) : ∃ s₂,
      (replaceAll calls (p :: plan) s).2 = (replaceAll calls plan s₂).2 ∧
        (∀ x, x ∈ (calls.view s₂).rows ↔ x = moved p.1 p.2.1 ∨
          (x ∈ (calls.view s).rows ∧ x.entityId ≠ p.2.1 ∧ x ≠ p.1)) ∧
        ∀ d, d ∈ (calls.view s₂).devices ↔ d ∈ (calls.view s).devices := by
  obtain ⟨row, base, flag⟩ := p
  simp only at hrename hover hvalid hrow hheld hfree
  have hdomain := (entityIdBase_domain hover).symm
  rw [replaceAll]
  cases flag with
  | true =>
      have hremove : F.remove base = false := by
        by_contra h
        exact hidle (Or.inl ⟨rfl, Bool.not_eq_false _ ▸ h⟩)
      obtain ⟨s₁, hs₁⟩ := f.remove base s hremove (hheld rfl)
      have hrem := calls.remove_ok _ _ _ hs₁
      have hrow₁ := (hrem.rows row).mpr ⟨hrow, (entityIdBase_ne hover).symm⟩
      obtain ⟨s₂, hs₂⟩ := f.rename row.entityId base s₁ hrename ⟨row, hrow₁, rfl⟩
        (fun x hx => ((hrem.rows x).mp hx).2) hdomain hvalid
      have hren := calls.update_ok _ _ _ _ hs₂
      refine ⟨s₂, by simp only [if_true, hs₁, hs₂], fun x => ?_, fun d => ?_⟩
      · rw [renamed_rows hrow₁ hren, hrem.rows, and_assoc]
      · rw [hren.devices, hrem.devices]
  | false =>
      obtain ⟨s₂, hs₂⟩ := f.rename row.entityId base s hrename ⟨row, hrow, rfl⟩ (hfree rfl) hdomain hvalid
      have hren := calls.update_ok _ _ _ _ hs₂
      refine ⟨s₂, by simp only [Bool.false_eq_true, if_false, hs₂], fun x => ?_, hren.devices⟩
      rw [renamed_rows hrow hren]
      exact or_congr_right (and_congr_right fun hx => (and_iff_right (hfree rfl x hx)).symm)

structure Ready (R : Registries) (p : EntityRow × EntityId × Bool) : Prop where
  row : p.1 ∈ R.rows
  held : p.2.2 = true → ∃ b ∈ R.rows, b.entityId = p.2.1
  free : p.2.2 = false → R.Free p.2.1

/-- A replacement leaves the others ready. -/
theorem Ready.step {R R₂ : Registries} {q : EntityRow × EntityId × Bool} (h : Ready R q)
    (hrows₂ : ∀ x, x ∈ R₂.rows ↔ x = moved p.1 p.2.1 ∨ (x ∈ R.rows ∧ x.entityId ≠ p.2.1 ∧ x ≠ p.1))
    (hbase : q.2.1 ≠ p.2.1) (hrow : q.1 ≠ p.1) (hstays : q.1.entityId ≠ p.2.1)
    (hother : q.2.2 = true → q.2.1 ≠ p.1.entityId) : Ready R₂ q where
  row := (hrows₂ _).mpr (Or.inr ⟨h.row, hstays, hrow⟩)
  held hflag := by
    obtain ⟨b, hb, hid⟩ := h.held hflag
    refine ⟨b, (hrows₂ b).mpr (Or.inr ⟨hb, fun he => hbase (hid.symm.trans he), ?_⟩), hid⟩
    rintro rfl
    exact hother hflag hid.symm
  free hflag x hx := by
    rcases (hrows₂ x).mp hx with rfl | ⟨hx, -⟩
    · exact hbase.symm
    · exact h.free hflag x hx

/-- Replacements that do not hinder one another do all that they are to do. -/
theorem replaceAll_placed (f : Failing calls F) (plan : List (EntityRow × EntityId × Bool))
    (hbases : (plan.map fun p => p.2.1).Nodup) (hover : ∀ p ∈ plan, entityIdBase p.1.entityId = some p.2.1)
    (hvalid : ∀ p ∈ plan, calls.validEntityId p.2.1) (hunhindered : Unhindered F plan) (s : σ)
    (hready : ∀ p ∈ plan, ¬ Idle F p → Ready (calls.view s) p) :
    Placed (calls.view s) (calls.view (replaceAll calls plan s).2) (TakenOut F plan) (TakesBase F plan) := by
  induction plan generalizing s with
  | nil => exact (Placed.refl _).congr (fun _ _ => by simp [TakenOut]) fun _ _ _ => by simp [TakesBase]
  | cons p plan ih =>
      rw [List.map_cons, List.nodup_cons] at hbases
      have hof : ∀ q ∈ plan, q ∈ p :: plan := fun q hq => List.mem_cons_of_mem p hq
      have ih := ih hbases.2 (fun q hq => hover q (hof q hq)) (fun q hq => hvalid q (hof q hq))
        fun q hq hdone => ⟨(hunhindered q (hof q hq) hdone).1, fun q' hq' =>
          (hunhindered q (hof q hq) hdone).2 q' (hof q' hq')⟩
      have hp := List.mem_cons_self (a := p) (l := plan)
      have htaken : ∀ r, TakenOut F (p :: plan) r ↔
          (¬ Idle F p ∧ p.2.2 = true ∧ r.entityId = p.2.1) ∨ TakenOut F plan r := fun r =>
        List.exists_mem_cons_iff ..
      have htakes : ∀ r e, TakesBase F (p :: plan) r e ↔
          (¬ Idle F p ∧ r = p.1 ∧ e = p.2.1) ∨ TakesBase F plan r e := fun r e =>
        List.exists_mem_cons_iff ..
      by_cases hidle : Idle F p
      · obtain ⟨s₁, hview, hrun⟩ := replaceAll_cons_idle f hidle plan s
        have hrest := ih s₁ fun q hq hdone => hview ▸ hready q (hof q hq) hdone
        rw [hview] at hrest
        rw [hrun]
        refine hrest.congr (fun r _ => ?_) fun r _ e => ?_
        · rw [htaken, or_iff_right fun h => h.1 hidle]
        · rw [htakes, or_iff_right fun h => h.1 hidle]
      · have hpready := hready p hp hidle
        obtain ⟨hrename, hapart⟩ := hunhindered p hp hidle
        obtain ⟨s₂, hrun, hrows₂, hdevices⟩ := replaceAll_cons_done f plan hidle hrename
          (hover p hp) (hvalid p hp) s hpready.row hpready.held hpready.free
        have hbase : ∀ q ∈ plan, q.2.1 ≠ p.2.1 := fun q hq he =>
          hbases.1 (List.mem_map.mpr ⟨q, hq, he⟩)
        have hrow : ∀ q ∈ plan, q.1 ≠ p.1 := by
          intro q hq he
          have hsame := hover q (hof q hq)
          rw [he, hover p hp, Option.some.injEq] at hsame
          exact hbase q hq hsame.symm
        have hstays : ∀ q ∈ plan, ¬ Idle F q → q.1.entityId ≠ p.2.1 := by
          intro q hq hdone he
          cases hflag : p.2.2 with
          | true => exact (hunhindered q (hof q hq) hdone).2 p hp hidle hflag he.symm
          | false => exact hpready.free hflag _ (hready q (hof q hq) hdone).row he
        have hrest := ih s₂ fun q hq hdone => (hready q (hof q hq) hdone).step hrows₂ (hbase q hq)
          (hrow q hq) (hstays q hq hdone) (hapart q (hof q hq) hdone)
        have hwhole : Placed (calls.view s) (calls.view (replaceAll calls plan s₂).2)
            (fun r => (p.2.2 = true ∧ r.entityId = p.2.1) ∨ TakenOut F plan r)
            fun r e => (r = p.1 ∧ e = p.2.1) ∨ TakesBase F plan r e := by
          refine Placed.replace hpready.row ?_ (fun x => ?_) hdevices ⟨?_, ?_⟩ (fun e => ⟨?_, ?_⟩) hrest
          · exact fun h => entityIdBase_ne (hover p hp) h.2.symm
          · rw [hrows₂]
            refine or_congr_right (and_congr_right fun hx => and_congr_left fun _ => not_congr ?_)
            refine ⟨fun he => ⟨?_, he⟩, And.right⟩
            by_contra hflag
            exact hpready.free (Bool.eq_false_iff.mpr hflag) x hx he
          · rintro ⟨q, hq, hdone, hflag, he⟩
            exact hapart q (hof q hq) hdone hflag he.symm
          · rintro ⟨q, hq, -, -, he⟩
            exact hbase q hq he.symm
          · rintro ⟨q, hq, -, he, -⟩
            exact hrow q hq he.symm
          · rintro ⟨q, hq, hdone, he, -⟩
            exact hstays q hq hdone (he ▸ moved_entityId p.1 p.2.1)
        rw [hrun]
        refine hwhole.congr (fun r _ => ?_) fun r _ e => ?_
        · rw [htaken, and_iff_right hidle]
        · rw [htakes, and_iff_right hidle]

def replacement (m : EntityRow × EntityRow × EntityId) : EntityRow × EntityId × Bool := (m.2.1, m.2.2, true)

theorem idle_replacement {m : EntityRow × EntityRow × EntityId} :
    Idle F (replacement m) ↔ F.remove m.2.2 = true := by
  simp [Idle, replacement]

theorem takenOut_merges {plan : List (EntityRow × EntityRow × EntityId)} {r : EntityRow} :
    TakenOut F (plan.map replacement) r ↔ ∃ m ∈ plan, F.remove m.2.2 = false ∧ r.entityId = m.2.2 := by
  rw [TakenOut]
  simp only [List.mem_map, exists_exists_and_eq_and]
  refine exists_congr fun m => and_congr_right fun _ => ?_
  rw [idle_replacement, Bool.not_eq_true]
  exact and_congr_right fun _ => and_iff_right rfl

theorem takesBase_merges {plan : List (EntityRow × EntityRow × EntityId)} {r : EntityRow} {e : EntityId} :
    TakesBase F (plan.map replacement) r e ↔
      ∃ m ∈ plan, F.remove m.2.2 = false ∧ r = m.2.1 ∧ e = m.2.2 := by
  rw [TakesBase]
  simp only [List.mem_map, exists_exists_and_eq_and]
  refine exists_congr fun m => and_congr_right fun _ => ?_
  rw [idle_replacement, Bool.not_eq_true]
  rfl

theorem mergeAll_view (plan : List (EntityRow × EntityRow × EntityId))
    (hholds : ∀ m ∈ plan, m.1.entityId = m.2.2) (uids : Finset String) (s : σ) :
    (mergeAll calls plan uids s).2.2 =
      (replaceAll calls (plan.map replacement) s).2 := by
  induction plan generalizing uids s with
  | nil => rfl
  | cons m plan ih =>
      obtain ⟨orphan, live, base⟩ := m
      obtain rfl : orphan.entityId = base := hholds _ List.mem_cons_self
      have ih := ih fun m hm => hholds m (List.mem_cons_of_mem _ hm)
      rw [mergeAll, List.map_cons, replacement, replaceAll]
      simp only [if_true]
      cases calls.asyncRemove orphan.entityId s with
      | mk result s₁ =>
          cases result with
          | error err => exact ih _ s₁
          | ok _ =>
              simp only
              cases calls.asyncUpdateEntity live.entityId orphan.entityId s₁ with
              | mk result s₂ =>
                  cases result with
                  | error err => exact ih _ s₂
                  | ok _ => exact ih _ s₂

end Loop

theorem mergeAll_uids (plan : List (EntityRow × EntityRow × EntityId)) (uids : Finset String) (s : σ)
    (uid : String) : uid ∈ (mergeAll calls plan uids s).2.1 ↔
      uid ∈ uids ∨ ∃ m ∈ plan, connectionUidFromEntityUniqueId m.1.uniqueId = some uid := by
  induction plan generalizing uids s with
  | nil => simp [mergeAll]
  | cons m plan ih =>
      obtain ⟨orphan, live, base⟩ := m
      have hstep : ∀ added s', (uid ∈ added ↔
          uid ∈ uids ∨ connectionUidFromEntityUniqueId orphan.uniqueId = some uid) →
          (uid ∈ (mergeAll calls plan added s').2.1 ↔
            uid ∈ uids ∨ ∃ m ∈ (orphan, live, base) :: plan,
              connectionUidFromEntityUniqueId m.1.uniqueId = some uid) := by
        intro added s' hadded
        rw [ih, List.exists_mem_cons_iff, hadded, or_assoc]
      rw [mergeAll]
      rcases calls.asyncRemove orphan.entityId s with ⟨err | _, s₁⟩
      · apply hstep _ s₁
        cases connectionUidFromEntityUniqueId orphan.uniqueId <;> simp [or_comm, eq_comm]
      · simp only
        rcases calls.asyncUpdateEntity live.entityId base s₁ with ⟨err | _, s₂⟩
        · apply hstep _ s₂
          cases connectionUidFromEntityUniqueId orphan.uniqueId <;> simp [or_comm, eq_comm]
        · apply hstep _ s₂
          cases connectionUidFromEntityUniqueId orphan.uniqueId <;> simp [or_comm, eq_comm]

/-- The merges end with their report, as the device pass behind them raises nothing. -/
theorem repairOrphanBaseSuffixMerges_ok (w : Willing calls) (order : IterationOrder) (entryId : String)
    (entry : Option LiveEntry) (passed : Option (Finset String)) (s : σ) : ∃ s',
      repairOrphanBaseSuffixMerges calls order entryId entry passed s =
        (.ok ((mergeAll calls (getOrphanBaseSuffixMerges (calls.view s) entryId entry passed) ∅ s).1.length,
          (mergeAll calls (getOrphanBaseSuffixMerges (calls.view s) entryId entry passed) ∅ s).1), s') ∧
        Cleaned (calls.view (mergeAll calls
            (getOrphanBaseSuffixMerges (calls.view s) entryId entry passed) ∅ s).2.2) (calls.view s')
          fun d => ∃ uid ∈ order.toList (mergeAll calls
            (getOrphanBaseSuffixMerges (calls.view s) entryId entry passed) ∅ s).2.1,
              [domain, entryId, uid] ∈ d.identifiers := by
  cases hplan : getOrphanBaseSuffixMerges (calls.view s) entryId entry passed with
  | nil =>
      refine ⟨s, ?_, Cleaned.of_none fun d hd => ?_⟩
      · rw [repairOrphanBaseSuffixMerges, hplan]
        rfl
      · obtain ⟨uid, huid, -⟩ := hd.named
        exact absurd (mem_toList.mp huid) (Finset.notMem_empty uid)
  | cons m plan =>
      obtain ⟨n, s', hrun, hclean⟩ := removeEmptyDevices_cleaned w (connectionDevice entryId)
        (fun uid d => [domain, entryId, uid] ∈ d.identifiers)
        (fun R uid d => Registries.asyncGetDevice_iff)
        (order.toList (mergeAll calls (m :: plan) ∅ s).2.1) (mergeAll calls (m :: plan) ∅ s).2.2
      refine ⟨s', ?_, hclean⟩
      simp only [repairOrphanBaseSuffixMerges, hplan, List.isEmpty_cons, Bool.false_eq_true, if_false, hrun]

/-- The merges of a plan, each over a base of its own. -/
theorem mergeAll_placed (w : Willing calls) (plan : List (EntityRow × EntityRow × EntityId))
    (hbases : (plan.map fun m => m.2.2).Nodup)
    (hpairs : ∀ m ∈ plan, m.1.entityId = m.2.2 ∧ entityIdBase m.2.1.entityId = some m.2.2)
    (hvalid : ∀ m ∈ plan, calls.validEntityId m.2.2)
    (hapart : ∀ m ∈ plan, ∀ m' ∈ plan, m.1 ≠ m'.2.1) (uids : Finset String) (s : σ)
    (hrows : ∀ m ∈ plan, m.1 ∈ (calls.view s).rows ∧ m.2.1 ∈ (calls.view s).rows) :
    Placed (calls.view s) (calls.view (mergeAll calls plan uids s).2.2) (fun r => ∃ m ∈ plan, r = m.1)
      fun r e => ∃ m ∈ plan, r = m.2.1 ∧ e = m.2.2 := by
  have hholds : ∀ m ∈ plan, m.1.entityId = m.2.2 := fun m hm => (hpairs m hm).1
  have hover : ∀ p ∈ plan.map replacement, entityIdBase p.1.entityId = some p.2.1 :=
    List.forall_mem_map.mpr fun m hm => (hpairs m hm).2
  have hbases' : ((plan.map replacement).map fun p => p.2.1).Nodup := by
    rwa [List.map_map]
  have hunhindered : Unhindered noFailures (plan.map replacement) := by
    refine List.forall_mem_map.mpr fun m hm _ => ⟨rfl, List.forall_mem_map.mpr fun m' hm' _ _ he => ?_⟩
    refine hapart m' hm' m hm (Registries.eq_of_entityId (hrows m' hm').1 (hrows m hm).2 ?_)
    exact (hholds m' hm').trans he
  have hready : ∀ p ∈ plan.map replacement, ¬ Idle noFailures p → Ready (calls.view s) p := by
    refine List.forall_mem_map.mpr fun m hm _ => ⟨(hrows m hm).2, fun _ => ?_, fun h => by cases h⟩
    exact ⟨m.1, (hrows m hm).1, hholds m hm⟩
  rw [mergeAll_view plan hholds]
  refine (replaceAll_placed (failing_of_willing w) _ hbases' hover (List.forall_mem_map.mpr hvalid)
    hunhindered s hready).congr (fun r hr => ?_) fun r _ e => ?_
  · rw [takenOut_merges]
    refine exists_congr fun m => and_congr_right fun hm => (and_iff_right rfl).trans ?_
    rw [← hholds m hm]
    exact ⟨fun he => Registries.eq_of_entityId hr (hrows m hm).1 he, fun he => he ▸ rfl⟩
  · rw [takesBase_merges]
    exact exists_congr fun m => and_congr_right fun _ => and_iff_right rfl

end FritzboxVpn.Replacements
