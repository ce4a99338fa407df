import FritzboxVpn.Replacements

namespace FritzboxVpn.FailedReplacements

open EntityIds EntityRepairs HomeAssistant RegistryRows RepairPasses RepairPlans Replacements

variable {σ : Type} {calls : RegistryCalls σ} {F : Failures}

inductive ReplaceStep (F : Failures) (p : EntityRow × EntityId × Bool) (R R₂ : Registries) : Prop
  | notRemoved (flag : p.2.2 = true) (raised : F.remove p.2.1 = false → R.Free p.2.1) (same : R₂ = R)
  | removedOnly (flag : p.2.2 = true) (removed : Removed R p.2.1 R₂)
  | replaced (flag : p.2.2 = true) (R₁ : Registries) (removed : Removed R p.2.1 R₁)
      (allowed : F.rename p.1.entityId p.2.1 = false) (renamed : Renamed R₁ p.1.entityId p.2.1 R₂)
  | notRenamed (flag : p.2.2 = false)
      (raised : F.rename p.1.entityId p.2.1 = false → R.Free p.2.1 → R.Free p.1.entityId) (same : R₂ = R)
  | renamed (flag : p.2.2 = false) (allowed : F.rename p.1.entityId p.2.1 = false)
      (renamed : Renamed R p.1.entityId p.2.1 R₂)

theorem replaceAll_step (f : Failing calls F) {p : EntityRow × EntityId × Bool}
    (plan : List (EntityRow × EntityId × Bool)) (hover : entityIdBase p.1.entityId = some p.2.1)
    (hvalid : calls.validEntityId p.2.1) (s : σ) : ∃ s₁, ReplaceStep F p (calls.view s) (calls.view s₁) ∧
      (replaceAll calls (p :: plan) s).2 = (replaceAll calls plan s₁).2 := by
  obtain ⟨row, base, flag⟩ := p
  have hallowed : ∀ s s', calls.asyncUpdateEntity row.entityId base s = (.ok (), s') →
      F.rename row.entityId base = false := by
    intro s s' hok
    by_contra h
    obtain ⟨err, s'', hraise⟩ := f.rename_raises row.entityId base s (Bool.not_eq_false _ ▸ h)
    rw [hok] at hraise
    cases hraise
  rw [replaceAll]
  cases flag with
  | true =>
      simp only [if_true]
      cases hremove : calls.asyncRemove base s with
      | mk result s₁ =>
          cases result with
          | error err =>
              refine ⟨s₁, .notRemoved rfl (fun hfail x hx he => ?_) (calls.remove_error _ _ _ _ hremove), rfl⟩
              obtain ⟨s', hok⟩ := f.remove base s hfail ⟨x, hx, he⟩
              rw [hremove] at hok
              cases hok
          | ok _ =>
              have hrem := calls.remove_ok _ _ _ hremove
              simp only
              cases hrename : calls.asyncUpdateEntity row.entityId base s₁ with
              | mk result s₂ =>
                  cases result with
                  | error err =>
                      refine ⟨s₂, .removedOnly rfl ?_, rfl⟩
                      rwa [calls.update_error _ _ _ _ _ hrename]
                  | ok _ =>
                      exact ⟨s₂, .replaced rfl _ hrem (hallowed _ _ hrename) (calls.update_ok _ _ _ _ hrename), rfl⟩
  | false =>
      simp only [Bool.false_eq_true, if_false]
      cases hrename : calls.asyncUpdateEntity row.entityId base s with
      | mk result s₁ =>
          cases result with
          | error err =>
              refine ⟨s₁, .notRenamed rfl (fun hfail hfree x hx he => ?_)
                (calls.update_error _ _ _ _ _ hrename), rfl⟩
              obtain ⟨s', hok⟩ := f.rename row.entityId base s hfail ⟨x, hx, he⟩ hfree
                (entityIdBase_domain hover).symm hvalid
              rw [hrename] at hok
              cases hok
          | ok _ => exact ⟨s₁, .renamed rfl (hallowed _ _ hrename) (calls.update_ok _ _ _ _ hrename), rfl⟩

def idLength (e : EntityId) : Nat := e.objectId.toList.length

/-- Every row was there before, at its id or at a longer one from which it went to a base. -/
def Descends (F : Failures) (plan : List (EntityRow × EntityId × Bool)) (R R' : Registries) : Prop :=
  ∀ x ∈ R'.rows, ∃ y ∈ R.rows, x = y ∨ ∃ p ∈ plan, F.rename p.1.entityId p.2.1 = false ∧
    idLength p.2.1 < idLength y.entityId ∧ x = moved y p.2.1

variable {p : EntityRow × EntityId × Bool} {plan : List (EntityRow × EntityId × Bool)} {R R₁ R₂ R' : Registries}

theorem Descends.refl (F : Failures) (plan : List (EntityRow × EntityId × Bool)) (R : Registries) :
    Descends F plan R R := fun x hx => ⟨x, hx, Or.inl rfl⟩

theorem Descends.trans (h : Descends F plan R R₁) (h₁ : Descends F plan R₁ R') : Descends F plan R R' := by
  intro x hx
  obtain ⟨y, hy, rfl | ⟨p, hp, hallowed, hlt, rfl⟩⟩ := h₁ x hx
  · exact h x hy
  · obtain ⟨z, hz, rfl | ⟨q, hq, -, hlt', rfl⟩⟩ := h y hy
    · exact ⟨y, hz, Or.inr ⟨p, hp, hallowed, hlt, rfl⟩⟩
    · exact ⟨z, hz, Or.inr ⟨p, hp, hallowed, lt_trans hlt hlt', rfl⟩⟩

theorem Descends.mono {plan' : List (EntityRow × EntityId × Bool)} (h : Descends F plan R R')
    (hsub : ∀ p ∈ plan, p ∈ plan') : Descends F plan' R R' := by
  intro x hx
  obtain ⟨y, hy, hcase⟩ := h x hx
  exact ⟨y, hy, hcase.imp_right fun ⟨p, hp, hrest⟩ => ⟨p, hsub p hp, hrest⟩⟩

theorem descends_removed {e : EntityId} (h : Removed R e R₁) : Descends F plan R R₁ := fun x hx =>
  ⟨x, ((h.rows x).mp hx).1, Or.inl rfl⟩

theorem descends_renamed (hp : p ∈ plan) (hover : entityIdBase p.1.entityId = some p.2.1)
    (hallowed : F.rename p.1.entityId p.2.1 = false) (h : Renamed R p.1.entityId p.2.1 R₁) :
    Descends F plan R R₁ := by
  intro x hx
  obtain ⟨y, hy, rfl⟩ := (h.rows x).mp hx
  refine ⟨y, hy, ?_⟩
  rw [EntityRow.renamed]
  split
  next he => exact Or.inr ⟨p, hp, hallowed, he ▸ entityIdBase_length hover, rfl⟩
  next => exact Or.inl rfl

theorem ReplaceStep.descends (h : ReplaceStep F p R R₂) (hp : p ∈ plan)
    (hover : entityIdBase p.1.entityId = some p.2.1) : Descends F plan R R₂ := by
  cases h with
  | notRemoved _ _ same => exact same ▸ Descends.refl F plan R
  | removedOnly _ removed => exact descends_removed removed
  | replaced _ R₁ removed allowed renamed =>
      exact (descends_removed removed).trans (descends_renamed hp hover allowed renamed)
  | notRenamed _ _ same => exact same ▸ Descends.refl F plan R
  | renamed _ allowed renamed => exact descends_renamed hp hover allowed renamed

/-- A row is left where it is by a replacement of other ids. -/
theorem ReplaceStep.stays (h : ReplaceStep F p R R₂) {y : EntityRow} (hy : y ∈ R.rows)
    (hrow : p.1.entityId ≠ y.entityId) (hbase : p.2.1 ≠ y.entityId) : y ∈ R₂.rows := by
  have hren : ∀ {R R₁ : Registries}, Renamed R p.1.entityId p.2.1 R₁ → y ∈ R.rows → y ∈ R₁.rows :=
    fun hren hy => (hren.rows y).mpr ⟨y, hy, (if_neg hrow.symm).symm⟩
  cases h with
  | notRemoved _ _ same => exact same ▸ hy
  | removedOnly _ removed => exact (removed.rows y).mpr ⟨hy, hbase.symm⟩
  | replaced _ R₁ removed _ renamed => exact hren renamed ((removed.rows y).mpr ⟨hy, hbase.symm⟩)
  | notRenamed _ _ same => exact same ▸ hy
  | renamed _ _ renamed => exact hren renamed hy

theorem ReplaceStep.removes (h : ReplaceStep F p R R₂) (hflag : p.2.2 = true)
    (hremove : F.remove p.2.1 = false) {b : EntityRow} (hb : b ∈ R.rows) (hid : b.entityId = p.2.1) :
    ∀ x ∈ R₂.rows, x.id ≠ b.id := by
  have hgone : ∀ {R₁ : Registries}, Removed R p.2.1 R₁ → ∀ x ∈ R₁.rows, x.id ≠ b.id := by
    intro R₁ hrem x hx he
    obtain ⟨hx, hne⟩ := (hrem.rows x).mp hx
    exact hne (List.inj_on_of_nodup_map R.rowIds_nodup hx hb he ▸ hid)
  cases h with
  | notRemoved _ raised _ => exact absurd hid (raised hremove b hb)
  | removedOnly _ removed => exact hgone removed
  | replaced _ R₁ removed _ renamed =>
      intro x hx
      obtain ⟨y, hy, rfl⟩ := (renamed.rows x).mp hx
      rw [renamed_id]
      exact hgone removed y hy
  | notRenamed flag => exact absurd (hflag.symm.trans flag) Bool.true_eq_false.mp
  | renamed flag => exact absurd (hflag.symm.trans flag) Bool.true_eq_false.mp

theorem ReplaceStep.renames (h : ReplaceStep F p R R₂) (hflag : p.2.2 = false)
    (hrename : F.rename p.1.entityId p.2.1 = false) (hfree : R.Free p.2.1) {w : EntityRow} (hw : w ∈ R.rows)
    (hid : w.entityId = p.1.entityId) : moved w p.2.1 ∈ R₂.rows := by
  cases h with
  | notRemoved flag => exact absurd (flag.symm.trans hflag) Bool.true_eq_false.mp
  | removedOnly flag => exact absurd (flag.symm.trans hflag) Bool.true_eq_false.mp
  | replaced flag => exact absurd (flag.symm.trans hflag) Bool.true_eq_false.mp
  | notRenamed _ raised _ => exact absurd hid (raised hrename hfree w hw)
  | renamed _ _ renamed => exact (renamed.rows _).mpr ⟨w, hw, (if_pos hid).symm⟩

theorem replaceAll_append (pre post : List (EntityRow × EntityId × Bool)) (s : σ) :
    (replaceAll calls (pre ++ post) s).2 = (replaceAll calls post (replaceAll calls pre s).2).2 := by
  induction pre generalizing s with
  | nil => rfl
  | cons p pre ih =>
      obtain ⟨row, base, flag⟩ := p
      rw [List.cons_append, replaceAll, replaceAll]
      cases (if flag = true then calls.asyncRemove base s else (.ok (), s)) with
      | mk result s₁ =>
          cases result with
          | error err => exact ih s₁
          | ok _ =>
              simp only
              cases calls.asyncUpdateEntity row.entityId base s₁ with
              | mk result s₂ =>
                  cases result with
                  | error err => exact ih s₂
                  | ok _ => exact ih s₂

section Run

variable (f : Failing calls F) (hover : ∀ p ∈ plan, entityIdBase p.1.entityId = some p.2.1)
  (hvalid : ∀ p ∈ plan, calls.validEntityId p.2.1)

include f hover hvalid

theorem replaceAll_descends (s : σ) :
    Descends F plan (calls.view s) (calls.view (replaceAll calls plan s).2) := by
  induction plan generalizing s with
  | nil => exact Descends.refl F [] _
  | cons p plan ih =>
      obtain ⟨s₁, hstep, hrun⟩ := replaceAll_step f plan (hover p List.mem_cons_self)
        (hvalid p List.mem_cons_self) s
      rw [hrun]
      refine (hstep.descends List.mem_cons_self (hover p List.mem_cons_self)).trans ?_
      exact (ih (fun q hq => hover q (List.mem_cons_of_mem p hq))
        (fun q hq => hvalid q (List.mem_cons_of_mem p hq)) s₁).mono fun q hq => List.mem_cons_of_mem p hq

theorem replaceAll_stays (s : σ) {y : EntityRow} (hy : y ∈ (calls.view s).rows)
    (hother : ∀ p ∈ plan, p.1.entityId ≠ y.entityId ∧ p.2.1 ≠ y.entityId) :
    y ∈ (calls.view (replaceAll calls plan s).2).rows := by
  induction plan generalizing s with
  | nil => exact hy
  | cons p plan ih =>
      obtain ⟨s₁, hstep, hrun⟩ := replaceAll_step f plan (hover p List.mem_cons_self)
        (hvalid p List.mem_cons_self) s
      obtain ⟨hrow, hbase⟩ := hother p List.mem_cons_self
      rw [hrun]
      exact ih (fun q hq => hover q (List.mem_cons_of_mem p hq))
        (fun q hq => hvalid q (List.mem_cons_of_mem p hq)) s₁ (hstep.stays hy hrow hbase)
        fun q hq => hother q (List.mem_cons_of_mem p hq)

end Run

/-- A row that is at its id at the end was there all the time. -/
theorem Descends.settled (h : Descends F plan R R₁) (h₁ : Descends F plan R₁ R') {y x : EntityRow}
    (hy : y ∈ R.rows) (hx : x ∈ R'.rows) (hid : x.id = y.id) (hentity : x.entityId = y.entityId) :
    y ∈ R₁.rows := by
  obtain ⟨z, hz, hxz⟩ := h₁ x hx
  obtain ⟨y', hy', hzy⟩ := h z hz
  have hxz' : z.id = x.id := by
    rcases hxz with rfl | ⟨p, -, -, -, rfl⟩ <;> rfl
  have hzy' : y'.id = z.id := by
    rcases hzy with rfl | ⟨p, -, -, -, rfl⟩ <;> rfl
  obtain rfl : y' = y := List.inj_on_of_nodup_map R.rowIds_nodup hy' hy (hzy'.trans (hxz'.trans hid))
  rcases hzy with rfl | ⟨p, -, -, hlt, rfl⟩
  · exact hz
  · rcases hxz with rfl | ⟨q, -, -, hlt', rfl⟩
    · rw [← hentity] at hlt
      exact absurd hlt (lt_irrefl _)
    · rw [← hentity] at hlt
      exact absurd (lt_trans hlt hlt') (lt_irrefl _)

def At (R : Registries) (r : EntityRow) (e : EntityId) : Prop := ∃ x ∈ R.rows, x.id = r.id ∧ x.entityId = e

structure SplitRun (calls : RegistryCalls σ) (F : Failures) (plan : List (EntityRow × EntityId × Bool))
    (p : EntityRow × EntityId × Bool) (s : σ) where
  pre : List (EntityRow × EntityId × Bool)
  post : List (EntityRow × EntityId × Bool)
  before : σ
  after : σ
  whole : plan = pre ++ p :: post
  before_eq : before = (replaceAll calls pre s).2
  step : ReplaceStep F p (calls.view before) (calls.view after)
  after_eq : (replaceAll calls plan s).2 = (replaceAll calls post after).2
  first : Descends F pre (calls.view s) (calls.view before)
  last : Descends F post (calls.view after) (calls.view (replaceAll calls plan s).2)

theorem splitRun (f : Failing calls F) (hover : ∀ p ∈ plan, entityIdBase p.1.entityId = some p.2.1)
    (hvalid : ∀ p ∈ plan, calls.validEntityId p.2.1) (hp : p ∈ plan) (s : σ) :
    Nonempty (SplitRun calls F plan p s) := by
  obtain ⟨pre, post, rfl⟩ := List.append_of_mem hp
  have hpre : ∀ q ∈ pre, q ∈ pre ++ p :: post := fun q hq => List.mem_append_left _ hq
  have hpost : ∀ q ∈ post, q ∈ pre ++ p :: post := fun q hq =>
    List.mem_append_right _ (List.mem_cons_of_mem p hq)
  obtain ⟨s₂, hstep, hrun⟩ := replaceAll_step f post (hover p hp) (hvalid p hp) (replaceAll calls pre s).2
  have hwhole : (replaceAll calls (pre ++ p :: post) s).2 = (replaceAll calls post s₂).2 := by
    rw [replaceAll_append, hrun]
  refine ⟨⟨pre, post, _, s₂, rfl, rfl, hstep, hwhole, ?_, ?_⟩⟩
  · exact replaceAll_descends f (fun q hq => hover q (hpre q hq)) (fun q hq => hvalid q (hpre q hq)) s
  · rw [hwhole]
    exact replaceAll_descends f (fun q hq => hover q (hpost q hq)) (fun q hq => hvalid q (hpost q hq)) s₂

namespace SplitRun

variable {s : σ} (S : SplitRun calls F plan p s)

include S

theorem mem_of_pre {q : EntityRow × EntityId × Bool} (hq : q ∈ S.pre) : q ∈ plan :=
  S.whole ▸ List.mem_append_left _ hq

theorem mem_of_post {q : EntityRow × EntityId × Bool} (hq : q ∈ S.post) : q ∈ plan :=
  S.whole ▸ List.mem_append_right _ (List.mem_cons_of_mem p hq)

theorem bases_apart (h : (plan.map fun p => p.2.1).Nodup) :
    (∀ q ∈ S.pre, q.2.1 ≠ p.2.1) ∧ (∀ q ∈ S.post, q.2.1 ≠ p.2.1) ∧
      ∀ q ∈ S.pre, ∀ q' ∈ S.post, q.2.1 ≠ q'.2.1 := by
  rw [S.whole, List.map_append, List.map_cons] at h
  obtain ⟨-, hcons, hdisjoint⟩ := List.nodup_append.mp h
  refine ⟨fun q hq => ?_, fun q hq heq => ?_, fun q hq q' hq' => ?_⟩
  · exact hdisjoint _ (List.mem_map_of_mem hq) _ List.mem_cons_self
  · exact (List.nodup_cons.mp hcons).1 (heq ▸ List.mem_map_of_mem hq)
  · exact hdisjoint _ (List.mem_map_of_mem hq) _ (List.mem_cons_of_mem _ (List.mem_map_of_mem hq'))

theorem settled (hp : p ∈ plan) (hover : entityIdBase p.1.entityId = some p.2.1) {y : EntityRow}
    (hy : y ∈ (calls.view s).rows)
    (hkept : At (calls.view (replaceAll calls plan s).2) y y.entityId) :
    y ∈ (calls.view S.before).rows ∧ y ∈ (calls.view S.after).rows := by
  obtain ⟨x, hx, hid, hentity⟩ := hkept
  have hfirst := S.first.mono fun q hq => S.mem_of_pre hq
  have hlast := S.last.mono fun q hq => S.mem_of_post hq
  have hstep := S.step.descends hp hover
  exact ⟨hfirst.settled (hstep.trans hlast) hy hx hid hentity,
    (hfirst.trans hstep).settled hlast hy hx hid hentity⟩

end SplitRun


section Outcome

variable {s : σ} (f : Failing calls F) (hplanned : Planned (calls.view s) calls.validEntityId plan)

include f hplanned

theorem allowed_of_takes (hp : p ∈ plan)
    (htakes : At (calls.view (replaceAll calls plan s).2) p.1 p.2.1) :
    F.rename p.1.entityId p.2.1 = false := by
  obtain ⟨x, hx, hid, hentity⟩ := htakes
  obtain ⟨y, hy, rfl | ⟨q, hq, hallowed, -, rfl⟩⟩ := replaceAll_descends f hplanned.shorter hplanned.valid s x hx
  · obtain rfl := List.inj_on_of_nodup_map (calls.view s).rowIds_nodup hy (hplanned.rows p hp) hid
    exact absurd hentity.symm (entityIdBase_ne (hplanned.shorter p hp))
  · obtain rfl := hplanned.eq_of_base hq hp hentity
    exact hallowed

theorem raised_of_kept (hp : p ∈ plan) (hflag : p.2.2 = true) {b : EntityRow} (hb : b ∈ (calls.view s).rows)
    (hid : b.entityId = p.2.1) (hkept : At (calls.view (replaceAll calls plan s).2) b b.entityId) :
    F.remove p.2.1 = true := by
  obtain ⟨S⟩ := splitRun f hplanned.shorter hplanned.valid hp s
  by_contra hremove
  obtain ⟨hbefore, hafter⟩ := S.settled hp (hplanned.shorter p hp) hb hkept
  exact S.step.removes hflag (Bool.not_eq_true _ ▸ hremove) hbefore hid b hafter rfl

end Outcome

structure Replaced (R' : Registries) (b live : EntityRow) (base : EntityId) : Prop where
  removed : ∀ x ∈ R'.rows, x.id ≠ b.id
  takes : At R' live base

structure Untouched (R' : Registries) (b live : EntityRow) : Prop where
  base : b ∈ R'.rows
  suffixed : live ∈ R'.rows

def AllOrNothing (R' : Registries) (b live : EntityRow) (base : EntityId) : Prop :=
  Replaced R' b live base ∨ Untouched R' b live

structure Intact (F : Failures) (plan : List (EntityRow × EntityId × Bool)) : Prop where
  whole : ∀ p ∈ plan, p.2.2 = true → F.remove p.2.1 = false → F.rename p.1.entityId p.2.1 = false
  chains : ∀ p ∈ plan, ∀ q ∈ plan, q.2.2 = true → q.2.1 = p.1.entityId →
    Idle F p ∧ (p.2.2 = true → Idle F q)

theorem Intact.unhindered (h : Intact F plan) : Unhindered F plan := by
  intro p hp hidle
  refine ⟨?_, fun q hq _ hflag he => hidle (h.chains p hp q hq hflag he).1⟩
  cases hflag : p.2.2 with
  | true => exact h.whole p hp hflag (Bool.eq_false_iff.mpr fun hraises => hidle (Or.inl ⟨hflag, hraises⟩))
  | false => exact Bool.eq_false_iff.mpr fun hraises => hidle (Or.inr ⟨hflag, hraises⟩)

theorem allOrNothing_of_placed {valid : EntityId → Prop} (hplanned : Planned R valid plan)
    (hintact : Intact F plan) (hplaced : Placed R R' (TakenOut F plan) (TakesBase F plan)) (hp : p ∈ plan)
    (hflag : p.2.2 = true) {b : EntityRow} (hb : b ∈ R.rows) (hid : b.entityId = p.2.1) :
    (¬ Idle F p ∧ Replaced R' b p.1 p.2.1) ∨ (Idle F p ∧ Untouched R' b p.1) := by
  have hrow := hplanned.rows p hp
  by_cases hidle : Idle F p
  · refine Or.inr ⟨hidle, ⟨(hplaced.rows b).mpr ⟨b, hb, ?_, Or.inr ⟨?_, rfl⟩⟩,
      (hplaced.rows p.1).mpr ⟨p.1, hrow, ?_, Or.inr ⟨?_, rfl⟩⟩⟩⟩
    · rintro ⟨q, hq, hdone, -, he⟩
      exact hdone (hplanned.eq_of_base hp hq (hid.symm.trans he) ▸ hidle)
    · rintro e ⟨q, hq, hdone, rfl, -⟩
      exact hdone (hintact.chains q hq p hp hflag hid.symm).1
    · rintro ⟨q, hq, hdone, hqflag, he⟩
      exact hdone ((hintact.chains p hp q hq hqflag he.symm).2 hflag)
    · rintro e ⟨q, hq, hdone, he, -⟩
      exact hdone (hplanned.eq_of_row hp hq he ▸ hidle)
  · have htakes : moved p.1 p.2.1 ∈ R'.rows := by
      refine (hplaced.rows _).mpr ⟨p.1, hrow, ?_, Or.inl ⟨p.2.1, ⟨p, hp, hidle, rfl, rfl⟩, rfl⟩⟩
      rintro ⟨q, hq, -, hqflag, he⟩
      exact hidle (hintact.chains p hp q hq hqflag he.symm).1
    refine Or.inl ⟨hidle, ⟨fun x hx he => ?_, _, htakes, rfl, rfl⟩⟩
    obtain ⟨r, hr, hstays, hcase⟩ := (hplaced.rows x).mp hx
    have hrid : r.id = b.id := by
      rw [← he]
      rcases hcase with ⟨e, -, rfl⟩ | ⟨-, rfl⟩ <;> rfl
    obtain rfl := List.inj_on_of_nodup_map R.rowIds_nodup hr hb hrid
    exact hstays ⟨p, hp, hidle, hflag, hid⟩

section Outcome

variable {s : σ} (f : Failing calls F) (hplanned : Planned (calls.view s) calls.validEntityId plan)

include f hplanned

theorem replaceAll_placed_of_intact (hintact : Intact F plan) :
    Placed (calls.view s) (calls.view (replaceAll calls plan s).2) (TakenOut F plan) (TakesBase F plan) :=
  replaceAll_placed f plan hplanned.bases hplanned.shorter hplanned.valid hintact.unhindered s
    fun p hp _ => ⟨hplanned.rows p hp, hplanned.held p hp, hplanned.free p hp⟩

/-- A row that another is to remove is not to move either. -/
theorem raised_of_chain {q : EntityRow × EntityId × Bool} (hp : p ∈ plan) (hq : q ∈ plan)
    (hpflag : p.2.2 = false) (hqflag : q.2.2 = true) (he : q.2.1 = p.1.entityId)
    (h : AllOrNothing (calls.view (replaceAll calls plan s).2) p.1 q.1 q.2.1) :
    F.rename p.1.entityId p.2.1 = true := by
  by_contra hrename
  rw [Bool.not_eq_true] at hrename
  obtain ⟨S⟩ := splitRun f hplanned.shorter hplanned.valid hp s
  obtain ⟨hpre, hpost, hapart⟩ := S.bases_apart hplanned.bases
  have hne := entityIdBase_ne (hplanned.shorter p hp)
  have hfree : (calls.view S.before).Free p.2.1 := by
    intro x hx hbase
    obtain ⟨y, hy, rfl | ⟨q', hq', -, -, rfl⟩⟩ := S.first x hx
    · exact hplanned.free p hp hpflag x hy hbase
    · exact hpre q' hq' hbase
  have hmoves : ∀ w ∈ (calls.view S.before).rows, w.entityId = p.1.entityId →
      moved w p.2.1 ∈ (calls.view S.after).rows := fun w hw hid =>
    S.step.renames hpflag hrename hfree hw hid
  -- whatever row has the id then, it moves away
  have haway : ∀ w ∈ (calls.view S.before).rows, w.entityId = p.1.entityId →
      w ∉ (calls.view S.after).rows := by
    intro w hw hid hafter
    have hsame := List.inj_on_of_nodup_map (calls.view S.after).rowIds_nodup hafter (hmoves w hw hid) rfl
    exact hne (hid ▸ (congrArg (fun r : EntityRow => r.entityId) hsame).symm)
  rcases h with hreplaced | huntouched
  · obtain ⟨x, hx, hxid, hxe⟩ := hreplaced.takes
    rcases List.mem_append.mp (S.whole ▸ hq) with hqpre | hqpost
    · -- the other row is at the id already
      have hafter : x ∈ (calls.view S.after).rows := by
        obtain ⟨y, hy, rfl | ⟨q', hq', -, -, rfl⟩⟩ := S.last x hx
        · exact hy
        · exact absurd hxe.symm (hapart q hqpre q' hq')
      have hbefore : x ∈ (calls.view S.before).rows := by
        obtain ⟨y, hy, rfl | ⟨p', hp', -, -, rfl⟩⟩ :=
          S.step.descends (List.mem_singleton_self p) (hplanned.shorter p hp) x hafter
        · exact hy
        · rw [List.mem_singleton.mp hp', moved_entityId, he] at hxe
          exact absurd hxe hne
      exact haway x hbefore (hxe.trans he) hafter
    · rcases List.mem_cons.mp hqpost with rfl | hqpost
      · exact Bool.false_ne_true (hpflag.symm.trans hqflag)
      · -- the row moves before it can be removed
        have hbefore : p.1 ∈ (calls.view S.before).rows := by
          rw [S.before_eq]
          refine replaceAll_stays f (fun q' hq' => hplanned.shorter q' (S.mem_of_pre hq'))
            (fun q' hq' => hplanned.valid q' (S.mem_of_pre hq')) s (hplanned.rows p hp) fun q' hq' => ⟨?_, ?_⟩
          · intro hrow
            have hsame := Registries.eq_of_entityId (hplanned.rows q' (S.mem_of_pre hq')) (hplanned.rows p hp) hrow
            exact hpre q' hq' (hplanned.eq_of_row (S.mem_of_pre hq') hp hsame ▸ rfl)
          · exact fun hbase => hapart q' hq' q hqpost (hbase.trans he.symm)
        have hend : moved p.1 p.2.1 ∈ (calls.view (replaceAll calls plan s).2).rows := by
          rw [S.after_eq]
          refine replaceAll_stays f (fun q' hq' => hplanned.shorter q' (S.mem_of_post hq'))
            (fun q' hq' => hplanned.valid q' (S.mem_of_post hq')) S.after (hmoves p.1 hbefore rfl)
            fun q' hq' => ⟨?_, hpost q' hq'⟩
          exact hplanned.free p hp hpflag q'.1 (hplanned.rows q' (S.mem_of_post hq'))
        exact hreplaced.removed _ hend rfl
  · obtain ⟨hbefore, hafter⟩ := S.settled hp (hplanned.shorter p hp) (hplanned.rows p hp)
      ⟨p.1, huntouched.base, rfl, rfl⟩
    exact haway p.1 hbefore rfl hafter

/-- The replacements are made in full or not at all, exactly where nothing can
fail halfway and none is in the way of another. -/
theorem replaceAll_allOrNothing_iff :
    (∀ p ∈ plan, p.2.2 = true → ∀ b ∈ (calls.view s).rows, b.entityId = p.2.1 →
      AllOrNothing (calls.view (replaceAll calls plan s).2) b p.1 p.2.1) ↔ Intact F plan := by
  constructor
  · intro h
    have hraised : ∀ p ∈ plan, p.2.2 = true → ∀ b ∈ (calls.view s).rows, b.entityId = p.2.1 →
        Untouched (calls.view (replaceAll calls plan s).2) b p.1 → F.remove p.2.1 = true :=
      fun p hp hflag b hb hid huntouched =>
        raised_of_kept f hplanned hp hflag hb hid ⟨b, huntouched.base, rfl, rfl⟩
    refine ⟨fun p hp hflag hremove => ?_, fun p hp q hq hqflag he => ?_⟩
    · obtain ⟨b, hb, hid⟩ := hplanned.held p hp hflag
      rcases h p hp hflag b hb hid with hreplaced | huntouched
      · exact allowed_of_takes f hplanned hp hreplaced.takes
      · rw [hraised p hp hflag b hb hid huntouched] at hremove
        cases hremove
    · have hqall := h q hq hqflag p.1 (hplanned.rows p hp) he.symm
      cases hflag : p.2.2 with
      | false =>
          exact ⟨Or.inr ⟨hflag, raised_of_chain f hplanned hp hq hflag hqflag he hqall⟩, fun h => by cases h⟩
      | true =>
          obtain ⟨b, hb, hid⟩ := hplanned.held p hp hflag
          have hpall := h p hp hflag b hb hid
          have hquntouched : Untouched (calls.view (replaceAll calls plan s).2) p.1 q.1 := by
            refine hqall.resolve_left fun hreplaced => ?_
            rcases hpall with hpreplaced | hpuntouched
            · obtain ⟨x, hx, hxid, -⟩ := hpreplaced.takes
              exact hreplaced.removed x hx hxid
            · exact hreplaced.removed p.1 hpuntouched.suffixed rfl
          have hpuntouched : Untouched (calls.view (replaceAll calls plan s).2) b p.1 := by
            refine hpall.resolve_left fun hreplaced => ?_
            obtain ⟨x, hx, hxid, hxe⟩ := hreplaced.takes
            rw [List.inj_on_of_nodup_map (Registries.rowIds_nodup _) hx hquntouched.base hxid] at hxe
            exact entityIdBase_ne (hplanned.shorter p hp) hxe.symm
          exact ⟨Or.inl ⟨hflag, hraised p hp hflag b hb hid hpuntouched⟩, fun _ =>
            Or.inl ⟨hqflag, hraised q hq hqflag p.1 (hplanned.rows p hp) he.symm hquntouched⟩⟩
  · intro hintact p hp hflag b hb hid
    exact (allOrNothing_of_placed hplanned hintact (replaceAll_placed_of_intact f hplanned hintact) hp hflag
      hb hid).elim (fun h => Or.inl h.2) fun h => Or.inr h.2

end Outcome

end FritzboxVpn.FailedReplacements
