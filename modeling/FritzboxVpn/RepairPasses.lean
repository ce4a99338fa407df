import FritzboxVpn.EmptyDevices
import FritzboxVpn.RepairPlans

namespace FritzboxVpn.RepairPasses

open Constants Coordinator EmptyDevices EntityIds EntityRepairs Exceptions HomeAssistant RegistryRows
  RepairPlans UniqueIdCodec

def moved (r : EntityRow) (e : EntityId) : EntityRow := { r with entityId := e }

@[simp]
theorem moved_entityId (r : EntityRow) (e : EntityId) : (moved r e).entityId = e := rfl

/-- The rows of a registry after a pass: some are gone, some have moved, the
others are as they were. -/
structure Placed (R R' : Registries) (gone : EntityRow → Prop) (moves : EntityRow → EntityId → Prop) :
    Prop where
  rows : ∀ x, x ∈ R'.rows ↔ ∃ r ∈ R.rows, ¬ gone r ∧
    ((∃ e, moves r e ∧ x = moved r e) ∨ ((∀ e, ¬ moves r e) ∧ x = r))
  devices : ∀ d, d ∈ R'.devices ↔ d ∈ R.devices

theorem Placed.refl (R : Registries) : Placed R R (fun _ => False) fun _ _ => False :=
  ⟨fun x => by simp, fun _ => Iff.rfl⟩

theorem Placed.congr {R R' : Registries} {gone gone' : EntityRow → Prop}
    {moves moves' : EntityRow → EntityId → Prop} (h : Placed R R' gone moves)
    (hgone : ∀ r ∈ R.rows, gone r ↔ gone' r) (hmoves : ∀ r ∈ R.rows, ∀ e, moves r e ↔ moves' r e) :
    Placed R R' gone' moves' := by
  refine ⟨fun x => (h.rows x).trans ?_, h.devices⟩
  refine exists_congr fun r => and_congr_right fun hr => ?_
  simp only [hgone r hr, hmoves r hr]

variable {σ : Type} {calls : RegistryCalls σ}

theorem renamed_rows {R R₁ : Registries} {r : EntityRow} {e : EntityId} (hr : r ∈ R.rows)
    (h : Renamed R r.entityId e R₁) (x : EntityRow) :
    x ∈ R₁.rows ↔ x = moved r e ∨ (x ∈ R.rows ∧ x ≠ r) := by
  rw [h.rows]
  constructor
  · rintro ⟨y, hy, rfl⟩
    rw [EntityRow.renamed]
    split
    next he =>
      rw [Registries.eq_of_entityId hy hr he]
      exact Or.inl rfl
    next hne => exact Or.inr ⟨hy, fun h => hne (h ▸ rfl)⟩
  · rintro (rfl | ⟨hx, hne⟩)
    · exact ⟨r, hr, by rw [EntityRow.renamed, if_pos rfl]; rfl⟩
    · refine ⟨x, hx, ?_⟩
      rw [EntityRow.renamed, if_neg fun he => hne (Registries.eq_of_entityId hx hr he)]

def First (plan : List (EntityRow × EntityId)) (r : EntityRow) (e : EntityId) : Prop :=
  plan.find? (fun p => p.2 = e) = some (r, e)

theorem First.mem {plan : List (EntityRow × EntityId)} {r : EntityRow} {e : EntityId}
    (h : First plan r e) : (r, e) ∈ plan := List.mem_of_find?_eq_some h

theorem first_cons {p : EntityRow × EntityId} {plan : List (EntityRow × EntityId)} {r : EntityRow}
    {e : EntityId} : First (p :: plan) r e ↔ p = (r, e) ∨ (p.2 ≠ e ∧ First plan r e) := by
  obtain ⟨r', e'⟩ := p
  rw [First, List.find?_cons]
  by_cases he : e' = e
  · simp [he]
  · simp [he, First]

theorem first_iff_mem {plan : List (EntityRow × EntityId)} (h : (plan.map Prod.snd).Nodup)
    {r : EntityRow} {e : EntityId} : First plan r e ↔ (r, e) ∈ plan := by
  induction plan with
  | nil => simp [First]
  | cons p plan ih =>
      rw [List.map_cons, List.nodup_cons] at h
      rw [first_cons, List.mem_cons, ih h.2, eq_comm (a := p)]
      refine or_congr_right (and_iff_right_of_imp fun hmem he => ?_)
      exact h.1 (List.mem_map.mpr ⟨(r, e), hmem, he.symm⟩)

theorem Placed.replace {R R₂ R' : Registries} {live : EntityRow} {base : EntityId}
    {out gone : EntityRow → Prop} {moves : EntityRow → EntityId → Prop} (hlive : live ∈ R.rows)
    (hstays : ¬ out live)
    (hrows₂ : ∀ x, x ∈ R₂.rows ↔ x = moved live base ∨ (x ∈ R.rows ∧ ¬ out x ∧ x ≠ live))
    (hdevices : ∀ d, d ∈ R₂.devices ↔ d ∈ R.devices)
    (hgone : ¬ gone live ∧ ¬ gone (moved live base))
    (hmoves : ∀ e, ¬ moves live e ∧ ¬ moves (moved live base) e) (h : Placed R₂ R' gone moves) :
    Placed R R' (fun r => out r ∨ gone r) fun r e => (r = live ∧ e = base) ∨ moves r e := by
  refine ⟨fun x => (h.rows x).trans ?_, fun d => (h.devices d).trans (hdevices d)⟩
  constructor
  · rintro ⟨y, hy, hygone, hcase⟩
    rcases (hrows₂ y).mp hy with rfl | ⟨hy, hyout, hne⟩
    · refine ⟨live, hlive, not_or.mpr ⟨hstays, hgone.1⟩, Or.inl ⟨base, Or.inl ⟨rfl, rfl⟩, ?_⟩⟩
      rcases hcase with ⟨e, hmove, -⟩ | ⟨-, rfl⟩
      · exact absurd hmove (hmoves e).2
      · rfl
    · refine ⟨y, hy, not_or.mpr ⟨hyout, hygone⟩, hcase.imp ?_ ?_⟩
      · exact fun ⟨e, hmove, he⟩ => ⟨e, Or.inr hmove, he⟩
      · exact fun ⟨hnot, he⟩ => ⟨fun e hmove => hmove.elim (fun h => hne h.1) (hnot e), he⟩
  · rintro ⟨y, hy, hygone, hcase⟩
    rw [not_or] at hygone
    by_cases hne : y = live
    · subst hne
      refine ⟨moved y base, (hrows₂ _).mpr (Or.inl rfl), hgone.2, Or.inr ⟨fun e => (hmoves e).2, ?_⟩⟩
      rcases hcase with ⟨e, ⟨-, rfl⟩ | hmove, rfl⟩ | ⟨hnot, -⟩
      · rfl
      · exact absurd hmove (hmoves e).1
      · exact absurd (Or.inl ⟨rfl, rfl⟩) (hnot base)
    · refine ⟨y, (hrows₂ y).mpr (Or.inr ⟨hy, hygone.1, hne⟩), hygone.2, hcase.imp ?_ ?_⟩
      · exact fun ⟨e, hmove, he⟩ => ⟨e, hmove.resolve_left fun h => hne h.1, he⟩
      · exact fun ⟨hnot, he⟩ => ⟨fun e hmove => hnot e (Or.inr hmove), he⟩

theorem Placed.rename {R R₁ R' : Registries} {r : EntityRow} {e : EntityId}
    {moves : EntityRow → EntityId → Prop} (hr : r ∈ R.rows) (hren : Renamed R r.entityId e R₁)
    (hmoves : ∀ x e', moves x e' → x ∈ R.rows ∧ x ≠ r) (h : Placed R₁ R' (fun _ => False) moves) :
    Placed R R' (fun _ => False) fun x e' => (x = r ∧ e' = e) ∨ moves x e' := by
  refine (Placed.replace hr not_false (fun x => ?_) hren.devices
    ⟨not_false, not_false⟩ (fun e' => ⟨fun hmove => ?_, fun hmove => ?_⟩) h).congr
      (fun _ _ => or_self_iff) fun _ _ _ => Iff.rfl
  · rw [renamed_rows hr hren, and_iff_right not_false]
  · exact (hmoves _ _ hmove).2 rfl
  · exact hren.free _ (hmoves _ _ hmove).1 rfl

/-- After the first of a plan has moved, the rest is placed as before. -/
theorem Placed.first {R R₁ R' : Registries} {r : EntityRow} {e : EntityId}
    {plan : List (EntityRow × EntityId)} (hr : r ∈ R.rows) (hren : Renamed R r.entityId e R₁)
    (hother : ∀ p ∈ plan, p.1 ≠ r) (hrows : ∀ p ∈ plan, p.1 ∈ R.rows)
    (hchain : ∀ p ∈ plan, p.2 ≠ r.entityId)
    (h : Placed R₁ R' (fun _ => False) fun x e' => R₁.Free e' ∧ First plan x e') :
    Placed R R' (fun _ => False) fun x e' => R.Free e' ∧ First ((r, e) :: plan) x e' := by
  have hrows₁ := renamed_rows hr hren
  refine (Placed.rename hr hren (fun x e' hmove => ?_) h).congr (fun _ _ => Iff.rfl) fun x hx e' => ?_
  · exact ⟨hrows _ hmove.2.mem, hother _ hmove.2.mem⟩
  · rw [first_cons]
    constructor
    · rintro (⟨rfl, rfl⟩ | ⟨hfree, hfirst⟩)
      · exact ⟨hren.free, Or.inl rfl⟩
      · have he : e ≠ e' := fun he => hfree _ ((hrows₁ (moved r e)).mpr (Or.inl rfl)) he
        refine ⟨fun y hy => ?_, Or.inr ⟨he, hfirst⟩⟩
        by_cases hyr : y = r
        · rw [hyr]
          exact (hchain _ hfirst.mem).symm
        · exact hfree y ((hrows₁ y).mpr (Or.inr ⟨hy, hyr⟩))
    · rintro ⟨hfree, heq | ⟨he, hfirst⟩⟩
      · cases heq
        exact Or.inl ⟨rfl, rfl⟩
      · refine Or.inr ⟨fun y hy => ?_, hfirst⟩
        rcases (hrows₁ y).mp hy with rfl | ⟨hy, -⟩
        · exact he
        · exact hfree y hy

/-- A row goes where the plan says if the id is free and the row is the first to
ask for it. -/
theorem renameAll_placed (w : Willing calls) (plan : List (EntityRow × EntityId))
    (hnodup : (plan.map Prod.fst).Nodup) (hdomain : ∀ p ∈ plan, p.1.entityId.domain = p.2.domain)
    (hvalid : ∀ p ∈ plan, calls.validEntityId p.2)
    (hchain : ∀ p ∈ plan, ∀ q ∈ plan, p.2 ≠ q.1.entityId) (s : σ)
    (hrows : ∀ p ∈ plan, p.1 ∈ (calls.view s).rows) :
    Placed (calls.view s) (calls.view (renameAll calls plan s).2) (fun _ => False) fun r e =>
      (calls.view s).Free e ∧ First plan r e := by
  induction plan generalizing s with
  | nil =>
      refine (Placed.refl _).congr (fun _ _ => Iff.rfl) fun r _ e => ?_
      simp [First]
  | cons p plan ih =>
      obtain ⟨r, e⟩ := p
      rw [List.map_cons, List.nodup_cons] at hnodup
      have ih := ih hnodup.2 (fun p hp => hdomain p (List.mem_cons_of_mem _ hp))
        (fun p hp => hvalid p (List.mem_cons_of_mem _ hp))
        (fun p hp q hq => hchain p (List.mem_cons_of_mem _ hp) q (List.mem_cons_of_mem _ hq))
      have hr := hrows _ List.mem_cons_self
      rw [renameAll]
      cases hcall : calls.asyncUpdateEntity r.entityId e s with
      | mk result s₁ =>
          cases result with
          | error err =>
              have hview := calls.update_error _ _ _ _ _ hcall
              have htaken : ¬ (calls.view s).Free e := by
                intro hfree
                obtain ⟨s₂, hok⟩ := w.update r.entityId e s ⟨r, hr, rfl⟩ hfree
                  (hdomain _ List.mem_cons_self) (hvalid _ List.mem_cons_self)
                rw [hcall] at hok
                cases hok
              have hrest := ih s₁ fun p hp => hview ▸ hrows p (List.mem_cons_of_mem _ hp)
              rw [hview] at hrest
              refine hrest.congr (fun _ _ => Iff.rfl) fun x _ e' => ?_
              refine and_congr_right fun hfree => ?_
              rw [first_cons]
              constructor
              · exact fun h => Or.inr ⟨fun he => htaken ((show e = e' from he) ▸ hfree), h⟩
              · rintro (heq | h)
                · cases heq
                  exact absurd hfree htaken
                · exact h.2
          | ok _ =>
              have hren := calls.update_ok _ _ _ _ hcall
              have hother : ∀ p ∈ plan, p.1 ≠ r := fun p hp he =>
                hnodup.1 (List.mem_map.mpr ⟨p, hp, he⟩)
              have hrest : ∀ p ∈ plan, p.1 ∈ (calls.view s).rows := fun p hp =>
                hrows p (List.mem_cons_of_mem _ hp)
              refine Placed.first hr hren hother hrest ?_ (ih s₁ fun p hp => ?_)
              · exact fun p hp => hchain p (List.mem_cons_of_mem _ hp) _ List.mem_cons_self
              · exact (renamed_rows hr hren p.1).mpr (Or.inr ⟨hrest p hp, hother p hp⟩)

/-- Whichever renames fail, a row is where it was or where the plan has it. -/
theorem renameAll_done (plan : List (EntityRow × EntityId)) (hnodup : (plan.map Prod.fst).Nodup) (s : σ)
    (hrows : ∀ p ∈ plan, p.1 ∈ (calls.view s).rows) :
    ∃ done : List (EntityRow × EntityId), done.Sublist plan ∧
      (renameAll calls plan s).1.length = done.length ∧
        Placed (calls.view s) (calls.view (renameAll calls plan s).2) (fun _ => False)
          fun r e => (r, e) ∈ done := by
  induction plan generalizing s with
  | nil => exact ⟨[], List.Sublist.refl [], rfl, (Placed.refl _).congr (fun _ _ => Iff.rfl) fun _ _ _ => by simp⟩
  | cons p plan ih =>
      obtain ⟨r, e⟩ := p
      rw [List.map_cons, List.nodup_cons] at hnodup
      have hr := hrows _ List.mem_cons_self
      have hrest : ∀ p ∈ plan, p.1 ∈ (calls.view s).rows := fun p hp =>
        hrows p (List.mem_cons_of_mem _ hp)
      rw [renameAll]
      cases hcall : calls.asyncUpdateEntity r.entityId e s with
      | mk result s₁ =>
          cases result with
          | error err =>
              have hview := calls.update_error _ _ _ _ _ hcall
              obtain ⟨done, hsub, hlen, hp⟩ := ih hnodup.2 s₁ fun p hp => hview ▸ hrest p hp
              rw [hview] at hp
              exact ⟨done, hsub.cons _, hlen, hp⟩
          | ok _ =>
              have hren := calls.update_ok _ _ _ _ hcall
              have hother : ∀ p ∈ plan, p.1 ≠ r := fun p hp he =>
                hnodup.1 (List.mem_map.mpr ⟨p, hp, he⟩)
              obtain ⟨done, hsub, hlen, hp⟩ := ih hnodup.2 s₁ fun p hp =>
                (renamed_rows hr hren p.1).mpr (Or.inr ⟨hrest p hp, hother p hp⟩)
              refine ⟨(r, e) :: done, hsub.cons_cons _, ?_, ?_⟩
              · rw [List.length_cons, List.length_cons, hlen]
              · refine (Placed.rename hr hren (fun x e' hmove => ?_) hp).congr (fun _ _ => Iff.rfl)
                  fun x _ e' => ?_
                · exact ⟨hrest _ (hsub.subset hmove), hother _ (hsub.subset hmove)⟩
                · rw [List.mem_cons, Prod.mk.injEq]

/-- Where nothing is removed first, the suffix pass renames. -/
theorem replaceAll_eq (plan : List (EntityRow × EntityId × Bool)) (hplan : ∀ p ∈ plan, p.2.2 = false)
    (s : σ) : replaceAll calls plan s = renameAll calls (plan.map fun p => (p.1, p.2.1)) s := by
  induction plan generalizing s with
  | nil => rfl
  | cons p plan ih =>
      obtain ⟨r, base, flag⟩ := p
      have hflag : flag = false := hplan _ List.mem_cons_self
      subst hflag
      have ih := ih fun p hp => hplan p (List.mem_cons_of_mem _ hp)
      rw [replaceAll, List.map_cons, renameAll]
      simp only [Bool.false_eq_true, if_false]
      cases hcall : calls.asyncUpdateEntity r.entityId base s with
      | mk result s₁ =>
          cases result with
          | error err => simp only [ih]
          | ok _ => simp only [ih]

theorem repairEntityIdSuffixes_eq (entryId : String) (s : σ) :
    (repairEntityIdSuffixes calls entryId false s).2 =
        (renameAll calls (suffixRenames (calls.view s) entryId) s).2 ∧
      (repairEntityIdSuffixes calls entryId false s).1.1 =
        (renameAll calls (suffixRenames (calls.view s) entryId) s).1.length := by
  rw [repairEntityIdSuffixes, replaceAll_eq _ fun p hp => (suffixRepair_spec hp).1]
  exact ⟨rfl, rfl⟩

end FritzboxVpn.RepairPasses
