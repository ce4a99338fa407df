import Mathlib.Data.Finset.Card
import Mathlib.Logic.Relation

namespace FritzboxVpn.Chains

open Relation

variable {α : Type} {next : α → Option α}

def Leads (next : α → Option α) (a b : α) : Prop := next a = some b

def IsEnd (next : α → Option α) (a e : α) : Prop := ReflTransGen (Leads next) a e ∧ next e = none

def Acyclic (next : α → Option α) (a : α) : Prop :=
  ∀ b, ReflTransGen (Leads next) a b → ¬ TransGen (Leads next) b b

/-- The points a chain passes before it is at its last one. -/
inductive Passes (next : α → Option α) : α → List α → α → Prop
  | here (a : α) : Passes next a [] a
  | step {a b c : α} {l : List α} (hn : next a = some b) (hp : Passes next b l c) :
      Passes next a (a :: l) c

theorem Passes.reaches {a b : α} {l : List α} (h : Passes next a l b) :
    ReflTransGen (Leads next) a b := by
  induction h with
  | here a => exact ReflTransGen.refl
  | step hn _ ih => exact ReflTransGen.head hn ih

theorem Passes.mono {next' : α → Option α} (hmono : ∀ x y, next x = some y → next' x = some y)
    {a b : α} {l : List α} (h : Passes next a l b) : Passes next' a l b := by
  induction h with
  | here a => exact .here a
  | step hn _ ih => exact .step (hmono _ _ hn) ih

theorem Passes.trans {a b c : α} {l l' : List α} (h : Passes next a l b) (h' : Passes next b l' c) :
    Passes next a (l ++ l') c := by
  induction h with
  | here a => exact h'
  | step hn _ ih => exact .step hn (ih h')

theorem Passes.end_notMem {a b e : α} {l : List α} (h : Passes next a l b) (he : next e = none) :
    e ∉ l := by
  induction h with
  | here a => exact List.not_mem_nil
  | step hn _ ih =>
      rw [List.mem_cons, not_or]
      refine ⟨?_, ih⟩
      rintro rfl
      rw [he] at hn
      cases hn

theorem Passes.drop {a b c : α} {l l' : List α} (h : Passes next a (l ++ c :: l') b) :
    ReflTransGen (Leads next) a c ∧ Passes next c (c :: l') b := by
  induction l generalizing a with
  | nil =>
      cases h with
      | step hn hp => exact ⟨ReflTransGen.refl, Passes.step hn hp⟩
  | cons x l ih =>
      cases h with
      | step hn hp =>
          obtain ⟨hr, hc⟩ := ih hp
          exact ⟨ReflTransGen.head hn hr, hc⟩

theorem Passes.returns {a b : α} {l : List α} (h : Passes next a (a :: l) b) :
    TransGen (Leads next) a b := by
  cases h with
  | step hn hp => exact TransGen.head' hn hp.reaches

theorem leads_rightUnique : Relator.RightUnique (Leads next) := by
  intro a b c hb hc
  exact Option.some.inj (hb.symm.trans hc)

theorem eq_of_reaches_of_none {a b : α} (h : ReflTransGen (Leads next) a b)
    (hn : next a = none) : a = b := by
  induction h using ReflTransGen.head_induction_on with
  | refl => rfl
  | head hl _ _ =>
      rw [Leads, hn] at hl
      cases hl

theorem IsEnd.unique {a e e' : α} (h : IsEnd next a e) (h' : IsEnd next a e') : e = e' := by
  rcases ReflTransGen.total_of_right_unique leads_rightUnique h.1 h'.1 with hr | hr
  · exact eq_of_reaches_of_none hr h.2
  · exact (eq_of_reaches_of_none hr h'.2).symm

variable [DecidableEq α]

/-- Following a chain and remembering its points: where the walk stops, and
after how many steps. It stops at a point that leads nowhere or that it has
been at before. -/
inductive Follows (next : α → Option α) : Finset α → α → Nat → α → Prop
  | ends {seen : Finset α} {a : α} (hn : next a = none) : Follows next seen a 0 a
  | repeats {seen : Finset α} {a : α} (hs : a ∈ seen) : Follows next seen a 0 a
  | step {seen : Finset α} {a b r : α} {n : Nat} (hn : next a = some b) (hs : a ∉ seen)
      (hf : Follows next (insert a seen) b n r) : Follows next seen a (n + 1) r

/-- The walk is a chain without repetition, up to where it stops. -/
theorem Follows.passes {seen : Finset α} {a r : α} {n : Nat} (h : Follows next seen a n r) :
    ∃ l, Passes next a l r ∧ l.Nodup ∧ l.length = n ∧ (∀ x ∈ l, x ∉ seen) ∧
      (next r = none ∨ r ∈ seen ∨ r ∈ l) := by
  induction h with
  | ends hn => exact ⟨[], Passes.here _, List.nodup_nil, rfl, by simp, Or.inl hn⟩
  | repeats hs => exact ⟨[], Passes.here _, List.nodup_nil, rfl, by simp, Or.inr (Or.inl hs)⟩
  | @step seen a b r n hn hs _ ih =>
      obtain ⟨l, hp, hnd, hlen, hdisj, hr⟩ := ih
      have hal : a ∉ l := fun ha => hdisj a ha (Finset.mem_insert_self a seen)
      refine ⟨a :: l, Passes.step hn hp, List.nodup_cons.mpr ⟨hal, hnd⟩, by simp [hlen], ?_, ?_⟩
      · intro x hx
        rcases List.mem_cons.mp hx with rfl | hx
        · exact hs
        · exact fun h => hdisj x hx (Finset.mem_insert_of_mem h)
      · simp only [Finset.mem_insert, List.mem_cons] at hr ⊢
        tauto

theorem Passes.follows {a b : α} {l : List α} (h : Passes next a l b) {seen : Finset α}
    (hnd : l.Nodup) (hdisj : ∀ x ∈ l, x ∉ seen) (hb : next b = none ∨ b ∈ seen ∨ b ∈ l) :
    Follows next seen a l.length b := by
  induction h generalizing seen with
  | here a =>
      rcases hb with hb | hb | hb
      · exact Follows.ends hb
      · exact Follows.repeats hb
      · simp at hb
  | @step a b c l hn _ ih =>
      rw [List.nodup_cons] at hnd
      refine Follows.step hn (hdisj a List.mem_cons_self) (ih hnd.2 ?_ ?_)
      · intro x hx hm
        rcases Finset.mem_insert.mp hm with rfl | hm
        · exact hnd.1 hx
        · exact hdisj x (List.mem_cons_of_mem a hx) hm
      · simp only [Finset.mem_insert, List.mem_cons] at hb ⊢
        tauto

theorem Follows.unique {seen : Finset α} {a r r' : α} {n n' : Nat} (h : Follows next seen a n r)
    (h' : Follows next seen a n' r') : n = n' ∧ r = r' := by
  induction h generalizing n' with
  | ends hn =>
      cases h' with
      | ends _ => exact ⟨rfl, rfl⟩
      | repeats _ => exact ⟨rfl, rfl⟩
      | step hn' _ _ => rw [hn] at hn'; cases hn'
  | repeats hs =>
      cases h' with
      | ends _ => exact ⟨rfl, rfl⟩
      | repeats _ => exact ⟨rfl, rfl⟩
      | step _ hs' _ => exact absurd hs hs'
  | step hn hs _ ih =>
      cases h' with
      | ends hn' => rw [hn] at hn'; cases hn'
      | repeats hs' => exact absurd hs' hs
      | step hn' _ hf' =>
          obtain rfl := Option.some.inj (hn.symm.trans hn')
          obtain ⟨rfl, rfl⟩ := ih hf'
          exact ⟨rfl, rfl⟩

/-- Every step of a walk from a point not seen takes one more of the points
that lead somewhere. -/
theorem exists_follows {keys : Finset α} (hkeys : ∀ a b, next a = some b → a ∈ keys)
    (seen : Finset α) (a : α) : ∃ n r, n ≤ (keys \ seen).card ∧ Follows next seen a n r := by
  induction hk : (keys \ seen).card generalizing seen a with
  | zero =>
      cases hn : next a with
      | none => exact ⟨0, a, Nat.le_refl 0, Follows.ends hn⟩
      | some b =>
          have hs : a ∈ seen := by
            by_contra hs
            have hm := Finset.mem_sdiff.mpr ⟨hkeys a b hn, hs⟩
            rw [Finset.card_eq_zero.mp hk] at hm
            exact Finset.notMem_empty a hm
          exact ⟨0, a, Nat.le_refl 0, Follows.repeats hs⟩
  | succ k ih =>
      cases hn : next a with
      | none => exact ⟨0, a, Nat.zero_le _, Follows.ends hn⟩
      | some b =>
          by_cases hs : a ∈ seen
          · exact ⟨0, a, Nat.zero_le _, Follows.repeats hs⟩
          · have hm := Finset.mem_sdiff.mpr ⟨hkeys a b hn, hs⟩
            have hcard : (keys \ insert a seen).card = k := by
              rw [Finset.sdiff_insert, Finset.card_erase_of_mem hm, hk, Nat.add_sub_cancel]
            obtain ⟨n, r, hle, hf⟩ := ih (insert a seen) b hcard
            exact ⟨n + 1, r, Nat.succ_le_succ hle, Follows.step hn hs hf⟩

/-- Where a walk stops, a new walk stops as well. -/
theorem Follows.idem {a r : α} {n : Nat} (h : Follows next ∅ a n r) :
    ∃ m, Follows next ∅ r m r := by
  obtain ⟨l, hp, hnd, -, -, hr⟩ := h.passes
  rcases hr with hr | hr | hr
  · exact ⟨0, Follows.ends hr⟩
  · exact absurd hr (Finset.notMem_empty r)
  · obtain ⟨l₁, l₂, rfl⟩ := List.append_of_mem hr
    have hc := hp.drop.2
    have hsub : (r :: l₂).Sublist (l₁ ++ r :: l₂) := List.sublist_append_right l₁ (r :: l₂)
    exact ⟨_, hc.follows (hsub.nodup hnd) (by simp) (Or.inr (Or.inr List.mem_cons_self))⟩

theorem Follows.isEnd {a r : α} {n : Nat} (h : Follows next ∅ a n r) (ha : Acyclic next a) :
    IsEnd next a r := by
  obtain ⟨l, hp, -, -, -, hr⟩ := h.passes
  rcases hr with hr | hr | hr
  · exact ⟨hp.reaches, hr⟩
  · exact absurd hr (Finset.notMem_empty r)
  · obtain ⟨l₁, l₂, rfl⟩ := List.append_of_mem hr
    exact absurd hp.drop.2.returns (ha r hp.reaches)

end FritzboxVpn.Chains
