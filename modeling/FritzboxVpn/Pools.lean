import FritzboxVpn.Runs
import FritzboxVpn.Tasks
import Mathlib.Data.List.Basic

namespace FritzboxVpn.Pools

open Runs Tasks Tasks.Task

variable {σ ρ α ε β γ Φ : Type}

/-- What a group of tasks goes by: phases, each with what it knows of the shared
state and of what was said, and which requests it may make. In an open phase
several tasks may be under way, and nothing leads out of it. -/
structure Discipline (Φ σ ρ α : Type) where
  agrees : Φ → σ → Prop
  records : Φ → List (ρ × α) → Prop
  good : ρ → α → Prop
  allows : Φ → ρ → Prop
  after : Φ → ρ → α → Φ
  stores : Φ → Φ → Prop
  shared : Φ → Prop
  agrees_after : ∀ φ r a s, agrees φ s → agrees (after φ r a) s
  records_after : ∀ φ r a trace, records φ trace → allows φ r → good r a →
    records (after φ r a) ((r, a) :: trace)
  records_stores : ∀ φ φ' trace, stores φ φ' → records φ trace → records φ' trace
  stores_refl : ∀ φ, stores φ φ
  stores_trans : ∀ φ φ' φ'', stores φ φ' → stores φ' φ'' → stores φ φ''
  shared_after : ∀ φ r a, shared φ → allows φ r → after φ r a = φ
  shared_stores : ∀ φ φ', shared φ → stores φ φ' → φ' = φ

def Keeps (D : Discipline Φ σ ρ α) : Φ → Task σ ρ α ε β → (Φ → β → Prop) → (Φ → ε → Prop) → Prop
  | φ, .ret b, ok, _ => ok φ b
  | φ, .raise e, _, err => err φ e
  | φ, .look k, ok, err => ∀ s, D.agrees φ s → Keeps D φ (k s) ok err
  | φ, .change f t, ok, err =>
      ∃ φ', D.stores φ φ' ∧ (∀ s, D.agrees φ s → D.agrees φ' (f s)) ∧ Keeps D φ' t ok err
  | φ, .ask r k, ok, err => D.allows φ r ∧ ∀ a, D.good r a → Keeps D (D.after φ r a) (k a) ok err
  | φ, .pause t, ok, err => Keeps D φ t ok err

section Rules

variable {D : Discipline Φ σ ρ α} {φ : Φ} {ok ok' : Φ → β → Prop} {err err' : Φ → ε → Prop}

theorem Keeps.mono {t : Task σ ρ α ε β} (h : Keeps D φ t ok err) (hok : ∀ φ b, ok φ b → ok' φ b)
    (herr : ∀ φ e, err φ e → err' φ e) : Keeps D φ t ok' err' := by
  induction t generalizing φ with
  | ret b => exact hok φ b h
  | raise e => exact herr φ e h
  | look k ih => exact fun s hs => ih s (h s hs)
  | change f t ih =>
      obtain ⟨φ', hstores, hagrees, h⟩ := h
      exact ⟨φ', hstores, hagrees, ih h⟩
  | ask r k ih => exact ⟨h.1, fun a ha => ih a (h.2 a ha)⟩
  | pause t ih => exact ih h

@[simp]
theorem keeps_pure {b : β} : Keeps D φ (pure b : Task σ ρ α ε β) ok err ↔ ok φ b := Iff.rfl

@[simp]
theorem keeps_throw {e : ε} : Keeps D φ (throw e : Task σ ρ α ε β) ok err ↔ err φ e := Iff.rfl

@[simp]
theorem keeps_pause {t : Task σ ρ α ε β} : Keeps D φ (.pause t) ok err ↔ Keeps D φ t ok err := Iff.rfl

@[simp]
theorem keeps_read {ok : Φ → σ → Prop} :
    Keeps D φ (Task.read : Task σ ρ α ε σ) ok err ↔ ∀ s, D.agrees φ s → ok φ s := Iff.rfl

theorem keeps_update {f : σ → σ} {ok : Φ → Unit → Prop} :
    Keeps D φ (Task.update f : Task σ ρ α ε Unit) ok err ↔
      ∃ φ', D.stores φ φ' ∧ (∀ s, D.agrees φ s → D.agrees φ' (f s)) ∧ ok φ' () := Iff.rfl

theorem keeps_request {r : ρ} {ok : Φ → α → Prop} :
    Keeps D φ (Task.request r : Task σ ρ α ε α) ok err ↔
      D.allows φ r ∧ ∀ a, D.good r a → ok (D.after φ r a) a := Iff.rfl

@[simp]
theorem keeps_ended {x : Except ε β} : Keeps D φ (Task.ended x : Task σ ρ α ε β) ok err ↔
    match x with
    | .ok b => ok φ b
    | .error e => err φ e := by
  cases x <;> exact Iff.rfl

@[simp]
theorem keeps_bind {t : Task σ ρ α ε γ} {f : γ → Task σ ρ α ε β} :
    Keeps D φ (t >>= f) ok err ↔ Keeps D φ t (fun φ c => Keeps D φ (f c) ok err) err := by
  change Keeps D φ (andThen t f) ok err ↔ _
  induction t generalizing φ with
  | ret b => exact Iff.rfl
  | raise e => exact Iff.rfl
  | look k ih => exact forall₂_congr fun s _ => ih s
  | change g t ih => exact exists_congr fun φ' => and_congr_right fun _ => and_congr_right fun _ => ih
  | ask r k ih => exact and_congr_right fun _ => forall₂_congr fun a _ => ih a
  | pause t ih => exact ih

@[simp]
theorem keeps_tryCatch {t : Task σ ρ α ε β} {h : ε → Task σ ρ α ε β} :
    Keeps D φ (tryCatch t h) ok err ↔ Keeps D φ t ok fun φ e => Keeps D φ (h e) ok err := by
  change Keeps D φ (handle t h) ok err ↔ _
  induction t generalizing φ with
  | ret b => exact Iff.rfl
  | raise e => exact Iff.rfl
  | look k ih => exact forall₂_congr fun s _ => ih s
  | change g t ih => exact exists_congr fun φ' => and_congr_right fun _ => and_congr_right fun _ => ih
  | ask r k ih => exact and_congr_right fun _ => forall₂_congr fun a _ => ih a
  | pause t ih => exact ih

@[simp]
theorem keeps_leaving {t : Task σ ρ α ε β} : Keeps D φ (leaving t) ok err ↔ Keeps D φ t ok err := by
  simp only [leaving, keeps_tryCatch, keeps_bind, keeps_pause, keeps_pure, keeps_throw]

end Rules

def advance : σ → Task σ ρ α ε β → σ × Task σ ρ α ε β
  | s, .look k => advance s (k s)
  | s, .change f t => advance (f s) t
  | s, .ret b => (s, .ret b)
  | s, .raise e => (s, .raise e)
  | s, .ask r k => (s, .ask r k)
  | s, .pause t => (s, .pause t)

theorem advance_keeps {D : Discipline Φ σ ρ α} {t : Task σ ρ α ε β} {ok : Φ → β → Prop}
    {err : Φ → ε → Prop} {φ : Φ} {s : σ} (h : Keeps D φ t ok err) (hs : D.agrees φ s) :
    ∃ φ', D.stores φ φ' ∧ D.agrees φ' (advance s t).1 ∧ Keeps D φ' (advance s t).2 ok err := by
  induction t generalizing φ s with
  | ret b => exact ⟨φ, D.stores_refl φ, hs, h⟩
  | raise e => exact ⟨φ, D.stores_refl φ, hs, h⟩
  | look k ih => exact ih s (h s hs) hs
  | change f t ih =>
      obtain ⟨φ', hstores, hagrees, h⟩ := h
      obtain ⟨φ'', hstores', hrest⟩ := ih h (hagrees s hs)
      exact ⟨φ'', D.stores_trans φ φ' φ'' hstores hstores', hrest⟩
  | ask r k ih => exact ⟨φ, D.stores_refl φ, hs, h⟩
  | pause t ih => exact ⟨φ, D.stores_refl φ, hs, h⟩

structure Thread (σ ρ α ε β : Type) where
  begun : Bool
  task : Task σ ρ α ε β

def Thread.resume (th : Thread σ ρ α ε β) (a : α) : Option (ρ × α) × Task σ ρ α ε β :=
  if th.begun then
    match th.task with
    | .ask r k => (some (r, a), k a)
    | .pause t => (none, t)
    | t => (none, t)
  else (none, th.task)

/-- Tasks over one shared state, and what was said so far, the latest first. -/
structure Pool (σ ρ α ε β : Type) where
  shared : σ
  threads : List (Thread σ ρ α ε β)
  trace : List (ρ × α)

namespace Pool

/-- One thread goes on until it waits again, and the others stand still. -/
def step (p : Pool σ ρ α ε β) (i : Nat × α) : Option (ρ × α) × Pool σ ρ α ε β :=
  match p.threads[i.1]? with
  | none => (none, p)
  | some th =>
      let (said, t) := th.resume i.2
      let (shared, rest) := advance p.shared t
      (said, ⟨shared, p.threads.set i.1 ⟨true, rest⟩, said.toList ++ p.trace⟩)

def machine (s : σ) (tasks : List (Task σ ρ α ε β)) : Machine (Pool σ ρ α ε β) (Nat × α) (Option (ρ × α)) :=
  ⟨⟨s, tasks.map (Thread.mk false), []⟩, step⟩

def Idle (p : Pool σ ρ α ε β) : Prop := ∀ th ∈ p.threads, th.begun = false

def BeginsAlone (busy : σ → Prop) (p : Pool σ ρ α ε β) (i : Nat) : Prop :=
  ∀ th, p.threads[i]? = some th → th.begun = false → busy p.shared → p.Idle

instance (p : Pool σ ρ α ε β) : Decidable p.Idle :=
  inferInstanceAs (Decidable (∀ th ∈ p.threads, th.begun = false))

instance (busy : σ → Prop) [DecidablePred busy] (p : Pool σ ρ α ε β) (i : Nat) :
    Decidable (BeginsAlone busy p i) :=
  inferInstanceAs (Decidable (∀ th ∈ p.threads[i]?, th.begun = false → busy p.shared → p.Idle))

structure Kept (D : Discipline Φ σ ρ α) (tasks : List (Task σ ρ α ε β)) (φ₀ φ : Φ)
    (p : Pool σ ρ α ε β) : Prop where
  agrees : D.agrees φ p.shared
  records : D.records φ p.trace
  fresh : ∀ th ∈ p.threads, th.begun = false → th.task ∈ tasks
  keeps : ∀ (i : Nat) (th : Thread σ ρ α ε β), p.threads[i]? = some th → th.begun = true →
    Keeps D φ th.task (fun φ _ => D.shared φ) fun _ _ => False
  lone : D.shared φ ∨ ∀ (i j : Nat) (th th' : Thread σ ρ α ε β), p.threads[i]? = some th →
    p.threads[j]? = some th' → th.begun = true → th'.begun = true → i = j
  idle : p.Idle → φ = φ₀

section Kept

variable {D : Discipline Φ σ ρ α} {tasks : List (Task σ ρ α ε β)} {φ₀ φ : Φ} {p : Pool σ ρ α ε β}
  {busy : σ → Prop}
  (htasks : ∀ t ∈ tasks, ∀ φ, φ = φ₀ ∨ D.shared φ → Keeps D φ t (fun φ _ => D.shared φ) fun _ _ => False)
  (hbusy : ∀ φ s, D.agrees φ s → ¬ busy s → D.shared φ)

section

include hbusy

/-- Where a task goes on while another is under way the phase is open. -/
theorem Kept.shared_of_others (h : Kept D tasks φ₀ φ p) {i j : Nat} {th th' : Thread σ ρ α ε β}
    (hth : p.threads[i]? = some th) (halone : BeginsAlone busy p i) (hj : j ≠ i)
    (hth' : p.threads[j]? = some th') (hbegun : th'.begun = true) : D.shared φ := by
  rcases h.lone with hs | hlone
  · exact hs
  · cases hb : th.begun with
    | true => exact absurd (hlone j i th' th hth' hth hbegun hb) hj
    | false =>
        by_contra hs
        have hbusy' : busy p.shared := not_not.mp fun hn => hs (hbusy φ p.shared h.agrees hn)
        have hidle := halone th hth hb hbusy' th' (List.mem_of_getElem? hth')
        rw [hbegun] at hidle
        cases hidle

end

include htasks hbusy

/-- Whatever a resumed thread does next, it does from a phase it keeps to. -/
theorem Kept.resume (h : Kept D tasks φ₀ φ p) {i : Nat} {a : α} {th : Thread σ ρ α ε β}
    (hth : p.threads[i]? = some th) (hgood : ∀ x, (th.resume a).1 = some x → D.good x.1 x.2)
    (halone : BeginsAlone busy p i) : ∃ φ₁, (D.shared φ → φ₁ = φ) ∧ D.agrees φ₁ p.shared ∧
      D.records φ₁ ((th.resume a).1.toList ++ p.trace) ∧
        Keeps D φ₁ (th.resume a).2 (fun φ _ => D.shared φ) fun _ _ => False := by
  obtain ⟨begun, task⟩ := th
  cases begun with
  | false =>
      refine ⟨φ, fun _ => rfl, h.agrees, h.records, ?_⟩
      refine htasks task (h.fresh _ (List.mem_of_getElem? hth) rfl) φ ?_
      by_contra hφ
      rw [not_or] at hφ
      have hb : busy p.shared := not_not.mp fun hb => hφ.2 (hbusy φ p.shared h.agrees hb)
      exact hφ.1 (h.idle (halone _ hth rfl hb))
  | true =>
      have hkeeps := h.keeps i _ hth rfl
      cases task with
      | ask r k =>
          obtain ⟨hallows, hk⟩ := hkeeps
          have ha := hgood (r, a) rfl
          exact ⟨D.after φ r a, fun hs => D.shared_after φ r a hs hallows, D.agrees_after φ r a _ h.agrees,
            D.records_after φ r a _ h.records hallows ha, hk a ha⟩
      | pause t => exact ⟨φ, fun _ => rfl, h.agrees, h.records, hkeeps⟩
      | ret b => exact ⟨φ, fun _ => rfl, h.agrees, h.records, hkeeps⟩
      | raise e => exact ⟨φ, fun _ => rfl, h.agrees, h.records, hkeeps⟩
      | look k => exact ⟨φ, fun _ => rfl, h.agrees, h.records, hkeeps⟩
      | change f t => exact ⟨φ, fun _ => rfl, h.agrees, h.records, hkeeps⟩

theorem Kept.step (h : Kept D tasks φ₀ φ p) {i : Nat × α}
    (hgood : ∀ x, (p.step i).1 = some x → D.good x.1 x.2) (halone : BeginsAlone busy p i.1) :
    ∃ φ', Kept D tasks φ₀ φ' (p.step i).2 := by
  rw [Pool.step] at hgood ⊢
  cases hth : p.threads[i.1]? with
  | none => exact ⟨φ, h⟩
  | some th =>
      rw [hth] at hgood
      obtain ⟨φ₁, hsame, hagrees, hrecords, hkeeps⟩ := h.resume htasks hbusy hth hgood halone
      obtain ⟨φ₂, hstores, hagrees₂, hkeeps₂⟩ := advance_keeps hkeeps hagrees
      have hstill : D.shared φ → φ₂ = φ := by
        intro hs
        rw [hsame hs] at hstores
        exact D.shared_stores φ φ₂ hs hstores
      have hlt : i.1 < p.threads.length := (List.getElem?_eq_some_iff.mp hth).1
      refine ⟨φ₂, hagrees₂, D.records_stores φ₁ φ₂ _ hstores hrecords, ?_, ?_, ?_, ?_⟩
      · intro th' hmem hbegun
        rcases List.mem_or_eq_of_mem_set hmem with hmem | rfl
        · exact h.fresh th' hmem hbegun
        · cases hbegun
      · intro j th' hth' hbegun
        by_cases hj : j = i.1
        · subst hj
          rw [List.getElem?_set_self hlt, Option.some.injEq] at hth'
          exact hth' ▸ hkeeps₂
        · rw [List.getElem?_set_ne (Ne.symm hj)] at hth'
          rw [hstill (h.shared_of_others hbusy hth halone hj hth' hbegun)]
          exact h.keeps j th' hth' hbegun
      · by_cases hs : D.shared φ
        · exact Or.inl ((hstill hs).symm ▸ hs)
        · have honly : ∀ (j : Nat) (th' : Thread σ ρ α ε β),
              (p.threads.set i.1 ⟨true, (advance p.shared (th.resume i.2).2).2⟩)[j]? = some th' →
                th'.begun = true → j = i.1 := by
            intro j th' hth' hbegun
            by_contra hj
            rw [List.getElem?_set_ne (Ne.symm hj)] at hth'
            exact hs (h.shared_of_others hbusy hth halone hj hth' hbegun)
          exact Or.inr fun j k th' th'' hj hk hbj hbk => (honly j th' hj hbj).trans (honly k th'' hk hbk).symm
      · intro hidle
        have hbegun := hidle _ (List.mem_of_getElem? (List.getElem?_set_self hlt))
        cases hbegun

/-- A run in which every answer is good and no task begins among others while the
state is busy keeps to the discipline. -/
theorem run_kept {s : σ} (hinit : D.agrees φ₀ s) (hrecords : D.records φ₀ [])
    {hist : List (Record (Pool σ ρ α ε β) (Nat × α) (Option (ρ × α)))} (h : Run (machine s tasks) hist p)
    (hgood : ∀ r ∈ hist, ∀ x, r.output = some x → D.good x.1 x.2)
    (halone : ∀ r ∈ hist, BeginsAlone busy r.before r.input.1) : ∃ φ, Kept D tasks φ₀ φ p := by
  refine Run.invariant_under (P := fun _ p => ∃ φ, Kept D tasks φ₀ φ p)
    (C := fun r => (∀ x, r.output = some x → D.good x.1 x.2) ∧ BeginsAlone busy r.before r.input.1)
    ⟨φ₀, ?_⟩ ?_ h fun r hr => ⟨hgood r hr, halone r hr⟩
  · have hbegun : ∀ th ∈ ((machine s tasks).init).threads, th.begun = false ∧ th.task ∈ tasks := by
      intro th hth
      obtain ⟨t, ht, rfl⟩ := List.mem_map.mp hth
      exact ⟨rfl, ht⟩
    have hnone : ∀ (i : Nat) (th : Thread σ ρ α ε β), ((machine s tasks).init).threads[i]? = some th →
        th.begun ≠ true := fun i th hth => Bool.eq_false_iff.mp (hbegun th (List.mem_of_getElem? hth)).1
    exact ⟨hinit, hrecords, fun th hth _ => (hbegun th hth).2, fun i th hth hb => absurd hb (hnone i th hth),
      Or.inr fun i j th _ hi _ hb _ => absurd hb (hnone i th hi), fun _ => rfl⟩
  · rintro - p i - ⟨hgood, halone⟩ ⟨φ, hkept⟩
    exact hkept.step htasks hbusy hgood halone

end Kept

end Pool

end FritzboxVpn.Pools
