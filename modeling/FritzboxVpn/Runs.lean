import Mathlib.Logic.Basic

namespace FritzboxVpn.Runs

variable {σ ι ο : Type}

structure Machine (σ ι ο : Type) where
  init : σ
  step : σ → ι → ο × σ

structure Record (σ ι ο : Type) where
  before : σ
  input : ι
  output : ο
  after : σ

def Machine.record (M : Machine σ ι ο) (s : σ) (i : ι) : Record σ ι ο :=
  ⟨s, i, (M.step s i).1, (M.step s i).2⟩

/-- Runs from the initial state, the latest step first. -/
inductive Run (M : Machine σ ι ο) : List (Record σ ι ο) → σ → Prop
  | start : Run M [] M.init
  | step {hist s} (h : Run M hist s) (i : ι) : Run M (M.record s i :: hist) (M.step s i).2

theorem Run.record {M : Machine σ ι ο} {hist : List (Record σ ι ο)} {s : σ} (h : Run M hist s) (i : ι) :
    Run M (M.record s i :: hist) (M.record s i).after := h.step i

theorem Run.of_nil {M : Machine σ ι ο} {s : σ} (h : Run M [] s) : s = M.init := by
  cases h with
  | start => rfl

theorem Run.of_cons {M : Machine σ ι ο} {r : Record σ ι ο} {hist : List (Record σ ι ο)} {s : σ}
    (h : Run M (r :: hist) s) :
    Run M hist r.before ∧ r = M.record r.before r.input ∧ s = r.after := by
  cases h with
  | step h i => exact ⟨h, rfl, rfl⟩

/-- What holds at the start and is kept by every step holds after every run. -/
theorem Run.invariant {M : Machine σ ι ο} {P : List (Record σ ι ο) → σ → Prop}
    (start : P [] M.init)
    (step : ∀ hist s i, Run M hist s → P hist s → P (M.record s i :: hist) (M.step s i).2)
    {hist : List (Record σ ι ο)} {s : σ} (h : Run M hist s) : P hist s := by
  induction h with
  | start => exact start
  | step h i ih => exact step _ _ i h ih

/-- The same over the runs all of whose steps meet a condition. -/
theorem Run.invariant_under {M : Machine σ ι ο} {C : Record σ ι ο → Prop}
    {P : List (Record σ ι ο) → σ → Prop} (start : P [] M.init)
    (step : ∀ hist s i, Run M hist s → C (M.record s i) → P hist s →
      P (M.record s i :: hist) (M.step s i).2)
    {hist : List (Record σ ι ο)} {s : σ} (h : Run M hist s) (hC : ∀ r ∈ hist, C r) : P hist s := by
  refine Run.invariant (P := fun hist s => (∀ r ∈ hist, C r) → P hist s) ?_ ?_ h hC
  · exact fun _ => start
  · intro hist s i hrun ih hC
    have hlast := hC _ List.mem_cons_self
    exact step hist s i hrun hlast (ih fun r hr => hC r (List.mem_cons_of_mem _ hr))

/-- What holds after one step and is kept by the later ones holds at the end. -/
theorem Run.invariant_since {M : Machine σ ι ο} {P : σ → Prop} {r : Record σ ι ο}
    {later hist : List (Record σ ι ο)} {s : σ} (h : Run M (later ++ r :: hist) s) (start : P r.after)
    (step : ∀ r' ∈ later, r' = M.record r'.before r'.input → P r'.before → P r'.after) : P s := by
  induction later generalizing s with
  | nil =>
      obtain ⟨-, -, rfl⟩ := h.of_cons
      exact start
  | cons r' later ih =>
      obtain ⟨hrun, hr, rfl⟩ := h.of_cons
      have hbefore := ih hrun fun q hq => step q (List.mem_cons_of_mem _ hq)
      exact step r' List.mem_cons_self hr hbefore

theorem Run.of_append {M : Machine σ ι ο} {later hist : List (Record σ ι ο)} {s : σ}
    (h : Run M (later ++ hist) s) : ∃ s', Run M hist s' := by
  induction later generalizing s with
  | nil => exact ⟨s, h⟩
  | cons r later ih => exact ih h.of_cons.1

def Machine.play (M : Machine σ ι ο) : List ι → List (Record σ ι ο) × σ
  | [] => ([], M.init)
  | i :: is => (M.record (M.play is).2 i :: (M.play is).1, (M.step (M.play is).2 i).2)

theorem run_play (M : Machine σ ι ο) (is : List ι) : Run M (M.play is).1 (M.play is).2 := by
  induction is with
  | nil => exact Run.start
  | cons i is ih => exact Run.step ih i

end FritzboxVpn.Runs
