import FritzboxVpn.Interaction
import Mathlib.Algebra.Group.Pi.Basic
import Mathlib.Algebra.Order.Group.Nat

namespace FritzboxVpn.Costs

open Interaction Interaction.Program

variable {σ ρ α ε β γ κ : Type} [DecidableEq κ]

def count (kindOf : ρ → κ) (k : κ) (exchanges : List (ρ × α)) : ℕ :=
  exchanges.countP fun x => kindOf x.1 = k

def Spent (kindOf : ρ → κ) (n : κ → ℕ) (w w' : World σ ρ α) : Prop :=
  ∃ made, w'.trace = made ++ w.trace ∧ ∀ k, count kindOf k made ≤ n k

/-- From a state that meets P the program asks at most this often, however it ends,
and where it returns the result meets Q. -/
def Spends (kindOf : ρ → κ) (P : World σ ρ α → Prop) (n : κ → ℕ) (p : Program σ ρ α ε β)
    (Q : β → World σ ρ α → Prop) : Prop :=
  ∀ partner w, P w → Yields partner w p (fun b w' => Spent kindOf n w w' ∧ Q b w')
    fun _ w' => Spent kindOf n w w'

section Spending

variable {kindOf : ρ → κ} {n m k : κ → ℕ} {w w' w'' : World σ ρ α}

theorem Spent.refl (w : World σ ρ α) : Spent kindOf n w w :=
  ⟨[], rfl, fun _ => Nat.zero_le _⟩

theorem Spent.mono (h : Spent kindOf n w w') (hn : ∀ k, n k ≤ m k) : Spent kindOf m w w' := by
  obtain ⟨made, ht, hc⟩ := h
  exact ⟨made, ht, fun k => (hc k).trans (hn k)⟩

theorem Spent.trans (h : Spent kindOf n w w') (h' : Spent kindOf m w' w'') :
    Spent kindOf (n + m) w w'' := by
  obtain ⟨made, ht, hc⟩ := h
  obtain ⟨made', ht', hc'⟩ := h'
  refine ⟨made' ++ made, by rw [ht', ht, List.append_assoc], fun k => ?_⟩
  have hsum : count kindOf k (made' ++ made) = count kindOf k made' + count kindOf k made :=
    List.countP_append
  have h1 := hc k
  have h2 := hc' k
  rw [hsum, Pi.add_apply]
  omega

end Spending

section Rules

variable {kindOf : ρ → κ} {n m : κ → ℕ} {P P' : World σ ρ α → Prop} {p : Program σ ρ α ε β}
  {Q Q' : β → World σ ρ α → Prop} {R : γ → World σ ρ α → Prop}

theorem Spends.mono (h : Spends kindOf P n p Q) (hP : ∀ w, P' w → P w) (hn : ∀ k, n k ≤ m k)
    (hQ : ∀ b w, Q b w → Q' b w) : Spends kindOf P' m p Q' := by
  intro partner w hw
  refine (h partner w (hP w hw)).mono ?_ ?_
  · exact fun b w' hb => ⟨hb.1.mono hn, hQ b w' hb.2⟩
  · exact fun _ _ hs => hs.mono hn

/-- The same program within a larger budget. -/
theorem Spends.within (h : Spends kindOf P n p Q) (hn : ∀ k, n k ≤ m k) : Spends kindOf P m p Q :=
  h.mono (fun _ hw => hw) hn fun _ _ hb => hb

theorem Spends.of_weaker (h : Spends kindOf P n p Q) (hP : ∀ w, P' w → P w) : Spends kindOf P' n p Q :=
  h.mono hP (fun _ => Nat.le_refl _) fun _ _ hb => hb

theorem spends_pure {b : β} (h : ∀ w, P w → Q b w) :
    Spends kindOf P n (pure b : Program σ ρ α ε β) Q :=
  fun _ w hw => yields_pure.mpr ⟨Spent.refl w, h w hw⟩

theorem spends_throw {e : ε} : Spends kindOf P n (throw e : Program σ ρ α ε β) Q :=
  fun _ w _ => yields_throw.mpr (Spent.refl w)

theorem spends_read : Spends kindOf P n (read : Program σ ρ α ε σ) fun s w => s = w.state ∧ P w :=
  fun _ w hw => yields_read.mpr ⟨Spent.refl w, rfl, hw⟩

theorem spends_update {f : σ → σ} {Q : Unit → World σ ρ α → Prop}
    (h : ∀ w, P w → Q () { w with state := f w.state }) :
    Spends kindOf P n (update f : Program σ ρ α ε Unit) Q :=
  fun _ w hw => yields_update.mpr ⟨⟨[], rfl, fun _ => Nat.zero_le _⟩, h w hw⟩

theorem spends_update_pure {f : σ → σ} {b : β} (h : ∀ w, P w → Q b { w with state := f w.state }) :
    Spends kindOf P n (do
      update f
      pure b : Program σ ρ α ε β) Q := by
  intro partner w hw
  rw [yields_bind, yields_update, yields_pure]
  exact ⟨⟨[], rfl, fun _ => Nat.zero_le _⟩, h w hw⟩

theorem spends_request {r : ρ} (hr : 1 ≤ n (kindOf r)) {Q : α → World σ ρ α → Prop}
    (h : ∀ w a, P w → Q a { w with trace := (r, a) :: w.trace }) :
    Spends kindOf P n (request r : Program σ ρ α ε α) Q := by
  intro partner w hw
  apply yields_request
  intro a
  refine ⟨⟨[(r, a)], rfl, fun k => ?_⟩, h w a hw⟩
  rw [count, List.countP_singleton]
  by_cases hk : kindOf r = k
  · rw [if_pos (decide_eq_true hk), ← hk]
    exact hr
  · rw [if_neg (by rw [decide_eq_true_iff]; exact hk)]
    exact Nat.zero_le _

theorem Spends.bind {f : β → Program σ ρ α ε γ} (hp : Spends kindOf P n p Q)
    (hf : ∀ b, Spends kindOf (Q b) m (f b) R) : Spends kindOf P (n + m) (p >>= f) R := by
  intro partner w hw
  rw [yields_bind]
  refine (hp partner w hw).mono ?_ ?_
  · intro b w' hb
    refine (hf b partner w' hb.2).mono ?_ ?_
    · exact fun c w'' hc => ⟨hb.1.trans hc.1, hc.2⟩
    · exact fun _ _ hs => hb.1.trans hs
  · intro _ _ hs
    exact hs.mono fun _ => Nat.le_add_right _ _

theorem Spends.tryCatch {h : ε → Program σ ρ α ε β} (hp : Spends kindOf P n p Q)
    (hh : ∀ e, Spends kindOf (fun _ => True) m (h e) Q) :
    Spends kindOf P (n + m) (tryCatch p h) Q := by
  intro partner w hw
  rw [yields_tryCatch]
  refine (hp partner w hw).mono ?_ ?_
  · exact fun b w' hb => ⟨hb.1.mono fun _ => Nat.le_add_right _ _, hb.2⟩
  · intro e w' hs
    refine (hh e partner w' trivial).mono ?_ ?_
    · exact fun c w'' hc => ⟨hs.trans hc.1, hc.2⟩
    · exact fun _ _ hs' => hs.trans hs'

end Rules

end FritzboxVpn.Costs
