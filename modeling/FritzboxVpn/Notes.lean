import FritzboxVpn.Interaction

namespace FritzboxVpn.Notes

open Interaction Interaction.Program

variable {σ τ ρ α ε β γ : Type}

def unnoted (w : World (σ × τ) ρ α) : World σ ρ α := ⟨w.state.1, w.trace⟩

def noted (w : World σ ρ α) (notes : τ) : World (σ × τ) ρ α := ⟨(w.state, notes), w.trace⟩

def silently (p : Program σ ρ α ε β) : Program (σ × τ) ρ α ε β := fun partner w =>
  ((p partner (unnoted w)).1, noted (p partner (unnoted w)).2 w.state.2)

def note (f : List (ρ × α) → τ → τ) : Program (σ × τ) ρ α ε Unit := fun _ w =>
  (.ok (), noted (unnoted w) (f w.trace w.state.2))

/-- With the notes forgotten the one program is the other. -/
def Forgets (p' : Program (σ × τ) ρ α ε β) (p : Program σ ρ α ε β) : Prop :=
  ∀ partner w, (p' partner w).1 = (p partner (unnoted w)).1 ∧
    unnoted (p' partner w).2 = (p partner (unnoted w)).2

section Rules

variable {p : Program σ ρ α ε β} {p' : Program (σ × τ) ρ α ε β} {partner : Partner ρ α}
  {w : World (σ × τ) ρ α} {ok : β → World (σ × τ) ρ α → Prop} {err : ε → World (σ × τ) ρ α → Prop}

@[simp]
theorem unnoted_noted (w : World σ ρ α) (notes : τ) : unnoted (noted w notes) = w := rfl

@[simp]
theorem noted_state (w : World σ ρ α) (notes : τ) : (noted w notes).state = (w.state, notes) := rfl

@[simp]
theorem noted_trace (w : World σ ρ α) (notes : τ) : (noted w notes).trace = w.trace := rfl

theorem yields_silently : Yields partner w (silently p) ok err ↔
    Yields partner (unnoted w) p (fun b w' => ok b (noted w' w.state.2))
      (fun e w' => err e (noted w' w.state.2)) := by
  unfold Yields silently
  rcases p partner (unnoted w) with ⟨e | b, w'⟩
  · exact Iff.rfl
  · exact Iff.rfl

theorem yields_note {f : List (ρ × α) → τ → τ} {ok : Unit → World (σ × τ) ρ α → Prop} :
    Yields partner w (note f) ok err ↔ ok () (noted (unnoted w) (f w.trace w.state.2)) := by
  unfold Yields note
  exact Iff.rfl

theorem Forgets.result (h : Forgets p' p) (partner : Partner ρ α) (w : World (σ × τ) ρ α) :
    (p' partner w).1 = (p partner (unnoted w)).1 :=
  (h partner w).1

theorem Forgets.world (h : Forgets p' p) (partner : Partner ρ α) (w : World (σ × τ) ρ α) :
    unnoted (p' partner w).2 = (p partner (unnoted w)).2 :=
  (h partner w).2

theorem forgets_silently (p : Program σ ρ α ε β) : Forgets (silently p : Program (σ × τ) ρ α ε β) p :=
  fun _ _ => ⟨rfl, rfl⟩

theorem forgets_pure (b : β) : Forgets (pure b : Program (σ × τ) ρ α ε β) (pure b) :=
  fun _ _ => ⟨rfl, rfl⟩

theorem forgets_throw (e : ε) : Forgets (throw e : Program (σ × τ) ρ α ε β) (throw e) :=
  fun _ _ => ⟨rfl, rfl⟩

theorem forgets_ended (x : Except ε β) : Forgets (ended x : Program (σ × τ) ρ α ε β) (ended x) := by
  cases x with
  | ok b => exact forgets_pure b
  | error e => exact forgets_throw e

theorem Forgets.bind {q' : β → Program (σ × τ) ρ α ε γ} {q : β → Program σ ρ α ε γ}
    (h : Forgets p' p) (hq : ∀ b, Forgets (q' b) (q b)) : Forgets (p' >>= q') (p >>= q) := by
  intro partner w
  obtain ⟨hresult, hworld⟩ := h partner w
  change ((andThen p' q') partner w).1 = ((andThen p q) partner (unnoted w)).1 ∧
    unnoted ((andThen p' q') partner w).2 = ((andThen p q) partner (unnoted w)).2
  rw [andThen, andThen]
  revert hresult hworld
  rcases p' partner w with ⟨e' | b', w'⟩ <;> rcases p partner (unnoted w) with ⟨e | b, v⟩
  · exact fun hresult hworld => ⟨congrArg _ (Except.error.inj hresult), hworld⟩
  · exact fun hresult => by cases hresult
  · exact fun hresult => by cases hresult
  · rintro hresult rfl
    cases hresult
    exact hq b' partner w'

theorem Forgets.tryCatch {h' : ε → Program (σ × τ) ρ α ε β} {h : ε → Program σ ρ α ε β}
    (hp : Forgets p' p) (hh : ∀ e, Forgets (h' e) (h e)) :
    Forgets (tryCatch p' h') (tryCatch p h) := by
  intro partner w
  obtain ⟨hresult, hworld⟩ := hp partner w
  change ((handle p' h') partner w).1 = ((handle p h) partner (unnoted w)).1 ∧
    unnoted ((handle p' h') partner w).2 = ((handle p h) partner (unnoted w)).2
  rw [handle, handle]
  revert hresult hworld
  rcases p' partner w with ⟨e' | b', w'⟩ <;> rcases p partner (unnoted w) with ⟨e | b, v⟩
  · rintro hresult rfl
    cases hresult
    exact hh e' partner w'
  · exact fun hresult => by cases hresult
  · exact fun hresult => by cases hresult
  · exact fun hresult hworld => ⟨congrArg _ (Except.ok.inj hresult), hworld⟩

theorem Forgets.then_note {p : Program σ ρ α ε Unit} {p' : Program (σ × τ) ρ α ε Unit}
    (h : Forgets p' p) (f : List (ρ × α) → τ → τ) : Forgets (p' >>= fun _ => note f) p := by
  intro partner w
  obtain ⟨hresult, hworld⟩ := h partner w
  change ((andThen p' fun _ => note f) partner w).1 = _ ∧
    unnoted ((andThen p' fun _ => note f) partner w).2 = _
  rw [andThen]
  revert hresult hworld
  rcases p' partner w with ⟨e | b, w'⟩
  · exact fun hresult hworld => ⟨hresult, hworld⟩
  · exact fun hresult hworld => ⟨hresult, hworld⟩

end Rules

end FritzboxVpn.Notes
