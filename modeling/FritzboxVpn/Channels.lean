import FritzboxVpn.Interaction

namespace FritzboxVpn.Channels

open Interaction Interaction.Program

variable {σ σ' ρ ρ' α α' ε ε' β : Type}

/-- How the conversation of a part shows in the conversation of the whole: its requests
are among those of the whole, and a reply of the whole holds the answer for the part. -/
structure Channel (ρ ρ' α α' : Type) where
  ask : ρ → ρ'
  wrap : α → α'
  answer : α' → α
  part : ρ' → Option ρ
  answer_wrap : ∀ a, answer (wrap a) = a
  part_ask : ∀ r, part (ask r) = some r

namespace Channel

variable (ch : Channel ρ ρ' α α')

def exchange (x : ρ × α) : ρ' × α' := (ch.ask x.1, ch.wrap x.2)

def trace (whole : List (ρ' × α')) : List (ρ × α) :=
  whole.filterMap fun x => (ch.part x.1).map fun r => (r, ch.answer x.2)

def partner (whole : Partner ρ' α') (before : List (ρ' × α')) : Partner ρ α := fun made r =>
  ch.answer (whole (made.map ch.exchange ++ before) (ch.ask r))

def run (p : Program σ ρ α ε β) (s : σ) (put : σ → σ' → σ') (raised : ε → ε') :
    Program σ' ρ' α' ε' β := fun whole w =>
  match p (ch.partner whole w.trace) ⟨s, []⟩ with
  | (.ok b, inner) => (.ok b, ⟨put inner.state w.state, inner.trace.map ch.exchange ++ w.trace⟩)
  | (.error e, inner) =>
      (.error (raised e), ⟨put inner.state w.state, inner.trace.map ch.exchange ++ w.trace⟩)

variable {ch}

@[simp]
theorem trace_append (made before : List (ρ' × α')) :
    ch.trace (made ++ before) = ch.trace made ++ ch.trace before :=
  List.filterMap_append

/-- What the part said shows in the whole as it was. -/
@[simp]
theorem trace_exchanges (made : List (ρ × α)) : ch.trace (made.map ch.exchange) = made := by
  induction made with
  | nil => rfl
  | cons x made ih =>
      have hx : (ch.part (ch.exchange x).1).map (fun r => (r, ch.answer (ch.exchange x).2)) = some x := by
        rw [exchange, ch.part_ask, Option.map_some, ch.answer_wrap]
      change (List.filterMap _ (ch.exchange x :: made.map ch.exchange)) = x :: made
      rw [List.filterMap_cons, hx]
      exact congrArg (x :: ·) ih

section Run

variable {p : Program σ ρ α ε β} {s : σ} {put : σ → σ' → σ'} {raised : ε → ε'}
  {whole : Partner ρ' α'} {w : World σ' ρ' α'} {inner : World σ ρ α}

theorem run_of_ok {b : β} (h : p (ch.partner whole w.trace) ⟨s, []⟩ = (.ok b, inner)) :
    ch.run p s put raised whole w =
      (.ok b, ⟨put inner.state w.state, inner.trace.map ch.exchange ++ w.trace⟩) := by
  rw [run, h]

theorem run_of_error {e : ε} (h : p (ch.partner whole w.trace) ⟨s, []⟩ = (.error e, inner)) :
    ch.run p s put raised whole w =
      (.error (raised e), ⟨put inner.state w.state, inner.trace.map ch.exchange ++ w.trace⟩) := by
  rw [run, h]

/-- The whole ends as the part does. -/
theorem yields_run_of {ok : β → World σ' ρ' α' → Prop} {err : ε' → World σ' ρ' α' → Prop}
    {result : Except ε β} (h : p (ch.partner whole w.trace) ⟨s, []⟩ = (result, inner))
    (hok : ∀ b, result = .ok b →
      ok b ⟨put inner.state w.state, inner.trace.map ch.exchange ++ w.trace⟩)
    (herr : ∀ e, result = .error e →
      err (raised e) ⟨put inner.state w.state, inner.trace.map ch.exchange ++ w.trace⟩) :
    Yields whole w (ch.run p s put raised) ok err := by
  unfold Yields
  cases result with
  | ok b =>
      rw [run_of_ok h]
      exact hok b rfl
  | error e =>
      rw [run_of_error h]
      exact herr e rfl

/-- The whole only sees the state of the part and its exchanges. -/
theorem yields_run {ok : β → World σ' ρ' α' → Prop} {err : ε' → World σ' ρ' α' → Prop}
    (hok : ∀ b t (made : List (ρ × α)), ok b ⟨put t w.state, made.map ch.exchange ++ w.trace⟩)
    (herr : ∀ e t (made : List (ρ × α)),
      err (raised e) ⟨put t w.state, made.map ch.exchange ++ w.trace⟩) :
    Yields whole w (ch.run p s put raised) ok err :=
  yields_run_of rfl (fun b _ => hok b _ _) fun e _ => herr e _ _

end Run

end Channel

end FritzboxVpn.Channels
