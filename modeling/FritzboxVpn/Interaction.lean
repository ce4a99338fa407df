import Mathlib.Tactic.TypeStar

namespace FritzboxVpn.Interaction

variable {σ ρ α ε β γ : Type}

/-- The state of a program that talks to a partner, and what was said so far,
the latest exchange first. -/
@[ext]
structure World (σ ρ α : Type) where
  state : σ
  trace : List (ρ × α)

abbrev Partner (ρ α : Type) : Type := List (ρ × α) → ρ → α

/-- A program with exceptions; the state survives an exception. -/
def Program (σ ρ α ε β : Type) : Type :=
  Partner ρ α → World σ ρ α → Except ε β × World σ ρ α

namespace Program

def ret (b : β) : Program σ ρ α ε β := fun _ w => (.ok b, w)

def andThen (p : Program σ ρ α ε β) (f : β → Program σ ρ α ε γ) : Program σ ρ α ε γ :=
  fun partner w =>
    match p partner w with
    | (.ok b, w') => f b partner w'
    | (.error e, w') => (.error e, w')

def raise (e : ε) : Program σ ρ α ε β := fun _ w => (.error e, w)

def handle (p : Program σ ρ α ε β) (h : ε → Program σ ρ α ε β) : Program σ ρ α ε β :=
  fun partner w =>
    match p partner w with
    | (.ok b, w') => (.ok b, w')
    | (.error e, w') => h e partner w'

instance : Monad (Program σ ρ α ε) where
  pure := ret
  bind := andThen

instance : MonadExceptOf ε (Program σ ρ α ε) where
  throw := raise
  tryCatch := handle

def read : Program σ ρ α ε σ := fun _ w => (.ok w.state, w)

def update (f : σ → σ) : Program σ ρ α ε Unit := fun _ w => (.ok (), { w with state := f w.state })

def request (r : ρ) : Program σ ρ α ε α := fun partner w =>
  (.ok (partner w.trace r), { w with trace := (r, partner w.trace r) :: w.trace })

def ended : Except ε β → Program σ ρ α ε β
  | .ok b => ret b
  | .error e => raise e

end Program

open Program

/-- Every way the program ends meets the condition for that way. -/
def Yields (partner : Partner ρ α) (w : World σ ρ α) (p : Program σ ρ α ε β)
    (ok : β → World σ ρ α → Prop) (err : ε → World σ ρ α → Prop) : Prop :=
  match p partner w with
  | (.ok b, w') => ok b w'
  | (.error e, w') => err e w'

section Rules

variable {partner : Partner ρ α} {w : World σ ρ α} {ok ok' : β → World σ ρ α → Prop}
  {err err' : ε → World σ ρ α → Prop}

theorem Yields.mono {p : Program σ ρ α ε β} (h : Yields partner w p ok err)
    (hok : ∀ b w', ok b w' → ok' b w') (herr : ∀ e w', err e w' → err' e w') :
    Yields partner w p ok' err' := by
  unfold Yields at h ⊢
  revert h
  rcases p partner w with ⟨e | b, w'⟩
  · exact herr e w'
  · exact hok b w'

theorem Yields.error {p : Program σ ρ α ε β} (h : Yields partner w p ok err) {e : ε}
    {w' : World σ ρ α} (hp : p partner w = (.error e, w')) : err e w' := by
  unfold Yields at h
  rw [hp] at h
  exact h

theorem Yields.value {p : Program σ ρ α ε β} (h : Yields partner w p ok err) {b : β}
    {w' : World σ ρ α} (hp : p partner w = (.ok b, w')) : ok b w' := by
  unfold Yields at h
  rw [hp] at h
  exact h

@[simp]
theorem yields_pure {b : β} : Yields partner w (pure b) ok err ↔ ok b w := Iff.rfl

@[simp]
theorem yields_throw {e : ε} : Yields partner w (throw e) ok err ↔ err e w := Iff.rfl

@[simp]
theorem yields_bind {p : Program σ ρ α ε γ} {f : γ → Program σ ρ α ε β} :
    Yields partner w (p >>= f) ok err ↔
      Yields partner w p (fun c w' => Yields partner w' (f c) ok err) err := by
  change Yields partner w (andThen p f) ok err ↔ _
  unfold Yields andThen
  rcases p partner w with ⟨e | c, w'⟩
  · exact Iff.rfl
  · exact Iff.rfl

@[simp]
theorem yields_tryCatch {p : Program σ ρ α ε β} {h : ε → Program σ ρ α ε β} :
    Yields partner w (tryCatch p h) ok err ↔
      Yields partner w p ok (fun e w' => Yields partner w' (h e) ok err) := by
  change Yields partner w (handle p h) ok err ↔ _
  unfold Yields handle
  rcases p partner w with ⟨e | b, w'⟩
  · exact Iff.rfl
  · exact Iff.rfl

@[simp]
theorem yields_read {ok : σ → World σ ρ α → Prop} :
    Yields partner w read ok err ↔ ok w.state w := Iff.rfl

@[simp]
theorem yields_update {f : σ → σ} {ok : Unit → World σ ρ α → Prop} :
    Yields partner w (update f) ok err ↔ ok () { w with state := f w.state } := Iff.rfl

@[simp]
theorem yields_ended {x : Except ε β} :
    Yields partner w (ended x) ok err ↔
      match x with
      | .ok b => ok b w
      | .error e => err e w := by
  cases x <;> exact Iff.rfl

/-- The partner may answer anything, and what it answers is the last exchange. -/
theorem yields_request {r : ρ} {ok : α → World σ ρ α → Prop}
    (h : ∀ a, ok a { w with trace := (r, a) :: w.trace }) :
    Yields partner w (request r) ok err :=
  h (partner w.trace r)

theorem Yields.and {p : Program σ ρ α ε β} (h : Yields partner w p ok err)
    (h' : Yields partner w p ok' err') :
    Yields partner w p (fun b w' => ok b w' ∧ ok' b w') (fun e w' => err e w' ∧ err' e w') := by
  unfold Yields at h h' ⊢
  revert h h'
  rcases p partner w with ⟨e | b, w'⟩
  · exact fun h h' => ⟨h, h'⟩
  · exact fun h h' => ⟨h, h'⟩

theorem bind_of_error {p : Program σ ρ α ε γ} {f : γ → Program σ ρ α ε β} {e : ε} {w' : World σ ρ α}
    (hp : p partner w = (.error e, w')) : (p >>= f) partner w = (.error e, w') := by
  change andThen p f partner w = _
  rw [andThen, hp]

theorem tryCatch_of_ok {p : Program σ ρ α ε β} {h : ε → Program σ ρ α ε β} {b : β}
    {w' : World σ ρ α} (hp : p partner w = (.ok b, w')) :
    (tryCatch p h : Program σ ρ α ε β) partner w = (.ok b, w') := by
  change handle p h partner w = _
  rw [handle, hp]

theorem tryCatch_of_error {p : Program σ ρ α ε β} {h : ε → Program σ ρ α ε β} {e : ε}
    {w' : World σ ρ α} (hp : p partner w = (.error e, w')) :
    (tryCatch p h : Program σ ρ α ε β) partner w = h e partner w' := by
  change handle p h partner w = _
  rw [handle, hp]

theorem yields_request_iff {r : ρ} {ok : α → World σ ρ α → Prop} :
    Yields partner w (request r) ok err ↔
      ok (partner w.trace r) { w with trace := (r, partner w.trace r) :: w.trace } := Iff.rfl

/-- A condition on the result and the world is one on how the program ends. -/
theorem yields_result {p : Program σ ρ α ε β} {P : Except ε β → World σ ρ α → Prop} :
    Yields partner w p (fun b => P (.ok b)) (fun e => P (.error e)) ↔
      P (p partner w).1 (p partner w).2 := by
  unfold Yields
  rcases p partner w with ⟨e | b, w'⟩
  · exact Iff.rfl
  · exact Iff.rfl

theorem yields_world {p : Program σ ρ α ε β} {P : World σ ρ α → Prop} :
    Yields partner w p (fun _ => P) (fun _ => P) ↔ P (p partner w).2 :=
  yields_result (P := fun _ => P)

end Rules

attribute [irreducible] Yields

def Adds (S : ρ → Prop) (w w' : World σ ρ α) : Prop :=
  ∃ made, w'.trace = made ++ w.trace ∧ ∀ x ∈ made, S x.1

def Asks (S : ρ → Prop) (p : Program σ ρ α ε β) : Prop := ∀ partner w, Adds S w (p partner w).2

section Requests

variable {S : ρ → Prop} {w w' w'' : World σ ρ α} {p : Program σ ρ α ε β}

theorem Adds.refl (w : World σ ρ α) : Adds S w w := ⟨[], rfl, fun _ h => absurd h List.not_mem_nil⟩

theorem Adds.trans (h : Adds S w w') (h' : Adds S w' w'') : Adds S w w'' := by
  obtain ⟨made, ht, hS⟩ := h
  obtain ⟨made', ht', hS'⟩ := h'
  refine ⟨made' ++ made, ?_, ?_⟩
  · rw [ht', ht, List.append_assoc]
  · intro x hx
    rcases List.mem_append.mp hx with hx | hx
    · exact hS' x hx
    · exact hS x hx

theorem Adds.mono {T : ρ → Prop} (h : Adds S w w') (hST : ∀ r, S r → T r) : Adds T w w' := by
  obtain ⟨made, ht, hS⟩ := h
  exact ⟨made, ht, fun x hx => hST x.1 (hS x hx)⟩

theorem Asks.mono {T : ρ → Prop} (h : Asks S p) (hST : ∀ r, S r → T r) : Asks T p :=
  fun partner w => (h partner w).mono hST

theorem Asks.yields (h : Asks S p) {partner : Partner ρ α} :
    Yields partner w p (fun _ w' => Adds S w w') (fun _ w' => Adds S w w') :=
  yields_world.mpr (h partner w)

theorem asks_pure {b : β} : Asks S (pure b : Program σ ρ α ε β) := fun _ w => Adds.refl w

theorem asks_throw {e : ε} : Asks S (throw e : Program σ ρ α ε β) := fun _ w => Adds.refl w

theorem asks_read : Asks S (read : Program σ ρ α ε σ) := fun _ w => Adds.refl w

theorem asks_update {f : σ → σ} : Asks S (update f : Program σ ρ α ε Unit) :=
  fun _ _ => ⟨[], rfl, fun _ h => absurd h List.not_mem_nil⟩

theorem asks_ended {x : Except ε β} : Asks S (ended x : Program σ ρ α ε β) := by
  cases x with
  | ok b => exact asks_pure
  | error e => exact asks_throw

theorem asks_request {r : ρ} (h : S r) : Asks S (request r : Program σ ρ α ε α) :=
  fun partner w => ⟨[(r, partner w.trace r)], rfl, fun x hx => by
    rw [List.mem_singleton.mp hx]
    exact h⟩

theorem Asks.bind {f : β → Program σ ρ α ε γ} (hp : Asks S p) (hf : ∀ b, Asks S (f b)) :
    Asks S (p >>= f) := by
  intro partner w
  apply yields_world.mp
  rw [yields_bind]
  refine hp.yields.mono ?_ fun _ _ h => h
  intro b w' hw'
  exact (hf b).yields.mono (fun _ _ h => hw'.trans h) fun _ _ h => hw'.trans h

theorem Asks.tryCatch {h : ε → Program σ ρ α ε β} (hp : Asks S p) (hh : ∀ e, Asks S (h e)) :
    Asks S (tryCatch p h) := by
  intro partner w
  apply yields_world.mp
  rw [yields_tryCatch]
  refine hp.yields.mono (fun _ _ h => h) ?_
  intro e w' hw'
  exact (hh e).yields.mono (fun _ _ h => hw'.trans h) fun _ _ h => hw'.trans h

def Opens (r : ρ) (p : Program σ ρ α ε β) (w : World σ ρ α) : Prop :=
  ∀ partner, ∃ made a, (p partner w).2.trace = made ++ (r, a) :: w.trace

theorem Opens.yields {r : ρ} (h : Opens r p w) {partner : Partner ρ α} :
    Yields partner w p (fun _ w' => ∃ made a, w'.trace = made ++ (r, a) :: w.trace)
      (fun _ w' => ∃ made a, w'.trace = made ++ (r, a) :: w.trace) :=
  yields_world.mpr (h partner)

theorem opens_request {r : ρ} : Opens r (request r : Program σ ρ α ε α) w :=
  fun partner => ⟨[], partner w.trace r, rfl⟩

theorem opens_read {r : ρ} {f : σ → Program σ ρ α ε β} (h : Opens r (f w.state) w) :
    Opens r (read >>= f) w := h

theorem Opens.of_adds {r : ρ} {S : ρ → Prop}
    (h : ∀ partner, ∃ w', (∃ made a, w'.trace = made ++ (r, a) :: w.trace) ∧
      Adds S w' (p partner w).2) : Opens r p w := by
  intro partner
  obtain ⟨w', ⟨made, a, ht⟩, made', ht', -⟩ := h partner
  exact ⟨made' ++ made, a, by rw [ht', ht, List.append_assoc]⟩

theorem Opens.bind {r : ρ} {f : β → Program σ ρ α ε γ} (hp : Opens r p w)
    (hf : ∀ b, Asks S (f b)) : Opens r (p >>= f) w := by
  refine Opens.of_adds (S := S) fun partner => ⟨(p partner w).2, hp partner, ?_⟩
  apply yields_world.mp
  rw [yields_bind]
  refine (yields_world (P := (· = (p partner w).2))).mpr rfl |>.mono ?_ ?_
  · rintro b _ rfl
    exact (hf b).yields
  · rintro e _ rfl
    exact Adds.refl _

theorem Opens.tryCatch {r : ρ} {h : ε → Program σ ρ α ε β} (hp : Opens r p w)
    (hh : ∀ e, Asks S (h e)) : Opens r (tryCatch p h) w := by
  refine Opens.of_adds (S := S) fun partner => ⟨(p partner w).2, hp partner, ?_⟩
  apply yields_world.mp
  rw [yields_tryCatch]
  refine (yields_world (P := (· = (p partner w).2))).mpr rfl |>.mono ?_ ?_
  · rintro b _ rfl
    exact Adds.refl _
  · rintro e _ rfl
    exact (hh e).yields

end Requests

end FritzboxVpn.Interaction
