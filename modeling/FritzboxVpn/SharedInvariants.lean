import FritzboxVpn.Pools

namespace FritzboxVpn.SharedInvariants

open Pools Runs Tasks Tasks.Task

variable {σ ρ α ε β γ : Type}

/-- A condition on the state that tasks share and one on what is asked for, after what
was said so far; what is said later does not spoil them. -/
structure Invariant (σ ρ α : Type) where
  holds : List (ρ × α) → σ → Prop
  asks : List (ρ × α) → ρ → Prop
  mono : ∀ said later s, said ⊆ later → holds said s → holds later s
  asks_mono : ∀ said later r, said ⊆ later → asks said r → asks later r

/-- From the state on the task keeps the invariant wherever it waits, whatever the
others do meanwhile, and ends as the conditions say. -/
def Preserves (I : Invariant σ ρ α) : List (ρ × α) → σ → Task σ ρ α ε β →
    (List (ρ × α) → σ → β → Prop) → (List (ρ × α) → σ → ε → Prop) → Prop
  | said, s, .ret b, ok, _ => ok said s b
  | said, s, .raise e, _, err => err said s e
  | said, s, .look k, ok, err => Preserves I said s (k s) ok err
  | said, s, .change f t, ok, err => Preserves I said (f s) t ok err
  | said, s, .ask r k, ok, err => I.holds said s ∧ I.asks said r ∧ ∀ a later s', (r, a) ∈ later →
      said ⊆ later → I.holds later s' → Preserves I later s' (k a) ok err
  | said, s, .pause t, ok, err => I.holds said s ∧ ∀ later s', said ⊆ later → I.holds later s' →
      Preserves I later s' t ok err

section Rules

variable {I : Invariant σ ρ α} {said : List (ρ × α)} {s : σ}
  {ok ok' : List (ρ × α) → σ → β → Prop} {err err' : List (ρ × α) → σ → ε → Prop}

theorem Preserves.mono {t : Task σ ρ α ε β} (h : Preserves I said s t ok err)
    (hok : ∀ said s b, ok said s b → ok' said s b) (herr : ∀ said s e, err said s e → err' said s e) :
    Preserves I said s t ok' err' := by
  induction t generalizing said s with
  | ret b => exact hok said s b h
  | raise e => exact herr said s e h
  | look k ih => exact ih s h
  | change f t ih => exact ih h
  | ask r k ih => exact ⟨h.1, h.2.1, fun a later s' ha hsub hs => ih a (h.2.2 a later s' ha hsub hs)⟩
  | pause t ih => exact ⟨h.1, fun later s' hsub hs => ih (h.2 later s' hsub hs)⟩

@[simp]
theorem preserves_pure {b : β} : Preserves I said s (pure b : Task σ ρ α ε β) ok err ↔ ok said s b :=
  Iff.rfl

@[simp]
theorem preserves_throw {e : ε} : Preserves I said s (throw e : Task σ ρ α ε β) ok err ↔ err said s e :=
  Iff.rfl

@[simp]
theorem preserves_read {ok : List (ρ × α) → σ → σ → Prop} :
    Preserves I said s (Task.read : Task σ ρ α ε σ) ok err ↔ ok said s s := Iff.rfl

@[simp]
theorem preserves_update {f : σ → σ} {ok : List (ρ × α) → σ → Unit → Prop} :
    Preserves I said s (Task.update f : Task σ ρ α ε Unit) ok err ↔ ok said (f s) () := Iff.rfl

@[simp]
theorem preserves_request {r : ρ} {ok : List (ρ × α) → σ → α → Prop} :
    Preserves I said s (Task.request r : Task σ ρ α ε α) ok err ↔
      I.holds said s ∧ I.asks said r ∧
        ∀ a later s', (r, a) ∈ later → said ⊆ later → I.holds later s' → ok later s' a :=
  Iff.rfl

@[simp]
theorem preserves_pause {t : Task σ ρ α ε β} : Preserves I said s (.pause t) ok err ↔
    I.holds said s ∧ ∀ later s', said ⊆ later → I.holds later s' → Preserves I later s' t ok err := Iff.rfl

theorem preserves_ended {x : Except ε β} (hok : ∀ b, x = .ok b → ok said s b)
    (herr : ∀ e, x = .error e → err said s e) :
    Preserves I said s (Task.ended x : Task σ ρ α ε β) ok err := by
  cases x with
  | ok b => exact hok b rfl
  | error e => exact herr e rfl

@[simp]
theorem preserves_bind {t : Task σ ρ α ε γ} {f : γ → Task σ ρ α ε β} :
    Preserves I said s (t >>= f) ok err ↔
      Preserves I said s t (fun said s c => Preserves I said s (f c) ok err) err := by
  change Preserves I said s (andThen t f) ok err ↔ _
  induction t generalizing said s with
  | ret b => exact Iff.rfl
  | raise e => exact Iff.rfl
  | look k ih => exact ih s
  | change g t ih => exact ih
  | ask r k ih =>
      exact and_congr_right fun _ => and_congr_right fun _ => forall₃_congr fun a _ _ =>
        forall₃_congr fun _ _ _ => ih a
  | pause t ih => exact and_congr_right fun _ => forall₂_congr fun _ _ => forall₂_congr fun _ _ => ih

@[simp]
theorem preserves_tryCatch {t : Task σ ρ α ε β} {h : ε → Task σ ρ α ε β} :
    Preserves I said s (tryCatch t h) ok err ↔
      Preserves I said s t ok fun said s e => Preserves I said s (h e) ok err := by
  change Preserves I said s (handle t h) ok err ↔ _
  induction t generalizing said s with
  | ret b => exact Iff.rfl
  | raise e => exact Iff.rfl
  | look k ih => exact ih s
  | change g t ih => exact ih
  | ask r k ih =>
      exact and_congr_right fun _ => and_congr_right fun _ => forall₃_congr fun a _ _ =>
        forall₃_congr fun _ _ _ => ih a
  | pause t ih => exact and_congr_right fun _ => forall₂_congr fun _ _ => forall₂_congr fun _ _ => ih

end Rules

def Maintains (I : Invariant σ ρ α) (said : List (ρ × α)) (s : σ) (t : Task σ ρ α ε β)
    (ok : List (ρ × α) → β → Prop) (err : ε → Prop) : Prop :=
  Preserves I said s t (fun later s' b => said ⊆ later ∧ I.holds later s' ∧ ok later b)
    fun later s' e => said ⊆ later ∧ I.holds later s' ∧ err e

section Maintains

variable {I : Invariant σ ρ α} {said : List (ρ × α)} {s : σ} {ok : List (ρ × α) → β → Prop}
  {err : ε → Prop}

theorem maintains_pure (hs : I.holds said s) {b : β} (h : ok said b) :
    Maintains I said s (pure b : Task σ ρ α ε β) ok err :=
  preserves_pure.mpr ⟨List.Subset.refl _, hs, h⟩

theorem maintains_throw (hs : I.holds said s) {e : ε} (h : err e) :
    Maintains I said s (throw e : Task σ ρ α ε β) ok err :=
  preserves_throw.mpr ⟨List.Subset.refl _, hs, h⟩

theorem maintains_ended (hs : I.holds said s) {x : Except ε β} (hok : ∀ b, x = .ok b → ok said b)
    (herr : ∀ e, x = .error e → err e) : Maintains I said s (Task.ended x) ok err :=
  preserves_ended (fun b hb => ⟨List.Subset.refl _, hs, hok b hb⟩) fun e he =>
    ⟨List.Subset.refl _, hs, herr e he⟩

theorem maintains_request (hs : I.holds said s) {r : ρ} (hr : I.asks said r)
    {ok : List (ρ × α) → α → Prop} (h : ∀ a later, (r, a) ∈ later → ok later a) :
    Maintains I said s (Task.request r : Task σ ρ α ε α) ok err :=
  preserves_request.mpr ⟨hs, hr, fun a later _ ha hsub hs' => ⟨hsub, hs', h a later ha⟩⟩

theorem maintains_update {f : σ → σ} (hs : I.holds said (f s)) {ok : List (ρ × α) → Unit → Prop}
    (h : ok said ()) : Maintains I said s (Task.update f : Task σ ρ α ε Unit) ok err :=
  preserves_update.mpr ⟨List.Subset.refl _, hs, h⟩

theorem Maintains.pause {t : Task σ ρ α ε β} (hs : I.holds said s)
    (h : ∀ later s', said ⊆ later → I.holds later s' → Maintains I later s' t ok err) :
    Maintains I said s (.pause t) ok err := by
  refine preserves_pause.mpr ⟨hs, fun later s' hsub hs' => Preserves.mono (h later s' hsub hs') ?_ ?_⟩
  · exact fun _ _ _ hb => ⟨fun _ hx => hb.1 (hsub hx), hb.2⟩
  · exact fun _ _ _ he => ⟨fun _ hx => he.1 (hsub hx), he.2⟩

theorem Maintains.bind {t : Task σ ρ α ε γ} {f : γ → Task σ ρ α ε β} {m : List (ρ × α) → γ → Prop}
    (h : Maintains I said s t m err)
    (hf : ∀ later s' c, said ⊆ later → I.holds later s' → m later c →
      Maintains I later s' (f c) ok err) : Maintains I said s (t >>= f) ok err := by
  rw [Maintains, preserves_bind]
  refine Preserves.mono h ?_ fun _ _ _ he => he
  rintro later s' c ⟨hsub, hs', hc⟩
  refine Preserves.mono (hf later s' c hsub hs' hc) ?_ ?_
  · exact fun _ _ _ hb => ⟨fun _ hx => hb.1 (hsub hx), hb.2⟩
  · exact fun _ _ _ he => ⟨fun _ hx => he.1 (hsub hx), he.2⟩

theorem Maintains.tryCatch {t : Task σ ρ α ε β} {h : ε → Task σ ρ α ε β} {E : ε → Prop}
    (ht : Maintains I said s t ok E)
    (hh : ∀ later s' e, said ⊆ later → I.holds later s' → E e →
      Maintains I later s' (h e) ok err) : Maintains I said s (tryCatch t h) ok err := by
  rw [Maintains, preserves_tryCatch]
  refine Preserves.mono ht (fun _ _ _ hb => hb) ?_
  rintro later s' e ⟨hsub, hs', he⟩
  refine Preserves.mono (hh later s' e hsub hs' he) ?_ ?_
  · exact fun _ _ _ hb => ⟨fun _ hx => hb.1 (hsub hx), hb.2⟩
  · exact fun _ _ _ he => ⟨fun _ hx => he.1 (hsub hx), he.2⟩

/-- A block that waits once more when it is left. -/
theorem Maintains.leaving {t : Task σ ρ α ε β} (h : Maintains I said s t ok err)
    (hmono : ∀ later latest b, later ⊆ latest → ok later b → ok latest b) :
    Maintains I said s (leaving t) ok err := by
  refine Maintains.tryCatch (Maintains.bind h ?_) ?_
  · intro later s' b _ hs' hb
    exact Maintains.pause hs' fun latest s'' hsub hs'' => maintains_pure hs'' (hmono _ _ _ hsub hb)
  · intro later s' e _ hs' he
    exact Maintains.pause hs' fun latest s'' _ hs'' => maintains_throw hs'' he

end Maintains

def Ensures (I : Invariant σ ρ α) (said : List (ρ × α)) (t : Task σ ρ α ε β)
    (ok : List (ρ × α) → β → Prop) : Prop :=
  ∀ later s, said ⊆ later → I.holds later s → Maintains I later s t ok fun _ => True

section Ensures

variable {I : Invariant σ ρ α} {said : List (ρ × α)} {ok : List (ρ × α) → β → Prop}

theorem Ensures.later {t : Task σ ρ α ε β} {said' : List (ρ × α)} (h : Ensures I said t ok)
    (hsub : said ⊆ said') : Ensures I said' t ok :=
  fun later s hlater => h later s fun _ hx => hlater (hsub hx)

theorem ensures_pure {b : β} (h : ∀ later, said ⊆ later → ok later b) :
    Ensures I said (pure b : Task σ ρ α ε β) ok :=
  fun later _ hsub hs => maintains_pure hs (h later hsub)

theorem ensures_throw {e : ε} : Ensures I said (throw e : Task σ ρ α ε β) ok :=
  fun _ _ _ hs => maintains_throw hs trivial

theorem ensures_ended {x : Except ε β} (h : ∀ b, x = .ok b → ∀ later, said ⊆ later → ok later b) :
    Ensures I said (Task.ended x) ok :=
  fun later _ hsub hs => maintains_ended hs (fun b hb => h b hb later hsub) fun _ _ => trivial

theorem ensures_update {f : σ → σ} {ok : List (ρ × α) → Unit → Prop}
    (hf : ∀ later s, said ⊆ later → I.holds later s → I.holds later (f s))
    (h : ∀ later, said ⊆ later → ok later ()) :
    Ensures I said (Task.update f : Task σ ρ α ε Unit) ok :=
  fun later s hsub hs => maintains_update (hf later s hsub hs) (h later hsub)

theorem ensures_request {r : ρ} (hr : I.asks said r) {ok : List (ρ × α) → α → Prop}
    (h : ∀ a later, said ⊆ later → (r, a) ∈ later → ok later a) :
    Ensures I said (Task.request r : Task σ ρ α ε α) ok := by
  intro now s hnow hs
  refine preserves_request.mpr ⟨hs, I.asks_mono _ _ _ hnow hr, fun a later s' ha hsub hs' => ?_⟩
  exact ⟨hsub, hs', h a later (fun _ hx => hsub (hnow hx)) ha⟩

theorem ensures_read_bind {f : σ → Task σ ρ α ε β}
    (hf : ∀ later s, said ⊆ later → I.holds later s → Ensures I later (f s) ok) :
    Ensures I said (Task.read >>= f) ok := by
  intro later s hsub hs
  rw [Maintains, preserves_bind, preserves_read]
  exact hf later s hsub hs later s (List.Subset.refl _) hs

theorem Ensures.bind {t : Task σ ρ α ε γ} {f : γ → Task σ ρ α ε β} {m : List (ρ × α) → γ → Prop}
    (h : Ensures I said t m) (hf : ∀ later c, said ⊆ later → m later c → Ensures I later (f c) ok) :
    Ensures I said (t >>= f) ok := by
  intro now s hnow hs
  refine Maintains.bind (h now s hnow hs) fun later s' c hsub hs' hc => ?_
  exact hf later c (fun _ hx => hsub (hnow hx)) hc later s' (List.Subset.refl _) hs'

theorem Ensures.tryCatch {t : Task σ ρ α ε β} {h : ε → Task σ ρ α ε β} (ht : Ensures I said t ok)
    (hh : ∀ e, Ensures I said (h e) ok) : Ensures I said (tryCatch t h) ok := by
  intro now s hnow hs
  refine Maintains.tryCatch (ht now s hnow hs) fun later s' e hsub hs' _ => ?_
  exact hh e later s' (fun _ hx => hsub (hnow hx)) hs'

theorem Ensures.pause {t : Task σ ρ α ε β} (h : Ensures I said t ok) : Ensures I said (.pause t) ok :=
  fun _ _ hnow hs => Maintains.pause hs fun later s' hsub hs' =>
    h later s' (fun _ hx => hsub (hnow hx)) hs'

theorem Ensures.leaving {t : Task σ ρ α ε β} (h : Ensures I said t ok)
    (hmono : ∀ later latest b, later ⊆ latest → ok later b → ok latest b) :
    Ensures I said (leaving t) ok :=
  fun now s hnow hs => Maintains.leaving (h now s hnow hs) hmono

theorem Ensures.weaken {t : Task σ ρ α ε β} {ok' : List (ρ × α) → β → Prop} (h : Ensures I said t ok)
    (hok : ∀ later b, ok later b → ok' later b) : Ensures I said t ok' :=
  fun now s hnow hs => Preserves.mono (h now s hnow hs) (fun _ _ b hb => ⟨hb.1, hb.2.1, hok _ b hb.2.2⟩)
    fun _ _ _ he => he

end Ensures

def Respects (I : Invariant σ ρ α) (Q : β → Prop) (said : List (ρ × α)) (t : Task σ ρ α ε β) : Prop :=
  ∀ later s, said ⊆ later → I.holds later s →
    Preserves I later s t (fun said s b => I.holds said s ∧ Q b) fun said s _ => I.holds said s

theorem Ensures.respects {I : Invariant σ ρ α} {said : List (ρ × α)} {t : Task σ ρ α ε β}
    {ok : List (ρ × α) → β → Prop} (h : Ensures I said t ok) : Respects I (fun _ => True) said t :=
  fun later s hsub hs => Preserves.mono (h later s hsub hs) (fun _ _ _ hb => ⟨hb.2.1, trivial⟩)
    fun _ _ _ he => he.2.1

theorem Respects.later {I : Invariant σ ρ α} {Q : β → Prop} {said said' : List (ρ × α)}
    {t : Task σ ρ α ε β} (h : Respects I Q said t) (hsub : said ⊆ said') : Respects I Q said' t :=
  fun later s hlater => h later s fun _ hx => hlater (hsub hx)

/-- What a task does before it waits keeps the invariant, and so will what is left. -/
theorem advance_respects {I : Invariant σ ρ α} {Q : β → Prop} {said : List (ρ × α)} {s : σ}
    {t : Task σ ρ α ε β}
    (h : Preserves I said s t (fun said s b => I.holds said s ∧ Q b) fun said s _ => I.holds said s) :
    I.holds said (advance s t).1 ∧ Respects I Q said (advance s t).2 := by
  induction t generalizing s with
  | ret b => exact ⟨h.1, fun _ _ _ hs => ⟨hs, h.2⟩⟩
  | raise e => exact ⟨h, fun _ _ _ hs => hs⟩
  | look k ih => exact ih s h
  | change f t ih => exact ih h
  | ask r k ih =>
      refine ⟨h.1, fun later s' hlater hs =>
        ⟨hs, I.asks_mono _ _ _ hlater h.2.1, fun a latest s'' ha hlatest => ?_⟩⟩
      exact h.2.2 a latest s'' ha fun _ hx => hlatest (hlater hx)
  | pause t ih =>
      refine ⟨h.1, fun later s' hlater hs => ⟨hs, fun latest s'' hlatest => ?_⟩⟩
      exact h.2 latest s'' fun _ hx => hlatest (hlater hx)

structure Sound (I : Invariant σ ρ α) (Q : β → Prop) (p : Pool σ ρ α ε β) : Prop where
  holds : I.holds p.trace p.shared
  asked : ∀ r a earlier, (r, a) :: earlier <:+ p.trace → I.asks earlier r
  respects : ∀ th ∈ p.threads, Respects I Q p.trace th.task

/-- Whatever a resumed thread does next keeps the invariant. -/
theorem Sound.resume {I : Invariant σ ρ α} {Q : β → Prop} {p : Pool σ ρ α ε β} (h : Sound I Q p)
    {th : Thread σ ρ α ε β} (hth : th ∈ p.threads) (a : α) :
    Preserves I ((th.resume a).1.toList ++ p.trace) p.shared (th.resume a).2
      (fun said s b => I.holds said s ∧ Q b) fun said s _ => I.holds said s := by
  have hrespects := h.respects th hth
  obtain ⟨begun, task⟩ := th
  have hsame := hrespects p.trace p.shared (List.Subset.refl _) h.holds
  cases begun with
  | false => exact hsame
  | true =>
      cases task with
      | ask r k =>
          have hsub : p.trace ⊆ (r, a) :: p.trace := List.subset_cons_self _ _
          exact hsame.2.2 a _ _ List.mem_cons_self hsub (I.mono _ _ _ hsub h.holds)
      | pause t => exact hsame.2 _ _ (List.Subset.refl _) h.holds
      | ret b => exact hsame
      | raise e => exact hsame
      | look k => exact hsame
      | change f t => exact hsame

/-- What a resumed thread has asked for could be asked for. -/
theorem Sound.resume_asked {I : Invariant σ ρ α} {Q : β → Prop} {p : Pool σ ρ α ε β} (h : Sound I Q p)
    {th : Thread σ ρ α ε β} (hth : th ∈ p.threads) (a : α) :
    ∀ r b earlier, (r, b) :: earlier <:+ (th.resume a).1.toList ++ p.trace → I.asks earlier r := by
  have hrespects := h.respects th hth p.trace p.shared (List.Subset.refl _) h.holds
  obtain ⟨begun, task⟩ := th
  cases begun with
  | false => exact h.asked
  | true =>
      cases task with
      | ask r k =>
          intro r' b earlier hsuffix
          rcases List.suffix_cons_iff.mp hsuffix with heq | hsuffix
          · cases heq
            exact hrespects.2.1
          · exact h.asked r' b earlier hsuffix
      | pause t => exact h.asked
      | ret b => exact h.asked
      | raise e => exact h.asked
      | look k => exact h.asked
      | change f t => exact h.asked

theorem Sound.step {I : Invariant σ ρ α} {Q : β → Prop} {p : Pool σ ρ α ε β} (h : Sound I Q p)
    (i : Nat × α) : Sound I Q (p.step i).2 := by
  rw [Pool.step]
  cases hth : p.threads[i.1]? with
  | none => exact h
  | some th =>
      have hmem := List.mem_of_getElem? hth
      obtain ⟨hholds, hrest⟩ := advance_respects (h.resume hmem i.2)
      refine ⟨hholds, h.resume_asked hmem i.2, fun th' hth' => ?_⟩
      rcases List.mem_or_eq_of_mem_set hth' with hmem | rfl
      · exact (h.respects th' hmem).later (List.subset_append_right _ _)
      · exact hrest

/-- In every run of such tasks, in whatever order they are resumed and whatever they
are answered, the invariant holds and all results meet the condition. -/
theorem run_sound {I : Invariant σ ρ α} {Q : β → Prop} {s : σ} {tasks : List (Task σ ρ α ε β)}
    (hs : I.holds [] s) (htasks : ∀ t ∈ tasks, Respects I Q [] t)
    {hist : List (Record (Pool σ ρ α ε β) (Nat × α) (Option (ρ × α)))} {p : Pool σ ρ α ε β}
    (h : Run (Pool.machine s tasks) hist p) : Sound I Q p := by
  refine Run.invariant (P := fun _ p => Sound I Q p) ⟨hs, fun r a earlier hsuffix => ?_, fun th hth => ?_⟩
    ?_ h
  · exact absurd (List.eq_nil_of_suffix_nil hsuffix) (List.cons_ne_nil _ _)
  · obtain ⟨t, ht, rfl⟩ := List.mem_map.mp hth
    exact htasks t ht
  · exact fun _ _ i _ hsound => hsound.step i

theorem Sound.result {I : Invariant σ ρ α} {Q : β → Prop} {p : Pool σ ρ α ε β} (h : Sound I Q p)
    {th : Thread σ ρ α ε β} (hth : th ∈ p.threads) {b : β} (hb : th.task = .ret b) : Q b := by
  have hrespects := h.respects th hth p.trace p.shared (List.Subset.refl _) h.holds
  rw [hb] at hrespects
  exact hrespects.2

end FritzboxVpn.SharedInvariants
