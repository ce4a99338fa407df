import FritzboxVpn.Interaction

namespace FritzboxVpn.Tasks

open Interaction

/-- A program with exceptions that others may interrupt where it waits: at a
request for its answer, and at a pause. -/
inductive Task (σ ρ α ε β : Type) : Type
  | ret (b : β)
  | raise (e : ε)
  | look (k : σ → Task σ ρ α ε β)
  | change (f : σ → σ) (t : Task σ ρ α ε β)
  | ask (r : ρ) (k : α → Task σ ρ α ε β)
  | pause (t : Task σ ρ α ε β)

variable {σ ρ α ε β γ : Type}

namespace Task

def andThen : Task σ ρ α ε β → (β → Task σ ρ α ε γ) → Task σ ρ α ε γ
  | .ret b, f => f b
  | .raise e, _ => .raise e
  | .look k, f => .look fun s => andThen (k s) f
  | .change g t, f => .change g (andThen t f)
  | .ask r k, f => .ask r fun a => andThen (k a) f
  | .pause t, f => .pause (andThen t f)

def handle : Task σ ρ α ε β → (ε → Task σ ρ α ε β) → Task σ ρ α ε β
  | .ret b, _ => .ret b
  | .raise e, h => h e
  | .look k, h => .look fun s => handle (k s) h
  | .change g t, h => .change g (handle t h)
  | .ask r k, h => .ask r fun a => handle (k a) h
  | .pause t, h => .pause (handle t h)

instance : Monad (Task σ ρ α ε) where
  pure := ret
  bind := andThen

instance : MonadExceptOf ε (Task σ ρ α ε) where
  throw := raise
  tryCatch := handle

def read : Task σ ρ α ε σ := .look .ret

def update (f : σ → σ) : Task σ ρ α ε Unit := .change f (.ret ())

def request (r : ρ) : Task σ ρ α ε α := .ask r .ret

def ended : Except ε β → Task σ ρ α ε β
  | .ok b => .ret b
  | .error e => .raise e

def leaving (t : Task σ ρ α ε β) : Task σ ρ α ε β :=
  tryCatch (t >>= fun b => .pause (pure b)) fun e => .pause (throw e)

def run : Task σ ρ α ε β → Program σ ρ α ε β
  | .ret b => Program.ret b
  | .raise e => Program.raise e
  | .look k => fun partner w => run (k w.state) partner w
  | .change f t => fun partner w => run t partner { w with state := f w.state }
  | .ask r k => fun partner w =>
      run (k (partner w.trace r)) partner { w with trace := (r, partner w.trace r) :: w.trace }
  | .pause t => run t

section Run

@[simp]
theorem run_pure (b : β) : run (pure b : Task σ ρ α ε β) = pure b := rfl

@[simp]
theorem run_throw (e : ε) : run (throw e : Task σ ρ α ε β) = throw e := rfl

@[simp]
theorem run_pause (t : Task σ ρ α ε β) : run (.pause t) = run t := rfl

@[simp]
theorem run_read : run (read : Task σ ρ α ε σ) = Program.read := rfl

@[simp]
theorem run_update (f : σ → σ) : run (update f : Task σ ρ α ε Unit) = Program.update f := rfl

@[simp]
theorem run_request (r : ρ) : run (request r : Task σ ρ α ε α) = Program.request r := rfl

@[simp]
theorem run_ended (x : Except ε β) : run (ended x : Task σ ρ α ε β) = Program.ended x := by
  cases x <;> rfl

@[simp]
theorem run_ite {c : Prop} [Decidable c] (t u : Task σ ρ α ε β) :
    run (if c then t else u) = if c then run t else run u := apply_ite run c t u

@[simp]
theorem run_bind (t : Task σ ρ α ε β) (f : β → Task σ ρ α ε γ) :
    run (t >>= f) = run t >>= fun b => run (f b) := by
  change run (andThen t f) = Program.andThen (run t) fun b => run (f b)
  induction t with
  | ret b => rfl
  | raise e => rfl
  | look k ih =>
      funext partner w
      exact congrFun (congrFun (ih w.state) partner) w
  | change g t ih =>
      funext partner w
      exact congrFun (congrFun ih partner) { w with state := g w.state }
  | ask r k ih =>
      funext partner w
      exact congrFun (congrFun (ih (partner w.trace r)) partner) _
  | pause t ih => exact ih

@[simp]
theorem run_tryCatch (t : Task σ ρ α ε β) (h : ε → Task σ ρ α ε β) :
    run (tryCatch t h) = tryCatch (run t) fun e => run (h e) := by
  change run (handle t h) = Program.handle (run t) fun e => run (h e)
  induction t with
  | ret b => rfl
  | raise e => rfl
  | look k ih =>
      funext partner w
      exact congrFun (congrFun (ih w.state) partner) w
  | change g t ih =>
      funext partner w
      exact congrFun (congrFun ih partner) { w with state := g w.state }
  | ask r k ih =>
      funext partner w
      exact congrFun (congrFun (ih (partner w.trace r)) partner) _
  | pause t ih => exact ih

@[simp]
theorem run_leaving (t : Task σ ρ α ε β) : run (leaving t) = run t := by
  rw [leaving, run_tryCatch, run_bind]
  change Program.handle (Program.andThen (run t) Program.ret) Program.raise = run t
  funext partner w
  rw [Program.handle, Program.andThen]
  rcases run t partner w with ⟨e | b, w'⟩ <;> rfl

end Run

end Task

end FritzboxVpn.Tasks
