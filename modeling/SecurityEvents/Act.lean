import SecurityEvents.Notice
set_option autoImplicit false

/-!
# Acts

A service answers a call by an *act*: it may change its state, note things in the log, and panic instead of
answering. What it changed and noted before it panicked remains. `Act.caught` is where a panic ends.
-/

namespace SecurityEvents

/-- What is left of a service that panicked: usually a text. -/
inductive Panic where
  | text (s : String)
  | other
  deriving DecidableEq, Repr

/-- The wording of a panic. -/
def Panic.message : Panic → String
  | .text s => s
  | .other => "unknown panic"

/-- The state of the services and the log. -/
structure Scene (σ : Type) where
  state : σ
  notices : List Notice := []

/-- A call that answers with an `α` or panics, on services with the state `σ`. -/
abbrev Act (σ α : Type) : Type :=
  EStateM Panic (Scene σ) α

namespace Act

variable {σ α β : Type}

/-- The state. -/
def state : Act σ σ := fun s => .ok s.state s

/-- A new state. -/
def setState (state : σ) : Act σ Unit := fun s => .ok () { s with state }

/-- A notice in the log. -/
def note (n : Notice) : Act σ Unit := fun s => .ok () { s with notices := s.notices ++ [n] }

/-- No answer. -/
def panic (p : Panic) : Act σ α := fun s => .error p s

/-- An answer that may be a panic. -/
def ofExcept (answer : Except Panic α) : Act σ α :=
  match answer with
  | .ok a => pure a
  | .error p => panic p

/-- The act with its panic as an answer. -/
def caught (act : Act σ α) : Act σ (Except Panic α) := fun s =>
  match act s with
  | .ok a s => .ok (.ok a) s
  | .error p s => .ok (.error p) s

@[simp] theorem caught_pure (a : α) : (pure a : Act σ α).caught = pure (.ok a) := rfl

@[simp] theorem caught_panic (p : Panic) : (panic p : Act σ α).caught = pure (.error p) := rfl

/-- A panic of the first act is the panic of both: the second is not begun. -/
theorem caught_bind (act : Act σ α) (next : α → Act σ β) :
    (act >>= next).caught = (do
      match ← act.caught with
      | .ok a => (next a).caught
      | .error p => pure (.error p)) := by
  funext s
  simp only [bind, EStateM.bind, caught]
  cases act s <;> rfl

/-- A caught act always answers. -/
theorem exists_caught_eq_ok (act : Act σ α) (s : Scene σ) :
    ∃ answer s', act.caught s = .ok answer s' := by
  unfold caught
  cases act s with
  | ok a s' => exact ⟨_, _, rfl⟩
  | error p s' => exact ⟨_, _, rfl⟩

end Act

/-- A part of a state. -/
structure Part (σ τ : Type) where
  get : σ → τ
  set : τ → σ → σ

/-- The act on a part of a state; the rest stays. -/
def Act.on {σ τ α : Type} (part : Part σ τ) (act : Act τ α) : Act σ α := fun s =>
  match act ⟨part.get s.state, s.notices⟩ with
  | .ok a t => .ok a ⟨part.set t.state s.state, t.notices⟩
  | .error p t => .error p ⟨part.set t.state s.state, t.notices⟩

end SecurityEvents
