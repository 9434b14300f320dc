import SecurityEvents.Classification
import SecurityEvents.Dispatch.Dispatcher
set_option autoImplicit false

/-!
# Handlers

A handler takes the events that concern it. The usual one asks a classifier and has the event dispatched; it
does not fail, whatever the dispatcher does. A table holds handlers under different names. To fire an event
is to ask all of them first and then let those handle it that take it, in the order of the table.

Handlers that dispatch serve one profile after the other here, as if each dispatcher may serve one at least; `Firing`
says how they take time, serve several at a time as the configuration allows, and come to no end if it allows none.
-/

namespace SecurityEvents

/-- Who handles events, with services of state `σ`. -/
structure Handler (σ : Type) where
  name : String
  takes : Event → Act σ Bool
  handle : Event → Act σ (Option Report)

namespace Handler

variable {σ : Type}

/-- The category that a classifier has for an event. An event that cannot be classified is noted. -/
def classified {τ : Type} (c : Classifier) (event : Event) : Act τ (Except Unit (Option Category)) :=
  match c.classify event with
  | .ok category => pure (.ok category)
  | .error _ => do
    Act.note (.unclassified c.name)
    return .error ()

/-- The handler that dispatches what a classifier accepts, one profile after the other. -/
def dispatching (c : Classifier) (d : Dispatcher σ) : Handler (Issuing σ) where
  name := c.name
  takes event := do
    match ← classified c event with
    | .ok (some _) => return true
    | _ => return false
  handle event := do
    match ← classified c event with
    | .error () => return none
    | .ok none =>
      Act.note (.notHandled c.name)
      return none
    | .ok (some category) =>
      match ← (d.dispatch event category).caught with
      | .ok (.ok report) => return some report
      | .ok (.error _) =>
        Act.note (.dropped c.name)
        return none
      | .error _ =>
        Act.note (.dispatchPanicked c.name)
        return none

/-- The handlers of the five classifiers. -/
def standard (d : Dispatcher σ) : List (Handler (Issuing σ)) :=
  Classifier.all.map fun c => dispatching c d

end Handler

/-- Handlers under different names. -/
structure HandlerTable (σ : Type) where
  handlers : List (Handler σ) := []

namespace HandlerTable

variable {σ : Type}

/-- The names of the handlers. -/
def names (t : HandlerTable σ) : List String :=
  t.handlers.map (·.name)

/-- The handler of this name. -/
def get? (t : HandlerTable σ) (name : String) : Option (Handler σ) :=
  t.handlers.find? (·.name == name)

/-- How many handlers there are. -/
def size (t : HandlerTable σ) : Nat :=
  t.handlers.length

/-- The table with one more handler, whose name must be new. -/
def register (t : HandlerTable σ) (h : Handler σ) : Except Error (HandlerTable σ) :=
  if (t.get? h.name).isSome then .error (.duplicateHandler h.name) else .ok ⟨t.handlers ++ [h]⟩

/-- A handler is registered behind the others, and only under a new name. -/
theorem register_eq_ok_iff {t u : HandlerTable σ} {h : Handler σ} :
    t.register h = .ok u ↔ h.name ∉ t.names ∧ u = ⟨t.handlers ++ [h]⟩ := by
  have hget : (t.get? h.name).isSome = true ↔ h.name ∈ t.names := by
    simp [get?, names]
  by_cases hn : h.name ∈ t.names
  · simp [register, hget.2 hn, hn]
  · have : (t.get? h.name).isSome = false := by simpa using mt hget.1 hn
    simp [register, this, hn, eq_comm]

/-- What a handler is answered that is to be registered, and the table afterwards: a handler that is refused leaves
it as it is. -/
def offer (t : HandlerTable σ) (h : Handler σ) : Except Error Unit × HandlerTable σ :=
  match t.register h with
  | .ok u => (.ok (), u)
  | .error error => (.error error, t)

/-- What handlers are answered that are to be registered one after the other, and the table afterwards. -/
def offerAll (t : HandlerTable σ) : List (Handler σ) → List (Except Error Unit) × HandlerTable σ
  | [] => ([], t)
  | h :: rest =>
    let (answer, u) := t.offer h
    let (answers, v) := u.offerAll rest
    (answer :: answers, v)

theorem offerAll_cons (t : HandlerTable σ) (h : Handler σ) (rest : List (Handler σ)) :
    t.offerAll (h :: rest)
      = ((t.offer h).1 :: ((t.offer h).2.offerAll rest).1, ((t.offer h).2.offerAll rest).2) :=
  rfl

/-- Those of the handlers that take an event. -/
def takers (event : Event) : List (Handler σ) → Act σ (List (Handler σ))
  | [] => pure []
  | h :: rest => do
    let taken ← h.takes event
    let others ← takers event rest
    return if taken then h :: others else others

/-- The handlers of the table that take an event. -/
def handlersFor (t : HandlerTable σ) (event : Event) : Act σ (List (Handler σ)) :=
  takers event t.handlers

/-- Lets handlers handle an event one after the other. -/
def handleAll (event : Event) : List (Handler σ) → Act σ (List (String × Option Report))
  | [] => pure []
  | h :: rest => do
    let report ← h.handle event
    return (h.name, report) :: (← handleAll event rest)

/-- Fires an event. -/
def fire (t : HandlerTable σ) (event : Event) : Act σ (List (String × Option Report)) := do
  handleAll event (← t.handlersFor event)

/-- How a table is described. -/
def description (t : HandlerTable σ) : String :=
  Text.braced "HandlerRegistry" [("handlers", Text.bracketed (t.names.map fun n => Text.quoted n))]

end HandlerTable

end SecurityEvents
