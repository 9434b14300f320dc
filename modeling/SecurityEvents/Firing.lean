import SecurityEvents.Dispatch.FanOut
import SecurityEvents.Handler
set_option autoImplicit false

/-!
# Firing

What handlers do with an event takes as long as their dispatches take. First all of them are asked whether they take
the event; then those that do handle it one after the other. A handler may have its answer at once. Otherwise it has a
dispatch under way, which serves several profiles at a time as the configuration allows, and its answer is there when
all profiles were served. Moves say what happens when, as they do for one dispatch: if none is under way, the first that
waits is a handler and not a profile.

Handlers that serve one profile after the other, as those of `HandlerTable.fire` do, are one way to do it.
-/

namespace SecurityEvents

variable {σ : Type}

/-- What a dispatch begins with: the profiles that are listed wait to be served. -/
def Dispatcher.opened (d : Dispatcher σ) (event : Event) (category : Category) :
    Act (Issuing σ) (Except Error (Occurrence × FanOut σ)) := do
  match EventData.ofEvent event with
  | .error error => return .error error
  | .ok data =>
    match ← d.provider.list.ofServices with
    | .error error => return .error error
    | .ok profiles =>
      if profiles.isEmpty then Act.note .noProfiles
      return .ok (⟨event.name, category, data⟩, { waiting := profiles })

/-- How far a handler has come with an event. -/
inductive Handling (σ : Type) where
  | answered (report : Option Report)
  /-- A dispatch is under way. -/
  | underWay (occurrence : Occurrence) (fanOut : FanOut σ)

/-- A dispatch that has served all profiles is the answer. -/
def Handling.settled : Handling σ → Handling σ
  | .answered report => .answered report
  | .underWay o fanOut =>
    if fanOut.isDone then .answered (some ⟨o.eventName, o.category, fanOut.reports⟩) else .underWay o fanOut

/-- What a handler does at first, if it dispatches what a classifier accepts. -/
def Handler.enter (c : Classifier) (d : Dispatcher σ) (event : Event) : Act (Issuing σ) (Handling σ) := do
  match ← classified c event with
  | .error () => return .answered none
  | .ok none =>
    Act.note (.notHandled c.name)
    return .answered none
  | .ok (some category) =>
    match ← (d.opened event category).caught with
    | .ok (.ok (o, fanOut)) => return (Handling.underWay o fanOut).settled
    | .ok (.error _) =>
      Act.note (.dropped c.name)
      return .answered none
    | .error _ =>
      Act.note (.dispatchPanicked c.name)
      return .answered none

/-- A dispatch that a handler has under way. -/
structure Task (σ : Type) where
  classifier : Classifier
  dispatcher : Dispatcher σ
  occurrence : Occurrence
  fanOut : FanOut σ

/-- An event that is being handled. -/
structure Firing (σ : Type) where
  /-- The handlers that have not begun, each a classifier with its dispatcher. -/
  waiting : List (Classifier × Dispatcher σ)
  /-- What the handler does that has begun last, unless it has answered. -/
  task : Option (Task σ) := none
  /-- The answers, in the order in which they came. -/
  results : List (String × Option Report) := []

namespace Firing

/-- Whether every handler has answered. -/
def isDone (f : Firing σ) : Bool :=
  f.waiting.isEmpty && f.task.isNone

/-- The firing after the handler that has begun last came so far. -/
def reach (f : Firing σ) (c : Classifier) (d : Dispatcher σ) : Handling σ → Firing σ
  | .answered report => { f with task := none, results := f.results ++ [(c.name, report)] }
  | .underWay o fanOut => { f with task := some ⟨c, d, o, fanOut⟩ }

/-- The firing after a move. -/
def play (event : Event) (f : Firing σ) (move : Move σ) : Act (Issuing σ) (Firing σ) :=
  match f.task with
  | some ⟨c, d, o, fanOut⟩ => do
    let fanOut ← fanOut.play d o move
    return f.reach c d (Handling.underWay o fanOut).settled
  | none =>
    match move with
    | .start =>
      match f.waiting with
      | [] => pure f
      | (c, d) :: rest => do
        let handling ← Handler.enter c d event
        return { f with waiting := rest }.reach c d handling
    | .advance _ => pure f
    | .disturb act => do
      let _ ← act.ofServices.caught
      return f

/-- The firing after moves. -/
def playAll (event : Event) : List (Move σ) → Firing σ → Act (Issuing σ) (Firing σ)
  | [], f => pure f
  | move :: rest, f => do playAll event rest (← f.play event move)

/-- Those of the handlers that take an event. -/
def takers (event : Event) : List (Classifier × Dispatcher σ) → Act (Issuing σ) (List (Classifier × Dispatcher σ))
  | [] => pure []
  | h :: rest => do
    let taken ← (Handler.dispatching h.1 h.2).takes event
    let others ← takers event rest
    return if taken then h :: others else others

/-- Fires an event, as the moves say. -/
def run (event : Event) (hooks : List (Classifier × Dispatcher σ)) (moves : List (Move σ)) :
    Act (Issuing σ) (Firing σ) := do
  playAll event moves { waiting := ← takers event hooks }

end Firing

end SecurityEvents
