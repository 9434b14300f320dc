import SecurityEvents.Dispatch.Pipeline
set_option autoImplicit false

/-!
# Fan-out

A dispatch may serve several profiles at a time, up to the number in the configuration. The profiles are
begun in their order. Any of those that are being served may take the next step, and between two steps
somebody else may act on the services. A list of moves says what happens when; a move that is not possible
changes nothing. To serve the profiles one after the other is one way to do it: `playAll_inTurn` says so.
-/

namespace SecurityEvents

/-- A profile that is being served. -/
structure Pipeline (σ : Type) where
  profile : Profile
  progress : Progress σ

/-- A dispatch under way. -/
structure FanOut (σ : Type) where
  /-- The profiles that were not begun. -/
  waiting : List Profile
  /-- What is being served, in the order in which it was begun. -/
  inFlight : List (Pipeline σ) := []
  /-- The reports, in the order in which they came. -/
  reports : List ProfileReport := []

/-- What happens next in a dispatch under way. -/
inductive Move (σ : Type) where
  /-- The first profile that waits is begun. -/
  | start
  /-- The pipeline at this place takes its next step, or reports if it has ended. -/
  | advance (place : Nat)
  /-- Somebody else acts on the services. -/
  | disturb (act : Act σ Unit)

namespace FanOut

variable {σ : Type}

/-- Whether every profile was served. -/
def isDone (f : FanOut σ) : Bool :=
  f.waiting.isEmpty && f.inFlight.isEmpty

/-- The dispatch after the first profile that waits was begun, if there is room. -/
def start (f : FanOut σ) (limit : Nat) : FanOut σ :=
  match f.waiting with
  | [] => f
  | p :: rest =>
    if f.inFlight.length < limit then
      { f with waiting := rest, inFlight := f.inFlight ++ [⟨p, .entered⟩] }
    else f

/-- The dispatch after a pipeline took its next step or reported. -/
def advance (d : Dispatcher σ) (o : Occurrence) (f : FanOut σ) (place : Nat) :
    Act (Issuing σ) (FanOut σ) :=
  match f.inFlight[place]? with
  | none => pure f
  | some ⟨p, .ended result⟩ => do
    Act.note (Dispatcher.notice p result)
    let report := ⟨p.name, p.version, Dispatcher.outcome p result⟩
    return { f with inFlight := f.inFlight.eraseIdx place, reports := f.reports ++ [report] }
  | some ⟨p, progress⟩ => do
    let progress ← d.advance o p progress
    return { f with inFlight := f.inFlight.set place ⟨p, progress⟩ }

/-- The dispatch after a move. -/
def play (d : Dispatcher σ) (o : Occurrence) (f : FanOut σ) : Move σ → Act (Issuing σ) (FanOut σ)
  | .start => pure (f.start d.config.profileConcurrency)
  | .advance place => f.advance d o place
  | .disturb act => do
    let _ ← act.ofServices.caught
    return f

/-- The dispatch after moves. -/
def playAll (d : Dispatcher σ) (o : Occurrence) :
    List (Move σ) → FanOut σ → Act (Issuing σ) (FanOut σ)
  | [], f => pure f
  | move :: rest, f => do playAll d o rest (← f.play d o move)

/-! ## One after the other -/

/-- The moves that serve one profile from beginning to end. -/
def solo (d : Dispatcher σ) : List (Move σ) :=
  .start :: List.replicate (d.gates.length + 4) (.advance 0)

/-- The moves that serve a number of profiles one after the other. -/
def inTurn (d : Dispatcher σ) : Nat → List (Move σ)
  | 0 => []
  | n + 1 => solo d ++ inTurn d n

theorem playAll_append (d : Dispatcher σ) (o : Occurrence) (moves others : List (Move σ))
    (f : FanOut σ) :
    playAll d o (moves ++ others) f = playAll d o moves f >>= playAll d o others := by
  induction moves generalizing f with
  | nil => rfl
  | cons move rest ih => simp only [List.cons_append, playAll, bind_assoc, ih]

/-- Where nothing is in flight, nothing advances. -/
theorem playAll_idle (d : Dispatcher σ) (o : Occurrence) (waiting : List Profile)
    (reports : List ProfileReport) (n : Nat) :
    playAll d o (List.replicate n (.advance 0)) ⟨waiting, [], reports⟩ = pure ⟨waiting, [], reports⟩ := by
  induction n with
  | zero => rfl
  | succ n ih => exact ih

theorem playAll_advance (d : Dispatcher σ) (o : Occurrence) (p : Profile) (waiting : List Profile)
    (reports : List ProfileReport) (n : Nat) (progress : Progress σ) :
    playAll d o (List.replicate (n + 1) (.advance 0)) ⟨waiting, [⟨p, progress⟩], reports⟩ = (do
      advance d o ⟨waiting, [⟨p, ← d.advanceBy o p n progress⟩], reports⟩ 0) := by
  induction n generalizing progress with
  | zero => exact bind_pure _
  | succ n ih =>
    rw [List.replicate_succ, playAll, play]
    cases progress with
    | ended result =>
      rw [Dispatcher.advanceBy_ended, pure_bind]
      exact (bind_assoc ..).trans
        (bind_congr fun _ => (pure_bind ..).trans (playAll_idle d o waiting _ (n + 1)))
    | entered =>
      rw [Dispatcher.advanceBy, bind_assoc]
      exact (bind_assoc ..).trans (bind_congr fun progress => ih progress)
    | routed route gates =>
      rw [Dispatcher.advanceBy, bind_assoc]
      exact (bind_assoc ..).trans (bind_congr fun progress => ih progress)
    | tokenReady route token =>
      rw [Dispatcher.advanceBy, bind_assoc]
      exact (bind_assoc ..).trans (bind_congr fun progress => ih progress)

theorem playAll_solo (d : Dispatcher σ) (o : Occurrence) (h : 0 < d.config.profileConcurrency)
    (p : Profile) (waiting : List Profile) (reports : List ProfileReport) :
    playAll d o (solo d) ⟨p :: waiting, [], reports⟩ = (do
      return ⟨waiting, [], reports ++ [← d.serve o p]⟩) := by
  have hstart : start ⟨p :: waiting, [], reports⟩ d.config.profileConcurrency
      = (⟨waiting, [⟨p, .entered⟩], reports⟩ : FanOut σ) := by simp [start, h]
  rw [solo, playAll, play, pure_bind, hstart, playAll_advance, Dispatcher.advanceBy_entered]
  simp only [Dispatcher.serve, map_eq_pure_bind, bind_assoc, pure_bind]
  rfl

/-- To serve the profiles one after the other is one way to fan out. -/
theorem playAll_inTurn (d : Dispatcher σ) (o : Occurrence) (h : 0 < d.config.profileConcurrency)
    (ps : List Profile) (reports : List ProfileReport) :
    playAll d o (inTurn d ps.length) ⟨ps, [], reports⟩ = (do
      return ⟨[], [], reports ++ (← d.serveAll o ps)⟩) := by
  induction ps generalizing reports with
  | nil => simp [inTurn, playAll, Dispatcher.serveAll]
  | cons p rest ih =>
    rw [List.length_cons, inTurn, playAll_append, playAll_solo d o h]
    simp only [bind_assoc, pure_bind, ih, Dispatcher.serveAll, List.append_assoc, List.singleton_append]

end FanOut

namespace Dispatcher

variable {σ : Type}

/-- Takes an event to every active profile, several at a time, as the moves say. -/
def fanOut (d : Dispatcher σ) (event : Event) (category : Category) (moves : List (Move σ)) :
    Act (Issuing σ) (Except Error (FanOut σ)) := do
  match EventData.ofEvent event with
  | .error error => return .error error
  | .ok data =>
    match ← d.provider.list.ofServices with
    | .error error => return .error error
    | .ok profiles =>
      if profiles.isEmpty then Act.note .noProfiles
      return .ok (← FanOut.playAll d ⟨event.name, category, data⟩ moves { waiting := profiles })

end Dispatcher

end SecurityEvents
