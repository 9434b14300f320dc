import SecurityEvents.Rehearsal.Stage
set_option autoImplicit false

/-!
# Sessions

For trying out a dispatcher: a dispatcher on a stage with its handlers, through which events are sent one
after the other. Acts are run on the session; what they note and whether they panic is part of the result.
-/

namespace SecurityEvents

/-- Who publishes in a session. -/
inductive PublisherKind where
  | recording
  | broadcasting
  deriving DecidableEq, Repr

/-- Who publishes. -/
def PublisherKind.publisher : PublisherKind → Publisher Stage
  | .recording => Recorder.publisher.on Stage.recorderPart
  | .broadcasting => Broadcast.publisher.on Stage.broadcastPart

/-- A dispatcher at work. -/
structure Session where
  dispatcher : Dispatcher Stage
  handlers : HandlerTable (Issuing Stage)
  publisher : PublisherKind
  state : Issuing Stage
  /-- Lists of profiles that were kept. -/
  snapshots : List (List Profile) := []

/-- What came of an act: the answer or a panic, and what was noted. -/
structure Performance (α : Type) where
  answer : Except Panic α
  notices : List Notice

namespace Session

variable {α : Type}

/-- Runs an act. -/
def perform (s : Session) (act : Act (Issuing Stage) α) : Performance α × Session :=
  match act ⟨s.state, []⟩ with
  | .ok a scene => (⟨.ok a, scene.notices⟩, { s with state := scene.state })
  | .error p scene => (⟨.error p, scene.notices⟩, { s with state := scene.state })

/-- The stage. -/
def stage (s : Session) : Stage :=
  s.state.services

/-- The session with another stage. -/
def withStage (s : Session) (stage : Stage) : Session :=
  { s with state := { s.state with services := stage } }

/-- What a receiver gets now, or what was recorded; nothing from a receiver that does not exist. -/
def collect (s : Session) (receiver : Nat) : Option Reception × Session :=
  let stage := s.stage
  match s.publisher with
  | .recording =>
    (some ⟨0, stage.recorder.record⟩, s.withStage { stage with recorder := stage.recorder.cleared })
  | .broadcasting =>
    (stage.broadcast.reception? receiver,
      s.withStage { stage with broadcast := stage.broadcast.received receiver })

end Session

end SecurityEvents
