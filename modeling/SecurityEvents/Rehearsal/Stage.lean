import SecurityEvents.Handler
import SecurityEvents.Provider.Directory
import SecurityEvents.Publication.Broadcast
import SecurityEvents.Rehearsal.Recorder
set_option autoImplicit false

/-!
# A stage for services

For trying out a dispatcher: the state of every service that it may work with, and services that follow a
script. A scripted encoder counts its calls.
-/

namespace SecurityEvents

/-- The state of all services. -/
structure Stage where
  profiles : List Profile := []
  directory : Directory := ⟨"", none⟩
  recorder : Recorder := {}
  broadcast : Broadcast := { policy := {}, capacity := 1 }
  /-- How often each scripted encoder was called. -/
  encodings : List Nat := []

namespace Stage

/-- The profiles in memory. -/
def profilesPart : Part Stage (List Profile) where
  get s := s.profiles
  set profiles s := { s with profiles }

/-- The directory of profiles. -/
def directoryPart : Part Stage Directory where
  get s := s.directory
  set directory s := { s with directory }

/-- The recorder. -/
def recorderPart : Part Stage Recorder where
  get s := s.recorder
  set recorder s := { s with recorder }

/-- The broadcast. -/
def broadcastPart : Part Stage Broadcast where
  get s := s.broadcast
  set broadcast s := { s with broadcast }

end Stage

/-! ## Scripts -/

/-- How a scripted encoder answers. -/
inductive EncoderScript where
  /-- With what it was asked, under its own id. -/
  | echo (id : String)
  | payload (p : Payload)
  | missing (field : String)
  | invalid (field reason : String)
  | unsupported
  | serialization (cause : String)
  | panic (p : Panic)

namespace EncoderScript

/-- What an encoder was asked. -/
def echoed (id : String) (schema : Schema) (category : Category) (data : EventData) : Payload :=
  ⟨Json.ofFields
      [("id", some (.string id)), ("schema", some (.string schema.name)),
        ("category", some (.string category.name)),
        ("tenant", some (Json.orNull Json.string data.tenantDomain)),
        ("user", some (Json.orNull Json.string data.userId))],
    Json.isKeyed_ofFields (by simp) (by
      cases data.tenantDomain <;> cases data.userId <;> simp [Json.orNull, Json.isKeyed])⟩

/-- The answer of a script. -/
def answer {σ : Type} (script : EncoderScript) (schema : Schema) (category : Category)
    (data : EventData) : Act σ (Except EncodeError Payload) :=
  match script with
  | .echo id => pure (.ok (echoed id schema category data))
  | .payload p => pure (.ok p)
  | .missing field => pure (.error (.missingField category field))
  | .invalid field reason => pure (.error (.invalidField field reason))
  | .unsupported => pure (.error (.unsupportedCategory category))
  | .serialization cause => pure (.error (.serialization cause))
  | .panic p => Act.panic p

end EncoderScript

namespace Encoder

/-- The encoder that follows a script. Its calls are counted at its place. -/
def scripted (place : Nat) (schema : Schema) (categories : List Category) (script : EncoderScript) :
    Encoder Stage where
  schema
  supports := categories.contains
  encode category data := do
    let stage ← Act.state
    Act.setState { stage with encodings := stage.encodings.modify place (· + 1) }
    script.answer schema category data

end Encoder

/-- What a scripted gate does. -/
inductive GateScript where
  | allow
  | deny (reason : String)
  | panic (p : Panic)
  deriving DecidableEq, Repr

namespace Gate

/-- The gate that follows a script. -/
def scripted {σ : Type} (name : String) (script : GateScript) : Gate σ where
  name
  check _ :=
    match script with
    | .allow => pure .allow
    | .deny reason => pure (.deny reason)
    | .panic p => Act.panic p

end Gate

namespace Manager

/-- The manager that locates events by their names in a table. -/
def ofTable (schema : Schema) (table : List (String × EventMetadata)) : Manager where
  schema
  locate eventName _ := .ok (table.lookup eventName)

end Manager

namespace Provider

/-- The provider that always fails. -/
def failing {σ : Type} (error : Error) : Provider σ where
  list := pure (.error error)

/-- The provider that always panics. -/
def panicking {σ : Type} (p : Panic) : Provider σ where
  list := Act.panic p

end Provider

end SecurityEvents
