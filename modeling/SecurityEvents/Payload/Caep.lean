import SecurityEvents.EventData
import SecurityEvents.Payload.Basic
set_option autoImplicit false

/-!
# Payloads of the Continuous Access Evaluation Profile

These payloads describe what happened to the subject of an announcement, so the user has to be known. That
is asked first, also for a category that has no payload.
-/

namespace SecurityEvents.Caep

/-- The categories that have a payload. -/
def categories : List Category :=
  [.tokenRevoke, .credentialUpdate, .loginSuccess]

/-- The word for a persona. -/
def entityOf : Persona → String
  | .admin => "admin"
  | .user => "user"
  | .application => "policy"
  | .system => "system"

/-- Who initiated the event. -/
def initiatingEntity (data : EventData) : Option String :=
  (data.flow.bind Flow.persona?).map entityOf

/-- The payload for a revoked session. -/
def sessionRevoked (data : EventData) : Payload :=
  ⟨Json.ofFields [("initiating_entity", (initiatingEntity data).map Json.string)],
    Json.isKeyed_ofFields (by simp) (by
      simp only [List.forall_mem_cons]
      exact ⟨fun _ => Json.isKeyed_of_mem_map Json.isKeyed_string, by simp⟩)⟩

/-- The payload for a changed credential. -/
def credentialChange (data : EventData) : Payload :=
  ⟨Json.ofFields
      [("credential_type", some (.string "password")), ("change_type", some (.string "update")),
        ("initiating_entity", (initiatingEntity data).map Json.string)],
    Json.isKeyed_ofFields (by simp) (by
      simp only [List.forall_mem_cons]
      exact ⟨by simp, by simp, fun _ => Json.isKeyed_of_mem_map Json.isKeyed_string, by simp⟩)⟩

/-- The payload for an established session. -/
def sessionEstablished (data : EventData) : Payload :=
  ⟨Json.ofFields
      [("amr", Json.unlessEmpty Json.string
        ((data.authentication.map AuthenticationContext.authenticationMethods).getD []))],
    Json.isKeyed_ofFields (by simp) (by
      simp only [List.forall_mem_cons]
      exact ⟨fun _ => Json.isKeyed_of_mem_unlessEmpty Json.isKeyed_string, by simp⟩)⟩

/-- The payload for an event of a category. -/
def encode (category : Category) (data : EventData) : Except EncodeError Payload :=
  if data.userId.isNone then .error (.missingField category "user id")
  else
    match category with
    | .tokenRevoke => .ok (sessionRevoked data)
    | .credentialUpdate => .ok (credentialChange data)
    | .loginSuccess => .ok (sessionEstablished data)
    | other => .error (.unsupportedCategory other)

end SecurityEvents.Caep
