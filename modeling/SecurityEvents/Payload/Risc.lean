import SecurityEvents.EventData
import SecurityEvents.Subject
set_option autoImplicit false

/-!
# Payloads of Risk Incident Sharing and Coordination

These payloads name the account that they are about, so the user has to be known. A locked account is
reported as hijacked, because a lock follows on failed logins.
-/

namespace SecurityEvents.Risc

/-- The categories that have a payload. -/
def categories : List Category :=
  [.userDeleted, .userDisabled, .userLocked, .userEnabled, .userUnlocked]

/-- The payload for an account. -/
def accountEvent (category : Category) (userId : String) : Payload :=
  ⟨Json.ofFields
      [("subject", some (SubjectId.opaqueId userId).json),
        ("reason", if category = .userLocked then some (.string "hijacking") else none)],
    Json.isKeyed_ofFields (by simp) (by
      simp only [List.forall_mem_cons]
      refine ⟨by simp [SubjectId.isKeyed_json], fun v hv => ?_, by simp⟩
      split at hv
      · simp only [Option.mem_def, Option.some.injEq] at hv
        simp [← hv]
      · simp at hv)⟩

/-- The payload for an event of a category. -/
def encode (category : Category) (data : EventData) : Except EncodeError Payload :=
  if categories.contains category then
    match data.userId with
    | some userId => .ok (accountEvent category userId)
    | none => .error (.missingField category "user id")
  else .error (.unsupportedCategory category)

end SecurityEvents.Risc
