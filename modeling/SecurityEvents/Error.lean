import SecurityEvents.Category
set_option autoImplicit false

/-!
# Errors

What can go wrong, by cause. An encoding error says why an encoder made no payload. Of the others, two
concern the configuration, one the table of handlers, two a whole event, and the last three one profile
only: those are the ones that a report can hold.
-/

namespace SecurityEvents

/-- Why an encoder made no payload. -/
inductive EncodeError where
  | missingField (category : Category) (field : String)
  | invalidField (field reason : String)
  | unsupportedCategory (category : Category)
  | serialization (cause : String)
  deriving DecidableEq, Repr

namespace EncodeError

/-- The wording of an error. -/
def message : EncodeError → String
  | .missingField category field => "Missing " ++ field ++ " for " ++ category.name ++ " payload"
  | .invalidField field reason => "Invalid " ++ field ++ ": " ++ reason
  | .unsupportedCategory category =>
    "Category " ++ category.name ++ " is not supported by this encoder"
  | .serialization cause => "Failed to serialize payload: " ++ cause

end EncodeError

/-- What can go wrong on the way of an event. -/
inductive Error where
  | configMissing (setting : String)
  | configInvalid (setting reason : String)
  | duplicateHandler (name : String)
  | dataExtraction (eventName reason : String)
  | catalogUnavailable (cause : String)
  | encoding (cause : EncodeError)
  | publishFailed (profile cause : String)
  | profilePanicked (profile text : String)
  deriving DecidableEq, Repr

namespace Error

/-- The wording of an error. -/
def message : Error → String
  | .configMissing setting => "Configuration missing: " ++ setting
  | .configInvalid setting reason => "Configuration invalid for " ++ setting ++ ": " ++ reason
  | .duplicateHandler name => "Handler already registered: " ++ name
  | .dataExtraction eventName reason =>
    "Failed to extract event data from " ++ eventName ++ ": " ++ reason
  | .catalogUnavailable cause => "Event profile catalog unavailable: " ++ cause
  | .encoding cause => "Payload encoding failed: " ++ cause.message
  | .publishFailed profile cause => "Failed to publish to profile " ++ profile ++ ": " ++ cause
  | .profilePanicked profile text => "Pipeline for profile " ++ profile ++ " panicked: " ++ text

/-- Whether the configuration is at fault. -/
def isConfigError : Error → Bool
  | .configMissing _ | .configInvalid _ _ => true
  | _ => false

/-- Whether the error concerns one profile only and leaves the others alone. -/
def isProfileLocal : Error → Bool
  | .encoding _ | .publishFailed _ _ | .profilePanicked _ _ => true
  | _ => false

end Error

end SecurityEvents
