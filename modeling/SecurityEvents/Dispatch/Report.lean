import SecurityEvents.Eligibility
import SecurityEvents.Error
set_option autoImplicit false

/-!
# Reports

What came of an event, for each profile that was active: it was published under an URI, skipped for a
reason, or failed with an error.
-/

namespace SecurityEvents

/-- Why a profile was left out. -/
inductive SkipReason where
  /-- No schema has the name of the profile, or none that is known here. -/
  | unsupportedSchema
  /-- The schema does not know the event. -/
  | noEventMetadata
  /-- The profile does not have the channel of the event. -/
  | noChannel (channelUri : String)
  /-- The channel does not have the event, and its own URI cannot stand in. -/
  | noEventUri (eventKey : String)
  /-- A gate denied. -/
  | ineligible (denial : Denial)
  /-- Nobody makes payloads for the schema and the category. -/
  | noEncoder
  deriving DecidableEq, Repr

/-- What came of an event for one profile. -/
inductive Outcome where
  | published (eventUri : String)
  | skipped (reason : SkipReason)
  | failed (error : Error)
  deriving DecidableEq, Repr

/-- What came of an event for one profile, and which profile. -/
structure ProfileReport where
  name : String
  version : String
  outcome : Outcome
  deriving DecidableEq, Repr

/-- What came of an event. -/
structure Report where
  eventName : String
  category : Category
  profiles : List ProfileReport
  deriving DecidableEq, Repr

namespace Outcome

/-- Whether the event was published. -/
def isPublished : Outcome → Bool
  | .published _ => true
  | _ => false

/-- Why the profile was left out. -/
def skipReason? : Outcome → Option SkipReason
  | .skipped reason => some reason
  | _ => none

/-- Why the profile failed. -/
def error? : Outcome → Option Error
  | .failed error => some error
  | _ => none

end Outcome

namespace Report

/-- The names of the profiles that the event was published for. -/
def publishedProfiles (r : Report) : List String :=
  (r.profiles.filter (·.outcome.isPublished)).map (·.name)

/-- How often the event was published. -/
def publishedCount (r : Report) : Nat :=
  r.profiles.countP (·.outcome.isPublished)

/-- The profiles that failed, by name, and why. -/
def failures (r : Report) : List (String × Error) :=
  r.profiles.filterMap fun p => p.outcome.error?.map (p.name, ·)

/-- Why the first profile of this name was left out. -/
def skipReason? (r : Report) (profileName : String) : Option SkipReason :=
  (r.profiles.find? (·.name == profileName)).bind (·.outcome.skipReason?)

end Report

end SecurityEvents
