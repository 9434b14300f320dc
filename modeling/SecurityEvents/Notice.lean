set_option autoImplicit false

/-!
# Notices

What is noted in the log on the way of an event, and how it is worded. A notice names the handler or the
profile that it is about.
-/

namespace SecurityEvents

/-- How serious a notice is. -/
inductive Level where
  | debug
  | info
  | warn
  | error
  deriving DecidableEq, Repr

/-- The name of a level. -/
def Level.name : Level → String
  | .debug => "DEBUG"
  | .info => "INFO"
  | .warn => "WARN"
  | .error => "ERROR"

/-- What is noted in the log. -/
inductive Notice where
  /-- A handler could not classify the event. -/
  | unclassified (handler : String)
  /-- A handler that was asked to handle an event has no category for it. -/
  | notHandled (handler : String)
  /-- The whole dispatch failed. -/
  | dropped (handler : String)
  /-- The whole dispatch panicked. -/
  | dispatchPanicked (handler : String)
  /-- There was nobody to tell. -/
  | noProfiles
  /-- A profile was left out. -/
  | skipped (profile : String)
  /-- A profile failed. -/
  | failed (profile : String)
  /-- A profile panicked. -/
  | profilePanicked (profile : String)
  /-- A profile was served. -/
  | published (profile : String)
  /-- Nobody listens to what was published. -/
  | noSubscribers (profile : String)
  /-- The profiles in memory were replaced. -/
  | profilesReplaced
  /-- A profile was read from its file. -/
  | profileLoaded (profile : String)
  deriving DecidableEq, Repr

namespace Notice

/-- How serious a notice is. -/
def level : Notice → Level
  | .notHandled _ | .noProfiles | .skipped _ | .profileLoaded _ => .debug
  | .published _ | .profilesReplaced => .info
  | .unclassified _ | .dropped _ | .failed _ | .noSubscribers _ => .warn
  | .dispatchPanicked _ | .profilePanicked _ => .error

/-- The wording of a notice. -/
def message : Notice → String
  | .unclassified _ => "Failed to classify event, declining"
  | .notHandled _ => "Event not handled"
  | .dropped _ => "Dropped event"
  | .dispatchPanicked _ => "Dispatch panicked, dropped event"
  | .noProfiles => "No active event profiles"
  | .skipped _ => "Skipping profile"
  | .failed _ => "Failed to publish event for profile"
  | .profilePanicked _ => "Profile pipeline panicked"
  | .published _ => "Published security event"
  | .noSubscribers _ => "No active subscribers to receive security event"
  | .profilesReplaced => "Event profile catalog reloaded"
  | .profileLoaded _ => "Loaded event profile"

/-- The handler that a notice is about. -/
def handler? : Notice → Option String
  | .unclassified handler | .notHandled handler | .dropped handler | .dispatchPanicked handler =>
    some handler
  | _ => none

/-- The profile that a notice is about. -/
def profile? : Notice → Option String
  | .skipped profile | .failed profile | .profilePanicked profile | .published profile
  | .noSubscribers profile | .profileLoaded profile => some profile
  | _ => none

end Notice

end SecurityEvents
