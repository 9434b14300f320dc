import SecurityEvents.Json.Record
set_option autoImplicit false

/-!
# Payloads

A payload is what an announcement says of an event: any JSON value.
-/

namespace SecurityEvents

/-- What an announcement says of an event. -/
abbrev Payload : Type := Json.Keyed

/-- The payload as a value. -/
abbrev Payload.json (p : Payload) : Json := p.val

end SecurityEvents
