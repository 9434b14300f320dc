import SecurityEvents.Catalog
import SecurityEvents.Dispatch.Report
set_option autoImplicit false

/-!
# Routes

The route of an event into a profile: the schema that speaks for the profile, the channel, and the URI that
the event is announced under. A login is announced under its own URI only; for other events the URI of the
channel stands in.
-/

namespace SecurityEvents

/-- The way of an event into a profile. -/
structure Route where
  schema : Schema
  channel : Channel
  eventUri : String
  deriving DecidableEq, Repr

namespace Route

/-- What an event is announced under in a channel. -/
def eventUri? (channel : Channel) (key : String) (rule : AddressRule) : Option String :=
  match channel.eventUri? key, rule with
  | some uri, _ => some uri
  | none, .fallBackToChannel => some channel.uri
  | none, .requireEventUri => none

/-- The route to what the metadata of an event point at. -/
def ofMetadata (p : Profile) (schema : Schema) (rule : AddressRule) (m : EventMetadata) :
    Except SkipReason Route :=
  match p.channel? m.channelUri with
  | none => .error (.noChannel m.channelUri)
  | some channel =>
    match eventUri? channel m.eventKey rule with
    | none => .error (.noEventUri m.eventKey)
    | some eventUri => .ok { schema, channel, eventUri }

end Route

/-- The route of an event into a profile, or why there is none. A manager may panic. -/
def Catalog.route (c : Catalog) (eventName : String) (category : Category) (p : Profile) :
    Except Panic (Except SkipReason Route) :=
  match c.schemaOf p with
  | none => .ok (.error .unsupportedSchema)
  | some schema =>
    match c.locate p eventName category with
    | .error panic => .error panic
    | .ok none => .ok (.error .noEventMetadata)
    | .ok (some m) => .ok (Route.ofMetadata p schema category.addressRule m)

end SecurityEvents
