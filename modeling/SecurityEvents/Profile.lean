import SecurityEvents.Json.Record
set_option autoImplicit false

/-!
# Profiles

A profile says which events a receiver wants to hear of. Its name is that of a schema, and its events are
grouped into channels. An event is found by the URI of its channel and a key inside the channel, which
together are its metadata; what it is announced under is an URI of its own.
-/

namespace SecurityEvents

/-- An event of a channel. -/
structure ChannelEvent where
  key : String
  uri : String
  deriving DecidableEq, Repr

/-- A channel with its events. -/
structure Channel where
  name : String
  uri : String
  events : List ChannelEvent
  deriving DecidableEq, Repr

/-- A profile with its channels. -/
structure Profile where
  name : String
  version : String
  channels : List Channel
  deriving DecidableEq, Repr

/-- Where an event is found in a profile. -/
structure EventMetadata where
  channelUri : String
  eventKey : String
  deriving DecidableEq, Repr

namespace ChannelEvent

/-- The fields of an event in a document. -/
def layout : List Json.Field :=
  [{ name := "eventKey" }, { name := "eventUri" }]

/-- An event in a document. -/
def reading : Json.Reading ChannelEvent :=
  Json.Reading.record layout fun fs => do
    let key ← fs.required "eventKey" Json.Reading.text
    let uri ← fs.required "eventUri" Json.Reading.text
    some ⟨key, uri⟩

/-- The document of an event. -/
def json (e : ChannelEvent) : Json :=
  .object [("eventKey", .string e.key), ("eventUri", .string e.uri)]

end ChannelEvent

namespace Channel

/-- The fields of a channel in a document. -/
def layout : List Json.Field :=
  [{ name := "name", omissible := true }, { name := "uri" }, { name := "events", omissible := true }]

/-- A channel in a document. -/
def reading : Json.Reading Channel :=
  Json.Reading.record layout fun fs => do
    let name ← fs.defaulted "name" "" Json.Reading.text
    let uri ← fs.required "uri" Json.Reading.text
    let events ← fs.defaulted "events" [] (Json.Reading.list ChannelEvent.reading)
    some ⟨name, uri, events⟩

/-- The document of a channel. -/
def json (c : Channel) : Json :=
  .object [("name", .string c.name), ("uri", .string c.uri),
    ("events", .array (c.events.map ChannelEvent.json))]

/-- What the event of this key is announced under; the first event of the key counts. -/
def eventUri? (c : Channel) (key : String) : Option String :=
  (c.events.find? (·.key == key)).map (·.uri)

end Channel

namespace Profile

/-- The fields of a profile in a document; the name may be called `profile` there. -/
def layout : List Json.Field :=
  [{ name := "name", others := ["profile"] }, { name := "version" },
    { name := "channels", omissible := true }]

/-- A profile in a document. -/
def reading : Json.Reading Profile :=
  Json.Reading.record layout fun fs => do
    let name ← fs.required "name" Json.Reading.text
    let version ← fs.required "version" Json.Reading.text
    let channels ← fs.defaulted "channels" [] (Json.Reading.list Channel.reading)
    some ⟨name, version, channels⟩

/-- The document of a profile. -/
def json (p : Profile) : Json :=
  .object [("name", .string p.name), ("version", .string p.version),
    ("channels", .array (p.channels.map Channel.json))]

/-- The first channel of this URI. -/
def channel? (p : Profile) (uri : String) : Option Channel :=
  p.channels.find? (·.uri == uri)

end Profile

namespace EventMetadata

/-- The fields of metadata in a document. -/
def layout : List Json.Field :=
  [{ name := "channelUri" }, { name := "eventKey" }]

/-- Metadata in a document. -/
def reading : Json.Reading EventMetadata :=
  Json.Reading.record layout fun fs => do
    let channelUri ← fs.required "channelUri" Json.Reading.text
    let eventKey ← fs.required "eventKey" Json.Reading.text
    some ⟨channelUri, eventKey⟩

/-- The document of metadata. -/
def json (m : EventMetadata) : Json :=
  .object [("channelUri", .string m.channelUri), ("eventKey", .string m.eventKey)]

end EventMetadata

end SecurityEvents
