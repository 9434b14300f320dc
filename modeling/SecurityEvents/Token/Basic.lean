import SecurityEvents.Error
import SecurityEvents.Json.Writer
import SecurityEvents.Number.Decimal
import SecurityEvents.Subject
import SecurityEvents.Token.Events
set_option autoImplicit false

/-!
# Security event tokens

A token is an announcement as it is sent: who issues it, when, under which id, what request it comes from,
whom it is about, and the events. A token that is received has exactly one event.
-/

namespace SecurityEvents

/-- A security event token. -/
structure Token where
  issuer : String
  issuedAt : Int64
  id : String
  correlationId : Option String
  subject : Option SubjectId
  events : EventMap
  deriving DecidableEq

namespace Token

/-- The fields of a token in a document. -/
def layout : List Json.Field :=
  [{ name := "iss" }, { name := "iat" }, { name := "jti" }, { name := "rci", omissible := true },
    { name := "sub_id", omissible := true }, { name := "events" }]

/-- A token in a document. -/
def reading : Json.Reading Token :=
  Json.Reading.record layout fun fs => do
    let issuer ← fs.required "iss" Json.Reading.text
    let issuedAt ← fs.required "iat" (Json.Reading.number Json.Number.toInt64?)
    let id ← fs.required "jti" Json.Reading.text
    let correlationId ← fs.optional "rci" Json.Reading.text
    let subject ← fs.optional "sub_id" SubjectId.reading
    let events ← fs.required "events" EventMap.reading
    some { issuer, issuedAt, id, correlationId, subject, events }

/-- The document of a token. -/
def json (t : Token) : Json :=
  Json.ofFields
    [("iss", some (.string t.issuer)), ("iat", some (.number (.ofInt64 t.issuedAt))),
      ("jti", some (.string t.id)), ("rci", t.correlationId.map Json.string),
      ("sub_id", t.subject.map SubjectId.json), ("events", some t.events.json)]

/-- The URI of the first event. -/
def eventUri? (t : Token) : Option String :=
  t.events.first?.map (·.1)

/-- The payload of the first event. -/
def payload? (t : Token) : Option Payload :=
  t.events.first?.map (·.2)

/-- The token as it is sent: the UTF-8 form of its JSON text. -/
def toOctets (t : Token) : ByteArray :=
  t.json.text.toUTF8

/-- Why octets are not taken for a token. -/
inductive Refusal where
  /-- They are no document of a token. -/
  | unreadable
  /-- The number of events is not one. -/
  | eventCount (n : Nat)
  deriving DecidableEq, Repr

/-- A refusal as an error of encoding, with the cause that the reader of the text gives. -/
def Refusal.error (cause : String) : Refusal → EncodeError
  | .unreadable => .serialization cause
  | .eventCount n =>
    .invalidField "events" ("expected exactly one event, found " ++ Decimal.text n)

/-- The token that octets stand for. -/
def ofOctets (octets : ByteArray) : Except Refusal Token :=
  match reading.ofPlaces (Text.places octets) with
  | none => .error .unreadable
  | some t => if t.events.size = 1 then .ok t else .error (.eventCount t.events.size)

/-- The token without what tells it from another announcement of the same: its time and its id. -/
def unstamped (t : Token) : Token :=
  { t with issuedAt := 0, id := "" }

end Token

end SecurityEvents
