import SecurityEvents.Act
import SecurityEvents.Token.Basic
set_option autoImplicit false

/-!
# Publication

A publisher takes tokens that are ready, each with the context it was made for, and passes them on. It can
be asked beforehand whether it takes anything for a context.
-/

namespace SecurityEvents

/-- What a token is made for: a tenant, a channel and a profile. -/
structure PublishContext where
  tenantDomain : Option String
  /-- The URI of the channel. -/
  eventUri : String
  profileName : String
  profileVersion : String
  deriving DecidableEq, Repr

namespace PublishContext

/-- The fields of a context in a document. -/
def layout : List Json.Field :=
  [{ name := "tenantDomain" }, { name := "eventUri" }, { name := "profileName" },
    { name := "profileVersion" }]

/-- A context in a document. -/
def reading : Json.Reading PublishContext :=
  Json.Reading.record layout fun fs => do
    let tenantDomain ← fs.optional "tenantDomain" Json.Reading.text
    let eventUri ← fs.required "eventUri" Json.Reading.text
    let profileName ← fs.required "profileName" Json.Reading.text
    let profileVersion ← fs.required "profileVersion" Json.Reading.text
    some { tenantDomain, eventUri, profileName, profileVersion }

/-- The document of a context. -/
def json (c : PublishContext) : Json :=
  .object
    [("tenantDomain", Json.orNull Json.string c.tenantDomain), ("eventUri", .string c.eventUri),
      ("profileName", .string c.profileName), ("profileVersion", .string c.profileVersion)]

end PublishContext

/-- A token and what it was made for. -/
structure Published where
  token : Token
  context : PublishContext
  deriving DecidableEq

namespace Published

/-- The document of what was published. -/
def json (p : Published) : Json :=
  .object [("token", p.token.json), ("context", p.context.json)]

end Published

/-- Why a token was not taken. -/
inductive PublishError where
  | noSubscribers
  | rejected (reason : String)
  | transport (cause : String)
  deriving DecidableEq, Repr

namespace PublishError

/-- The wording of an error. -/
def message : PublishError → String
  | .noSubscribers => "No active subscribers for published events"
  | .rejected reason => "Publish rejected: " ++ reason
  | .transport cause => "Transport error: " ++ cause

end PublishError

/-- Who passes tokens on, with services of state `σ`. -/
structure Publisher (σ : Type) where
  accepts : PublishContext → Act σ Bool
  publish : Token → PublishContext → Act σ (Except PublishError Unit)

/-- A publisher of a part of the state. -/
def Publisher.on {σ τ : Type} (part : Part σ τ) (p : Publisher τ) : Publisher σ where
  accepts context := (p.accepts context).on part
  publish token context := (p.publish token context).on part

end SecurityEvents
