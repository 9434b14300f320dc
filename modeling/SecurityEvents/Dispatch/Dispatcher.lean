import SecurityEvents.Dispatch.Route
import SecurityEvents.Encoder
import SecurityEvents.Provider.Basic
import SecurityEvents.Token.Stamp
set_option autoImplicit false

/-!
# Dispatching

A dispatcher takes an event through every active profile: it looks for the route into the profile, asks the
gates, has the payload encoded, puts it into a stamped token and hands the token to the publisher. The first
of these that fails decides what the report says of the profile.

Profiles do not disturb one another. An error of an encoder or the publisher, and any panic, concerns the
profile that was being served; only an event whose data cannot be extracted, and profiles that cannot be
listed, fail as a whole. Here they are served one after the other; `FanOut` says how they are served several
at a time.
-/

namespace SecurityEvents

/-- The state of the services together with the source of the stamps. -/
structure Issuing (σ : Type) where
  stamper : Stamper
  services : σ

/-- The services as a part of what issuing needs. -/
def Issuing.part (σ : Type) : Part (Issuing σ) σ where
  get s := s.services
  set services s := { s with services }

/-- An act of the services. -/
def Act.ofServices {σ α : Type} (act : Act σ α) : Act (Issuing σ) α :=
  act.on (Issuing.part σ)

theorem Act.ofServices_pure {σ α : Type} (a : α) : (pure a : Act σ α).ofServices = pure a := rfl

theorem Act.ofServices_bind {σ α β : Type} (act : Act σ α) (next : α → Act σ β) :
    (act >>= next).ofServices = act.ofServices >>= fun a => (next a).ofServices := by
  funext s
  simp only [ofServices, Act.on, bind, EStateM.bind]
  cases act ⟨(Issuing.part σ).get s.state, s.notices⟩ <;> rfl

/-- The next stamp. -/
def Act.stamp {σ : Type} : Act (Issuing σ) Stamp := fun s =>
  .ok s.state.stamper.next { s with state.stamper := s.state.stamper.advance }

/-- What takes events to the profiles, with services of state `σ`. -/
structure Dispatcher (σ : Type) where
  config : Configuration
  provider : Provider σ
  catalog : Catalog
  encoders : EncoderRegistry σ
  gates : List (Gate σ)
  publisher : Publisher σ

/-- An event with its category and its data. -/
structure Occurrence where
  eventName : String
  category : Category
  data : EventData

/-- Why a profile was not served. -/
inductive Stop where
  | skip (reason : SkipReason)
  | fail (error : Error)
  deriving DecidableEq, Repr

namespace Dispatcher

variable {σ : Type}

/-- What a token for a profile is made for. -/
def context (o : Occurrence) (p : Profile) (route : Route) : PublishContext where
  tenantDomain := o.data.publishTenantDomain o.category
  eventUri := route.channel.uri
  profileName := p.name
  profileVersion := p.version

/-- What the tokens of an occurrence have in common. -/
def envelope (d : Dispatcher σ) (o : Occurrence) (tenant : Option String) : Envelope where
  issuer := d.config.issuerFor tenant
  correlationId := o.data.correlationId
  subject := o.data.userId.map SubjectId.opaqueId

/-- What the gates are asked about. -/
def gateInput (o : Occurrence) (p : Profile) (route : Route) : GateInput :=
  ⟨o.data, o.category, p, context o p route⟩

/-- Asks gates. -/
def consult (gates : List (Gate σ)) (o : Occurrence) (p : Profile) (route : Route) :
    Act (Issuing σ) (Except Stop Unit) := do
  match ← (Gate.evaluate gates (gateInput o p route)).ofServices with
  | .ok () => return .ok ()
  | .error denial => return .error (.skip (.ineligible denial))

/-- Has the payload encoded. -/
def encode (d : Dispatcher σ) (o : Occurrence) (schema : Schema) :
    Act (Issuing σ) (Except Stop Payload) := do
  match d.encoders.find? schema o.category with
  | none => return .error (.skip .noEncoder)
  | some encoder =>
    match ← (encoder.encode o.category o.data).ofServices with
    | .ok payload => return .ok payload
    | .error cause => return .error (.fail (.encoding cause))

/-- Makes the token. A stamp is drawn only when there is a payload. -/
def issue (d : Dispatcher σ) (o : Occurrence) (p : Profile) (route : Route) :
    Act (Issuing σ) (Except Stop Token) := do
  match ← d.encode o route.schema with
  | .error stop => return .error stop
  | .ok payload =>
    let envelope := d.envelope o (context o p route).tenantDomain
    return .ok (envelope.token (← Act.stamp) payload route.eventUri)

/-- Hands the token to the publisher. Answers what the event was announced under. -/
def publish (d : Dispatcher σ) (o : Occurrence) (p : Profile) (route : Route) (token : Token) :
    Act (Issuing σ) (Except Stop String) := do
  match ← (d.publisher.publish token (context o p route)).ofServices with
  | .ok () => return .ok route.eventUri
  | .error cause => return .error (.fail (.publishFailed p.name cause.message))

/-- Serves a profile on a route, with gates that are still to be asked. -/
def throughGates (d : Dispatcher σ) (o : Occurrence) (p : Profile) (route : Route)
    (gates : List (Gate σ)) : Act (Issuing σ) (Except Stop String) := do
  match ← consult gates o p route with
  | .error stop => return .error stop
  | .ok () =>
    match ← d.issue o p route with
    | .error stop => return .error stop
    | .ok token => d.publish o p route token

/-- Serves a profile, up to the first thing that stops it. Answers what the event was announced under. -/
def attempt (d : Dispatcher σ) (o : Occurrence) (p : Profile) : Act (Issuing σ) (Except Stop String) := do
  match ← Act.ofExcept (d.catalog.route o.eventName o.category p) with
  | .error reason => return .error (.skip reason)
  | .ok route => d.throughGates o p route d.gates

/-- What came of an attempt to serve a profile. -/
def outcome (p : Profile) : Except Panic (Except Stop String) → Outcome
  | .ok (.ok eventUri) => .published eventUri
  | .ok (.error (.skip reason)) => .skipped reason
  | .ok (.error (.fail error)) => .failed error
  | .error panic => .failed (.profilePanicked p.name panic.message)

/-- What is noted of an attempt to serve a profile. -/
def notice (p : Profile) : Except Panic (Except Stop String) → Notice
  | .ok (.ok _) => .published p.name
  | .ok (.error (.skip _)) => .skipped p.name
  | .ok (.error (.fail _)) => .failed p.name
  | .error _ => .profilePanicked p.name

/-- Serves a profile, whatever happens. -/
def serve (d : Dispatcher σ) (o : Occurrence) (p : Profile) : Act (Issuing σ) ProfileReport := do
  let result ← (d.attempt o p).caught
  Act.note (notice p result)
  return ⟨p.name, p.version, outcome p result⟩

/-- Serves profiles one after the other. -/
def serveAll (d : Dispatcher σ) (o : Occurrence) : List Profile → Act (Issuing σ) (List ProfileReport)
  | [] => pure []
  | p :: rest => do
    let report ← d.serve o p
    return report :: (← d.serveAll o rest)

/-- Takes an event to every active profile. -/
def dispatch (d : Dispatcher σ) (event : Event) (category : Category) :
    Act (Issuing σ) (Except Error Report) := do
  match EventData.ofEvent event with
  | .error error => return .error error
  | .ok data =>
    match ← d.provider.list.ofServices with
    | .error error => return .error error
    | .ok profiles =>
      if profiles.isEmpty then Act.note .noProfiles
      let reports ← d.serveAll ⟨event.name, category, data⟩ profiles
      return .ok ⟨event.name, category, reports⟩

/-- How a dispatcher is described. -/
def description (d : Dispatcher σ) : String :=
  Text.braced "Dispatcher"
    [("config", d.config.description), ("catalog", d.catalog.description),
      ("encoders", d.encoders.description), ("eligibility", Gate.describe d.gates)]
    false

end Dispatcher

end SecurityEvents
