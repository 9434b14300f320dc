import SecurityEvents.Configuration
import SecurityEvents.EventData
import SecurityEvents.Profile
import SecurityEvents.Publication.Basic
import SecurityEvents.Text.Quoted
set_option autoImplicit false

/-!
# Eligibility

Gates stand between an event and a profile. They are asked in order, and the first that denies decides; the
gates behind it are not asked. The standard gates concern logins, except for the last, which asks the
publisher.
-/

namespace SecurityEvents

/-- What a gate is asked about. -/
structure GateInput where
  data : EventData
  category : Category
  profile : Profile
  context : PublishContext

/-- The answer of a gate. -/
inductive Decision where
  | allow
  | deny (reason : String)
  deriving DecidableEq, Repr

/-- A gate, with services of state `σ`. -/
structure Gate (σ : Type) where
  name : String
  check : GateInput → Act σ Decision

/-- Which gate denied, and why. -/
structure Denial where
  gate : String
  reason : String
  deriving DecidableEq, Repr

/-- The answer to a login for which a fact holds. -/
def denyLogin (input : GateInput) (fact : AuthenticationContext → Bool) (reason : String) : Decision :=
  if input.category.isLogin && input.data.authentication.any fact then .deny reason else .allow

namespace Gate

variable {σ : Type}

/-- Denies logins without a prompt. -/
def passiveAuthentication : Gate σ where
  name := "passive_authentication"
  check input := pure (denyLogin input (·.passiveAuthenticate) "passive authentication")

/-- Denies logins to one application. -/
def systemApplication (application : String) : Gate σ where
  name := "system_application"
  check input := pure (denyLogin input (fun context => context.serviceProviderName = some application)
    ("login to system application " ++ application))

/-- Denies logins of users who are federated through one identity provider. -/
def organizationFederation (idp : String) : Gate σ where
  name := "organization_federation"
  check input := pure (denyLogin input (fun context => context.authenticatedUser.any fun user =>
    user.federatedUser && user.federatedIdpName = some idp) "organization federated user")

/-- Denies what the publisher does not take. -/
def publishEnabled (publisher : Publisher σ) : Gate σ where
  name := "publish_enabled"
  check input := do
    return if ← publisher.accepts input.context then .allow else .deny "publishing disabled"

/-- The standard gates. -/
def standard (config : Configuration) (publisher : Publisher σ) : List (Gate σ) :=
  [passiveAuthentication, systemApplication config.systemApplication,
    organizationFederation config.organizationIdp, publishEnabled publisher]

/-- The first denial among gates, if there is one. -/
def evaluate : List (Gate σ) → GateInput → Act σ (Except Denial Unit)
  | [], _ => pure (.ok ())
  | gate :: rest, input => do
    match ← gate.check input with
    | .deny reason => return .error ⟨gate.name, reason⟩
    | .allow => evaluate rest input

/-- How gates are described. -/
def describe (gates : List (Gate σ)) : String :=
  Text.braced "EligibilityFilter"
    [("gates", Text.bracketed (gates.map fun gate => Text.quoted gate.name))]

end Gate

end SecurityEvents
