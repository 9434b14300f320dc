import SecurityEvents.Category
import SecurityEvents.Event
import SecurityEvents.Text.Blank
set_option autoImplicit false

/-!
# Classification

A classifier recognises the events of one area by their names and gives them categories. Two names say too
little on their own and are settled by the flow: a new password counts only when it was reset, and a new
user has either been created or registered. Classifiers look at the flow for these names alone.
-/

namespace SecurityEvents

/-- A classifier, under the name of the handler it works for. -/
structure Classifier where
  name : String
  classify : Event → Except ClassificationError (Option Category)

namespace Event

/-- The name of an event, which must not be blank. -/
def properName (e : Event) : Except ClassificationError String :=
  if Text.isBlankText e.name then .error .missingEventName else .ok e.name

/-- The operation that the event happened in, if there is one; its name has to be known. -/
def flowName (e : Event) : Except ClassificationError (Option FlowName) :=
  match e.flow with
  | none => .ok none
  | some flow => flow.knownName.map some

end Event

namespace Classifier

/-- Whether the classifier has a category for the event. -/
def accepts (c : Classifier) (e : Event) : Bool :=
  match c.classify e with
  | .ok (some _) => true
  | _ => false

/-- Sign-ins, successful or not. -/
def login : Classifier where
  name := "LoginEventHook"
  classify e := do
    let name ← e.properName
    if name = EventName.authenticationSuccess then return some .loginSuccess
    else if name = EventName.authenticationStepFailure || name = EventName.authenticationFailure then
      return some .loginFailure
    else return none

/-- Changes of credentials. -/
def credential : Classifier where
  name := "CredentialEventHook"
  classify e := do
    let name ← e.properName
    if name = EventName.postAddNewPassword then
      let flow ← e.flowName
      return if flow = some .credentialReset then some .credentialUpdate else none
    else if name = EventName.postUpdateCredentialByScim then return some .credentialUpdate
    else return none

/-- Ends of sessions, with which tokens are revoked. -/
def tokens : Classifier where
  name := "TokensEventHook"
  classify e := do
    let name ← e.properName
    return if name = EventName.sessionTerminate then some .tokenRevoke else none

/-- The category of an event that administers a user and needs no flow. -/
def userOperation? (name : String) : Option Category :=
  if name = EventName.postDeleteUser then some .userDeleted
  else if name = EventName.postLockAccount then some .userLocked
  else if name = EventName.postUnlockAccount then some .userUnlocked
  else if name = EventName.postEnableAccount then some .userEnabled
  else if name = EventName.postDisableAccount then some .userDisabled
  else if name = EventName.postSetUserClaimValuesWithId then some .userProfileUpdated
  else if name = EventName.postUpdateUserListOfRole then some .userGroupUpdated
  else none

/-- Administration of users; a user who is added without registering is created. -/
def userOperation : Classifier where
  name := "UserOperationEventHook"
  classify e := do
    let name ← e.properName
    if name = EventName.postAddUser then
      let flow ← e.flowName
      return if flow.any (·.isRegistration) then none else some .userCreated
    else return userOperation? name

/-- Registrations, successful or not. -/
def registration : Classifier where
  name := "RegistrationEventHook"
  classify e := do
    let name ← e.properName
    if name = EventName.postAddUser then
      let flow ← e.flowName
      return if flow.any (·.isRegistration) then some .registrationSuccess else none
    else if name = EventName.userRegistrationFailed then return some .registrationFailure
    else return none

/-- The five classifiers, in the order of their handlers. -/
def all : List Classifier := [login, credential, tokens, userOperation, registration]

end Classifier

end SecurityEvents
