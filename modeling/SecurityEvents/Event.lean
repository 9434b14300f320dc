import SecurityEvents.Flow
import SecurityEvents.Json.Writer
set_option autoImplicit false

/-!
# Events

An event arrives with a name, parameters by name, and the flow it happened in, where that is known. No
parameter stands twice, at any depth.
-/

namespace SecurityEvents

/-- The parameters of an event, in order. -/
structure Parameters where
  members : List (String × Json)
  keyed : Json.membersKeyed members = true := by rfl
  deriving DecidableEq

namespace Parameters

/-- No parameters. -/
def empty : Parameters := ⟨[], rfl⟩

/-- The parameter of this name. -/
def get? (ps : Parameters) (name : String) : Option Json :=
  ps.members.lookup name

/-- The names of the parameters. -/
def names (ps : Parameters) : List String :=
  ps.members.map (·.1)

/-- The parameters as a JSON object. -/
def json (ps : Parameters) : Json :=
  .object ps.members

/-- Parameters in a document. -/
def reading : Json.Reading Parameters := fun budget t =>
  match Json.Reading.keyed budget t with
  | some ⟨.object members, h⟩ => some ⟨members, by simpa [Json.isKeyed] using h⟩
  | _ => none

end Parameters

/-- An event as its source reports it. -/
structure Event where
  name : String
  parameters : Parameters
  flow : Option Flow
  deriving DecidableEq

namespace Event

/-- The fields of an event in a document. -/
def layout : List Json.Field :=
  [{ name := "name" }, { name := "parameters", omissible := true },
    { name := "flow", omissible := true }]

/-- An event in a document. -/
def reading : Json.Reading Event :=
  Json.Reading.record layout fun fs => do
    let name ← fs.required "name" Json.Reading.text
    let parameters ← fs.defaulted "parameters" .empty Parameters.reading
    let flow ← fs.optional "flow" Flow.reading
    some ⟨name, parameters, flow⟩

/-- The document of an event. -/
def json (e : Event) : Json :=
  Json.ofFields [("name", some (.string e.name)), ("parameters", some e.parameters.json),
    ("flow", e.flow.map Flow.json)]

/-- The event as it is when it is captured in a flow, or in none. -/
def capturedIn (e : Event) (flow : Option Flow) : Event :=
  { e with flow }

end Event

/-! ## Names of events -/

namespace EventName

/-- A user signed in. -/
def authenticationSuccess : String := "AUTHENTICATION_SUCCESS"
/-- One step of a sign-in failed. -/
def authenticationStepFailure : String := "AUTHENTICATION_STEP_FAILURE"
/-- A sign-in failed. -/
def authenticationFailure : String := "AUTHENTICATION_FAILURE"
/-- A session ended. -/
def sessionTerminate : String := "SESSION_TERMINATE"
/-- A user has a new password. -/
def postAddNewPassword : String := "POST_ADD_NEW_PASSWORD"
/-- A credential was changed through the provisioning interface. -/
def postUpdateCredentialByScim : String := "POST_UPDATE_CREDENTIAL_BY_SCIM"
/-- A user was added. -/
def postAddUser : String := "POST_ADD_USER"
/-- A user was deleted. -/
def postDeleteUser : String := "POST_DELETE_USER"
/-- An account was locked. -/
def postLockAccount : String := "POST_LOCK_ACCOUNT"
/-- An account was unlocked. -/
def postUnlockAccount : String := "POST_UNLOCK_ACCOUNT"
/-- An account was enabled. -/
def postEnableAccount : String := "POST_ENABLE_ACCOUNT"
/-- An account was disabled. -/
def postDisableAccount : String := "POST_DISABLE_ACCOUNT"
/-- Claims of a user were changed. -/
def postSetUserClaimValuesWithId : String := "POST_SET_USER_CLAIM_VALUES_WITH_ID"
/-- The members of a group were changed. -/
def postUpdateUserListOfRole : String := "POST_UPDATE_USER_LIST_OF_ROLE"
/-- A registration failed. -/
def userRegistrationFailed : String := "USER_REGISTRATION_FAILED"

end EventName

/-! ## Names of parameters -/

namespace ParameterName

/-- The tenant of the user. -/
def tenantDomain : String := "TENANT_DOMAIN"
/-- The number of the tenant. -/
def tenantId : String := "TENANT_ID"
/-- The id of the user. -/
def userId : String := "USER_ID"
/-- The name of the user, which may be qualified by a user store. -/
def userName : String := "USER_NAME"
/-- The user store. -/
def userStoreDomain : String := "USER_STORE_DOMAIN"
/-- Claims of the user. -/
def userClaims : String := "USER_CLAIMS"
/-- Claims that were added. -/
def userClaimsAdded : String := "USER_CLAIMS_ADDED"
/-- Claims that were modified. -/
def userClaimsModified : String := "USER_CLAIMS_MODIFIED"
/-- Claims that were deleted. -/
def userClaimsDeleted : String := "USER_CLAIMS_DELETED"
/-- The address of the user. -/
def emailAddress : String := "EMAIL_ADDRESS"
/-- The name of the group. -/
def roleName : String := "ROLE_NAME"
/-- The id of the group. -/
def roleId : String := "ROLE_ID"
/-- The users who joined the group. -/
def newUsers : String := "NEW_USERS"
/-- The users who left the group. -/
def deletedUsers : String := "DELETED_USERS"
/-- What went wrong, in words. -/
def errorMessage : String := "ERROR_MESSAGE"
/-- What went wrong, as a code. -/
def errorCode : String := "ERROR_CODE"
/-- The id of the session. -/
def sessionId : String := "SESSION_ID"
/-- The id of the application. -/
def clientId : String := "CLIENT_ID"
/-- The name of the application. -/
def applicationName : String := "APPLICATION_NAME"
/-- What ties an announcement to the request it comes from. -/
def correlationId : String := "CORRELATION_ID"
/-- The authentication that the event belongs to. -/
def context : String := "CONTEXT"

end ParameterName

end SecurityEvents
