import SecurityEvents.Configuration
import SecurityEvents.EventData
import SecurityEvents.Payload.Document
set_option autoImplicit false

/-!
# Payloads of the WSO2 schema

Every category has a payload. All of them name the tenant that the announcement belongs to and the user
store; what else they hold depends on the category. An event that does not tell what a payload needs is
refused, and the first thing that is found missing or wrong is blamed: the tenant before anything else.
-/

namespace SecurityEvents.Wso2

/-! ## Names -/

namespace ClaimUri

/-- The address of the user. -/
def emailAddress : String := "http://wso2.org/claims/emailaddress"
/-- The id of the user. -/
def userId : String := "http://wso2.org/claims/userid"
/-- Where the user is found, as an URL that ends in the id. -/
def location : String := "http://wso2.org/claims/location"
/-- The name of the user. -/
def username : String := "http://wso2.org/claims/username"

end ClaimUri

/-- What initiated the event: the persona of its flow. -/
def initiatorType (data : EventData) : Option String :=
  (data.flow.bind Flow.persona?).map Persona.name

/-- What a flow does to a user, in one word. -/
def actionOf : FlowName → Option String
  | .profileUpdate => some "UPDATE"
  | .userRegistrationInviteWithPassword | .invitedUserRegistration => some "INVITE"
  | .userRegistration => some "REGISTER"
  | .jitProvision => some "JUST_IN_TIME"
  | .credentialReset => none

/-- What the flow of the event does to the user. -/
def action (data : EventData) : Option String :=
  (data.flow.bind fun flow => FlowName.ofName? flow.name).bind actionOf

/-! ## Users -/

/-- Where a user of the event's tenant is found. -/
def userReference (config : Configuration) (data : EventData) (userId : String) : String :=
  config.issuerFor data.tenantDomain ++ "/scim2/Users/" ++ userId

/-- The user with an id. -/
def userWithId (config : Configuration) (data : EventData) (userId : String) : User :=
  { id := some userId, reference := some (userReference config data userId) }

/-- A thing that a payload cannot do without. -/
def required {α : Type} (category : Category) (field : String) : Option α → Except EncodeError α
  | some x => .ok x
  | none => .error (.missingField category field)

/-- The user of the event, who has to have an id. -/
def requiredUser (config : Configuration) (category : Category) (data : EventData) :
    Except EncodeError User := do
  return userWithId config data (← required category "user id" data.userId)

/-- The name of the user as a claim. -/
def usernameClaim (data : EventData) : List UserClaim :=
  (data.userName.map fun name => UserClaim.mk ClaimUri.username name).toList

/-- The address of the user as a claim. -/
def emailClaim (data : EventData) : List UserClaim :=
  ((data.string? ParameterName.emailAddress).map fun address =>
    UserClaim.mk ClaimUri.emailAddress address).toList

/-- The value of a claim; an empty value is none. -/
def claimOf? (claims : List (String × String)) (uri : String) : Option String :=
  (claims.lookup uri).filter (· ≠ "")

/-- The claims about a user, except some. -/
def userClaims (claims : List (String × String)) (except : List String) : List UserClaim :=
  (claims.filter fun claim => !except.contains claim.1).map fun (uri, value) => ⟨uri, value⟩

/-- The name of a user behind the first slash, or the whole name. -/
def memberName (qualified : String) : String :=
  match Text.cutAtSlash? qualified.toList with
  | some (_, name) => String.ofList name
  | none => qualified

/-- The member of a group with this name. -/
def member (qualified : String) : User :=
  { claims := [⟨ClaimUri.username, memberName qualified⟩] }

/-! ## Applications and reasons -/

/-- The application, if either its id or its name is known. -/
def application? (id name : Option String) : Option Application :=
  if id.isSome || name.isSome then some ⟨id, name⟩ else none

/-- The application that the user signs in to. -/
def loginApplication (data : EventData) : Option Application :=
  data.authentication.bind fun context =>
    application? context.serviceProviderId context.serviceProviderName

/-- The step that a login has reached. -/
def reachedStep (data : EventData) : Option FailedStep :=
  data.authentication.map fun context =>
    ⟨context.currentStep, context.currentIdp, context.currentAuthenticator⟩

/-- Why something failed, in the words of the event where it has any. -/
def reason (data : EventData) (otherwise : String) (failedStep : Option FailedStep) : Reason where
  description := (data.string? ParameterName.errorMessage).getD otherwise
  code := data.string? ParameterName.errorCode
  failedStep

/-! ## Documents by category -/

/-- What all payloads have in common. -/
def base (category : Category) (data : EventData) : Except EncodeError Document := do
  let name ← required category "tenant domain" (data.publishTenantDomain category)
  return { tenant := ⟨data.tenantId, name⟩, userStore := data.userStoreDomain.map UserStore.ofDomain }

/-- A credential was changed. -/
def credentialUpdate (config : Configuration) (data : EventData) : Except EncodeError Document := do
  let document ← base .credentialUpdate data
  let user ← requiredUser config .credentialUpdate data
  return { document with
    user := some { user with claims := usernameClaim data }
    initiatorType := initiatorType data }

/-- A user signed in. -/
def loginSuccess (config : Configuration) (data : EventData) : Except EncodeError Document := do
  let document ← base .loginSuccess data
  let user ← requiredUser config .loginSuccess data
  return { document with
    user := some { user with claims := usernameClaim data }
    application := loginApplication data
    authenticationMethods :=
      (data.authentication.map AuthenticationContext.authenticationMethods).getD [] }

/-- A user did not succeed to sign in; who it was need not be known. -/
def loginFailure (config : Configuration) (data : EventData) : Except EncodeError Document := do
  let document ← base .loginFailure data
  return { document with
    user := data.userId.map (userWithId config data)
    application := loginApplication data
    reason := some (reason data "Authentication failed" (reachedStep data)) }

/-- The tokens of a session were revoked. -/
def tokenRevoke (config : Configuration) (data : EventData) : Except EncodeError Document := do
  let document ← base .tokenRevoke data
  let user ← requiredUser config .tokenRevoke data
  return { document with
    user := some user
    initiatorType := initiatorType data
    sessionId := data.string? ParameterName.sessionId
    application := application? (data.string? ParameterName.clientId)
      (data.string? ParameterName.applicationName) }

/-- A user was created or has registered; the id may be among the claims. -/
def userCreated (config : Configuration) (category : Category) (data : EventData) :
    Except EncodeError Document := do
  let document ← base category data
  let claims ← data.claims ParameterName.userClaims
  let userId ← required category "user id" (data.userId.or (claimOf? claims ClaimUri.userId))
  return { document with
    user := some { userWithId config data userId with claims := userClaims claims [ClaimUri.userId] }
    initiatorType := initiatorType data
    action := action data }

/-- A user was deleted. -/
def userDeleted (config : Configuration) (data : EventData) : Except EncodeError Document := do
  let document ← base .userDeleted data
  let user ← requiredUser config .userDeleted data
  return { document with
    user := some { user with claims := usernameClaim data ++ emailClaim data }
    initiatorType := initiatorType data }

/-- An account was locked or unlocked, enabled or disabled. Locks are set by the server itself, so nobody
initiates them. -/
def userAccount (config : Configuration) (category : Category) (data : EventData) :
    Except EncodeError Document := do
  let document ← base category data
  let user ← requiredUser config category data
  return { document with
    user := some { user with claims := emailClaim data }
    initiatorType :=
      if category = .userEnabled || category = .userDisabled then initiatorType data else none }

/-- Claims of a user were changed. -/
def userProfileUpdated (config : Configuration) (data : EventData) : Except EncodeError Document := do
  let document ← base .userProfileUpdated data
  let user ← requiredUser config .userProfileUpdated data
  let added ← data.claims ParameterName.userClaimsAdded
  let modified ← data.claims ParameterName.userClaimsModified
  let deleted ← data.claims ParameterName.userClaimsDeleted
  return { document with
    user := some { user with
      addedClaims := userClaims added []
      updatedClaims := userClaims modified []
      removedClaims := userClaims deleted [] }
    initiatorType := initiatorType data
    action := action data }

/-- Users joined or left a group. -/
def userGroupUpdated (data : EventData) : Except EncodeError Document := do
  let document ← base .userGroupUpdated data
  let name ← required .userGroupUpdated "group name" (data.string? ParameterName.roleName)
  let added ← data.strings ParameterName.newUsers
  let removed ← data.strings ParameterName.deletedUsers
  return { document with
    group := some {
      id := data.string? ParameterName.roleId
      name
      addedUsers := added.map member
      removedUsers := removed.map member }
    initiatorType := initiatorType data }

/-- The id at the end of a location; an empty id is none. -/
def idOfLocation? (location : String) : Option String :=
  let id := Text.afterLastSlash location.toList
  if id.isEmpty then none else some (String.ofList id)

/-- A registration failed. The user does not exist yet, but a location may be reserved. -/
def registrationFailure (config : Configuration) (data : EventData) : Except EncodeError Document := do
  let document ← base .registrationFailure data
  let claims ← data.claims ParameterName.userClaims
  let userId := data.userId.or ((claimOf? claims ClaimUri.location).bind idOfLocation?)
  let user := (userId.map (userWithId config data)).getD {}
  return { document with
    user := some { user with claims := userClaims claims [ClaimUri.location, ClaimUri.userId] }
    initiatorType := initiatorType data
    action := action data
    reason := some (reason data "User registration failed" none) }

/-- The payload for an event of a category. -/
def document (config : Configuration) (category : Category) (data : EventData) :
    Except EncodeError Document :=
  match category with
  | .credentialUpdate => credentialUpdate config data
  | .loginSuccess => loginSuccess config data
  | .loginFailure => loginFailure config data
  | .tokenRevoke => tokenRevoke config data
  | .userCreated | .registrationSuccess => userCreated config category data
  | .userDeleted => userDeleted config data
  | .userLocked | .userUnlocked | .userEnabled | .userDisabled => userAccount config category data
  | .userProfileUpdated => userProfileUpdated config data
  | .userGroupUpdated => userGroupUpdated data
  | .registrationFailure => registrationFailure config data

/-- The payload for an event of a category, as a value. -/
def encode (config : Configuration) (category : Category) (data : EventData) :
    Except EncodeError Payload :=
  (document config category data).map Document.payload

end SecurityEvents.Wso2
