import SecurityEvents.Json.Record
set_option autoImplicit false

/-!
# Authentication contexts

What the server knows of a sign-in while it is under way: the application, the tenant that the user signs in
to, the step that has been reached, and the user. Every field may be missing.
-/

namespace SecurityEvents

/-- The user of an authentication. -/
structure AuthenticatedUser where
  userId : Option String := none
  userName : Option String := none
  userStoreDomain : Option String := none
  tenantDomain : Option String := none
  federatedUser : Bool := false
  federatedIdpName : Option String := none
  accessingOrganization : Option String := none
  userResidentOrganization : Option String := none
  deriving DecidableEq, Repr

/-- An authentication under way. -/
structure AuthenticationContext where
  contextIdentifier : Option String := none
  serviceProviderName : Option String := none
  serviceProviderId : Option String := none
  tenantDomain : Option String := none
  loginTenantDomain : Option String := none
  passiveAuthenticate : Bool := false
  currentStep : Option UInt32 := none
  currentAuthenticator : Option String := none
  currentIdp : Option String := none
  authenticationMethods : List String := []
  authenticatedUser : Option AuthenticatedUser := none
  deriving DecidableEq, Repr

namespace AuthenticatedUser

/-- The fields of a user in a document. -/
def layout : List Json.Field :=
  ["userId", "userName", "userStoreDomain", "tenantDomain", "federatedUser", "federatedIdpName",
    "accessingOrganization", "userResidentOrganization"].map fun name => { name, omissible := true }

/-- A user in a document. -/
def reading : Json.Reading AuthenticatedUser :=
  Json.Reading.record layout fun fs => do
    let userId ← fs.optional "userId" Json.Reading.text
    let userName ← fs.optional "userName" Json.Reading.text
    let userStoreDomain ← fs.optional "userStoreDomain" Json.Reading.text
    let tenantDomain ← fs.optional "tenantDomain" Json.Reading.text
    let federatedUser ← fs.defaulted "federatedUser" false Json.Reading.flag
    let federatedIdpName ← fs.optional "federatedIdpName" Json.Reading.text
    let accessingOrganization ← fs.optional "accessingOrganization" Json.Reading.text
    let userResidentOrganization ← fs.optional "userResidentOrganization" Json.Reading.text
    some { userId, userName, userStoreDomain, tenantDomain, federatedUser, federatedIdpName,
           accessingOrganization, userResidentOrganization }

/-- The document of a user, every field written. -/
def json (u : AuthenticatedUser) : Json :=
  .object
    [("userId", Json.orNull Json.string u.userId),
      ("userName", Json.orNull Json.string u.userName),
      ("userStoreDomain", Json.orNull Json.string u.userStoreDomain),
      ("tenantDomain", Json.orNull Json.string u.tenantDomain),
      ("federatedUser", .bool u.federatedUser),
      ("federatedIdpName", Json.orNull Json.string u.federatedIdpName),
      ("accessingOrganization", Json.orNull Json.string u.accessingOrganization),
      ("userResidentOrganization", Json.orNull Json.string u.userResidentOrganization)]

end AuthenticatedUser

namespace AuthenticationContext

/-- The fields of a context in a document. -/
def layout : List Json.Field :=
  ["contextIdentifier", "serviceProviderName", "serviceProviderId", "tenantDomain",
    "loginTenantDomain", "passiveAuthenticate", "currentStep", "currentAuthenticator", "currentIdp",
    "authenticationMethods", "authenticatedUser"].map fun name => { name, omissible := true }

/-- A context in a document. -/
def reading : Json.Reading AuthenticationContext :=
  Json.Reading.record layout fun fs => do
    let contextIdentifier ← fs.optional "contextIdentifier" Json.Reading.text
    let serviceProviderName ← fs.optional "serviceProviderName" Json.Reading.text
    let serviceProviderId ← fs.optional "serviceProviderId" Json.Reading.text
    let tenantDomain ← fs.optional "tenantDomain" Json.Reading.text
    let loginTenantDomain ← fs.optional "loginTenantDomain" Json.Reading.text
    let passiveAuthenticate ← fs.defaulted "passiveAuthenticate" false Json.Reading.flag
    let currentStep ← fs.optional "currentStep" (Json.Reading.number Json.Number.toUInt32?)
    let currentAuthenticator ← fs.optional "currentAuthenticator" Json.Reading.text
    let currentIdp ← fs.optional "currentIdp" Json.Reading.text
    let authenticationMethods ←
      fs.defaulted "authenticationMethods" [] (Json.Reading.list Json.Reading.text)
    let authenticatedUser ← fs.optional "authenticatedUser" AuthenticatedUser.reading
    some { contextIdentifier, serviceProviderName, serviceProviderId, tenantDomain, loginTenantDomain,
           passiveAuthenticate, currentStep, currentAuthenticator, currentIdp, authenticationMethods,
           authenticatedUser }

/-- The document of a context, every field written. -/
def json (c : AuthenticationContext) : Json :=
  .object
    [("contextIdentifier", Json.orNull Json.string c.contextIdentifier),
      ("serviceProviderName", Json.orNull Json.string c.serviceProviderName),
      ("serviceProviderId", Json.orNull Json.string c.serviceProviderId),
      ("tenantDomain", Json.orNull Json.string c.tenantDomain),
      ("loginTenantDomain", Json.orNull Json.string c.loginTenantDomain),
      ("passiveAuthenticate", .bool c.passiveAuthenticate),
      ("currentStep", Json.orNull (fun n => .number (.ofUInt32 n)) c.currentStep),
      ("currentAuthenticator", Json.orNull Json.string c.currentAuthenticator),
      ("currentIdp", Json.orNull Json.string c.currentIdp),
      ("authenticationMethods", .array (c.authenticationMethods.map Json.string)),
      ("authenticatedUser", Json.orNull AuthenticatedUser.json c.authenticatedUser)]

end AuthenticationContext

end SecurityEvents
