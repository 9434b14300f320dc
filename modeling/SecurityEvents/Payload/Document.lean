import SecurityEvents.Json.Record
import SecurityEvents.Payload.Basic
import SecurityEvents.Text.Base64
set_option autoImplicit false

/-!
# Documents of the WSO2 schema

The payloads of the WSO2 schema have a fixed form. What is not known is left out when a document is written,
and so are empty lists.
-/

namespace SecurityEvents.Wso2

/-- A tenant. -/
structure Organization where
  id : Option String
  name : String
  deriving DecidableEq, Repr

/-- A user store. -/
structure UserStore where
  id : String
  name : String
  deriving DecidableEq, Repr

/-- A claim about a user. -/
structure UserClaim where
  uri : String
  value : String
  deriving DecidableEq, Repr

/-- A user and what is claimed, or no longer claimed, about the user. -/
structure User where
  id : Option String := none
  reference : Option String := none
  claims : List UserClaim := []
  addedClaims : List UserClaim := []
  updatedClaims : List UserClaim := []
  removedClaims : List UserClaim := []
  deriving DecidableEq, Repr

/-- A group and the users who joined or left it. -/
structure Group where
  id : Option String
  name : String
  addedUsers : List User
  removedUsers : List User
  deriving DecidableEq, Repr

/-- An application. -/
structure Application where
  id : Option String
  name : Option String
  deriving DecidableEq, Repr

/-- The step of a login that failed. -/
structure FailedStep where
  step : Option UInt32
  idp : Option String
  authenticator : Option String
  deriving DecidableEq, Repr

/-- Why something failed. -/
structure Reason where
  description : String
  code : Option String
  failedStep : Option FailedStep
  deriving DecidableEq, Repr

/-- A payload of the WSO2 schema. -/
structure Document where
  initiatorType : Option String := none
  action : Option String := none
  tenant : Organization
  userStore : Option UserStore := none
  user : Option User := none
  group : Option Group := none
  application : Option Application := none
  authenticationMethods : List String := []
  sessionId : Option String := none
  reason : Option Reason := none
  deriving DecidableEq, Repr

namespace Organization

/-- The fields of a tenant in a document. -/
def layout : List Json.Field := [{ name := "id" }, { name := "name" }]

/-- A tenant in a document. -/
def reading : Json.Reading Organization :=
  Json.Reading.record layout fun fs => do
    let id ← fs.optional "id" Json.Reading.text
    let name ← fs.required "name" Json.Reading.text
    some { id, name }

/-- The document of a tenant. -/
def json (o : Organization) : Json :=
  Json.ofFields [("id", o.id.map Json.string), ("name", some (.string o.name))]

end Organization

namespace UserStore

/-- The user store of a domain. Its id is the name in base64. -/
def ofDomain (domain : String) : UserStore :=
  ⟨Text.Base64.ofString domain, domain⟩

/-- The fields of a user store in a document. -/
def layout : List Json.Field := [{ name := "id" }, { name := "name" }]

/-- A user store in a document. -/
def reading : Json.Reading UserStore :=
  Json.Reading.record layout fun fs => do
    let id ← fs.required "id" Json.Reading.text
    let name ← fs.required "name" Json.Reading.text
    some { id, name }

/-- The document of a user store. -/
def json (s : UserStore) : Json :=
  Json.ofFields [("id", some (.string s.id)), ("name", some (.string s.name))]

end UserStore

namespace UserClaim

/-- The fields of a claim in a document. -/
def layout : List Json.Field := [{ name := "uri" }, { name := "value" }]

/-- A claim in a document. -/
def reading : Json.Reading UserClaim :=
  Json.Reading.record layout fun fs => do
    let uri ← fs.required "uri" Json.Reading.text
    let value ← fs.required "value" Json.Reading.text
    some { uri, value }

/-- The document of a claim. -/
def json (c : UserClaim) : Json :=
  Json.ofFields [("uri", some (.string c.uri)), ("value", some (.string c.value))]

end UserClaim

namespace User

/-- The fields of a user in a document. -/
def layout : List Json.Field :=
  [{ name := "id" }, { name := "ref" }, { name := "claims", omissible := true },
    { name := "addedClaims", omissible := true }, { name := "updatedClaims", omissible := true },
    { name := "removedClaims", omissible := true }]

/-- A user in a document. -/
def reading : Json.Reading User :=
  Json.Reading.record layout fun fs => do
    let id ← fs.optional "id" Json.Reading.text
    let reference ← fs.optional "ref" Json.Reading.text
    let claims ← fs.defaulted "claims" [] (Json.Reading.list UserClaim.reading)
    let addedClaims ← fs.defaulted "addedClaims" [] (Json.Reading.list UserClaim.reading)
    let updatedClaims ← fs.defaulted "updatedClaims" [] (Json.Reading.list UserClaim.reading)
    let removedClaims ← fs.defaulted "removedClaims" [] (Json.Reading.list UserClaim.reading)
    some { id, reference, claims, addedClaims, updatedClaims, removedClaims }

/-- The document of a user. -/
def json (u : User) : Json :=
  Json.ofFields
    [("id", u.id.map Json.string), ("ref", u.reference.map Json.string),
      ("claims", Json.unlessEmpty UserClaim.json u.claims),
      ("addedClaims", Json.unlessEmpty UserClaim.json u.addedClaims),
      ("updatedClaims", Json.unlessEmpty UserClaim.json u.updatedClaims),
      ("removedClaims", Json.unlessEmpty UserClaim.json u.removedClaims)]

end User

namespace Group

/-- The fields of a group in a document. -/
def layout : List Json.Field :=
  [{ name := "id" }, { name := "name" }, { name := "addedUsers", omissible := true },
    { name := "removedUsers", omissible := true }]

/-- A group in a document. -/
def reading : Json.Reading Group :=
  Json.Reading.record layout fun fs => do
    let id ← fs.optional "id" Json.Reading.text
    let name ← fs.required "name" Json.Reading.text
    let addedUsers ← fs.defaulted "addedUsers" [] (Json.Reading.list User.reading)
    let removedUsers ← fs.defaulted "removedUsers" [] (Json.Reading.list User.reading)
    some { id, name, addedUsers, removedUsers }

/-- The document of a group. -/
def json (g : Group) : Json :=
  Json.ofFields
    [("id", g.id.map Json.string), ("name", some (.string g.name)),
      ("addedUsers", Json.unlessEmpty User.json g.addedUsers),
      ("removedUsers", Json.unlessEmpty User.json g.removedUsers)]

end Group

namespace Application

/-- The fields of an application in a document. -/
def layout : List Json.Field := [{ name := "id" }, { name := "name" }]

/-- An application in a document. -/
def reading : Json.Reading Application :=
  Json.Reading.record layout fun fs => do
    let id ← fs.optional "id" Json.Reading.text
    let name ← fs.optional "name" Json.Reading.text
    some { id, name }

/-- The document of an application. -/
def json (a : Application) : Json :=
  Json.ofFields [("id", a.id.map Json.string), ("name", a.name.map Json.string)]

end Application

namespace FailedStep

/-- The fields of a failed step in a document. -/
def layout : List Json.Field := [{ name := "step" }, { name := "idp" }, { name := "authenticator" }]

/-- A failed step in a document. -/
def reading : Json.Reading FailedStep :=
  Json.Reading.record layout fun fs => do
    let step ← fs.optional "step" (Json.Reading.number Json.Number.toUInt32?)
    let idp ← fs.optional "idp" Json.Reading.text
    let authenticator ← fs.optional "authenticator" Json.Reading.text
    some { step, idp, authenticator }

/-- The document of a failed step. -/
def json (s : FailedStep) : Json :=
  Json.ofFields
    [("step", s.step.map fun n => Json.number (.ofUInt32 n)), ("idp", s.idp.map Json.string),
      ("authenticator", s.authenticator.map Json.string)]

end FailedStep

namespace Reason

/-- The fields of a reason in a document. -/
def layout : List Json.Field :=
  [{ name := "description" }, { name := "code" }, { name := "failedStep" }]

/-- A reason in a document. -/
def reading : Json.Reading Reason :=
  Json.Reading.record layout fun fs => do
    let description ← fs.required "description" Json.Reading.text
    let code ← fs.optional "code" Json.Reading.text
    let failedStep ← fs.optional "failedStep" FailedStep.reading
    some { description, code, failedStep }

/-- The document of a reason. -/
def json (r : Reason) : Json :=
  Json.ofFields
    [("description", some (.string r.description)), ("code", r.code.map Json.string),
      ("failedStep", r.failedStep.map FailedStep.json)]

end Reason

namespace Document

/-- The fields of a payload. -/
def layout : List Json.Field :=
  [{ name := "initiatorType" }, { name := "action" }, { name := "tenant" }, { name := "userStore" },
    { name := "user" }, { name := "group" }, { name := "application" },
    { name := "authenticationMethods", omissible := true }, { name := "sessionId" },
    { name := "reason" }]

/-- A payload of the WSO2 schema. -/
def reading : Json.Reading Document :=
  Json.Reading.record layout fun fs => do
    let initiatorType ← fs.optional "initiatorType" Json.Reading.text
    let action ← fs.optional "action" Json.Reading.text
    let tenant ← fs.required "tenant" Organization.reading
    let userStore ← fs.optional "userStore" UserStore.reading
    let user ← fs.optional "user" User.reading
    let group ← fs.optional "group" Group.reading
    let application ← fs.optional "application" Application.reading
    let authenticationMethods ←
      fs.defaulted "authenticationMethods" [] (Json.Reading.list Json.Reading.text)
    let sessionId ← fs.optional "sessionId" Json.Reading.text
    let reason ← fs.optional "reason" Reason.reading
    some { initiatorType, action, tenant, userStore, user, group, application, authenticationMethods,
           sessionId, reason }

/-- The value of a payload. -/
def json (d : Document) : Json :=
  Json.ofFields
    [("initiatorType", d.initiatorType.map Json.string), ("action", d.action.map Json.string),
      ("tenant", some d.tenant.json), ("userStore", d.userStore.map UserStore.json),
      ("user", d.user.map User.json), ("group", d.group.map Group.json),
      ("application", d.application.map Application.json),
      ("authenticationMethods", Json.unlessEmpty Json.string d.authenticationMethods),
      ("sessionId", d.sessionId.map Json.string), ("reason", d.reason.map Reason.json)]

end Document

/-! ## Documents are keyed -/

theorem Organization.isKeyed_json (o : Organization) : o.json.isKeyed = true :=
  Json.isKeyed_ofFields (by simp) (by
    simp only [List.forall_mem_cons]
    exact ⟨fun _ => Json.isKeyed_of_mem_map Json.isKeyed_string, by simp⟩)

theorem UserStore.isKeyed_json (s : UserStore) : s.json.isKeyed = true :=
  Json.isKeyed_ofFields (by simp) (by simp)

theorem UserClaim.isKeyed_json (c : UserClaim) : c.json.isKeyed = true :=
  Json.isKeyed_ofFields (by simp) (by simp)

theorem User.isKeyed_json (u : User) : u.json.isKeyed = true :=
  Json.isKeyed_ofFields (by simp) (by
    simp only [List.forall_mem_cons]
    exact ⟨fun _ => Json.isKeyed_of_mem_map Json.isKeyed_string,
      fun _ => Json.isKeyed_of_mem_map Json.isKeyed_string,
      fun _ => Json.isKeyed_of_mem_unlessEmpty UserClaim.isKeyed_json,
      fun _ => Json.isKeyed_of_mem_unlessEmpty UserClaim.isKeyed_json,
      fun _ => Json.isKeyed_of_mem_unlessEmpty UserClaim.isKeyed_json,
      fun _ => Json.isKeyed_of_mem_unlessEmpty UserClaim.isKeyed_json, by simp⟩)

theorem Group.isKeyed_json (g : Group) : g.json.isKeyed = true :=
  Json.isKeyed_ofFields (by simp) (by
    simp only [List.forall_mem_cons]
    exact ⟨fun _ => Json.isKeyed_of_mem_map Json.isKeyed_string, by simp,
      fun _ => Json.isKeyed_of_mem_unlessEmpty User.isKeyed_json,
      fun _ => Json.isKeyed_of_mem_unlessEmpty User.isKeyed_json, by simp⟩)

theorem Application.isKeyed_json (a : Application) : a.json.isKeyed = true :=
  Json.isKeyed_ofFields (by simp) (by
    simp only [List.forall_mem_cons]
    exact ⟨fun _ => Json.isKeyed_of_mem_map Json.isKeyed_string,
      fun _ => Json.isKeyed_of_mem_map Json.isKeyed_string, by simp⟩)

theorem FailedStep.isKeyed_json (s : FailedStep) : s.json.isKeyed = true :=
  Json.isKeyed_ofFields (by simp) (by
    simp only [List.forall_mem_cons]
    exact ⟨fun _ => Json.isKeyed_of_mem_map fun _ => Json.isKeyed_number _,
      fun _ => Json.isKeyed_of_mem_map Json.isKeyed_string,
      fun _ => Json.isKeyed_of_mem_map Json.isKeyed_string, by simp⟩)

theorem Reason.isKeyed_json (r : Reason) : r.json.isKeyed = true :=
  Json.isKeyed_ofFields (by simp) (by
    simp only [List.forall_mem_cons]
    exact ⟨by simp, fun _ => Json.isKeyed_of_mem_map Json.isKeyed_string,
      fun _ => Json.isKeyed_of_mem_map FailedStep.isKeyed_json, by simp⟩)

theorem Document.isKeyed_json (d : Document) : d.json.isKeyed = true :=
  Json.isKeyed_ofFields (by simp) (by
    simp only [List.forall_mem_cons]
    exact ⟨fun _ => Json.isKeyed_of_mem_map Json.isKeyed_string,
      fun _ => Json.isKeyed_of_mem_map Json.isKeyed_string,
      by simp [Organization.isKeyed_json],
      fun _ => Json.isKeyed_of_mem_map UserStore.isKeyed_json,
      fun _ => Json.isKeyed_of_mem_map User.isKeyed_json,
      fun _ => Json.isKeyed_of_mem_map Group.isKeyed_json,
      fun _ => Json.isKeyed_of_mem_map Application.isKeyed_json,
      fun _ => Json.isKeyed_of_mem_unlessEmpty Json.isKeyed_string,
      fun _ => Json.isKeyed_of_mem_map Json.isKeyed_string,
      fun _ => Json.isKeyed_of_mem_map Reason.isKeyed_json, by simp⟩)

/-- The document as a payload. -/
def Document.payload (d : Document) : Payload :=
  ⟨d.json, d.isKeyed_json⟩

end SecurityEvents.Wso2
