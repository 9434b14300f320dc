import SecurityEvents.Json.Record
set_option autoImplicit false

/-!
# Flows

A flow is the larger operation that an event happens in, and the persona that started it. Both arrive as
texts and are kept as they came: an unknown name is only found out by those who need to know it.
-/

namespace SecurityEvents

/-- Why an event could not be classified. -/
inductive ClassificationError where
  | missingEventName
  | unknownFlow (flow : String)
  | unknownPersona (persona : String)
  deriving DecidableEq, Repr

namespace ClassificationError

/-- The wording of an error. -/
def message : ClassificationError → String
  | .missingEventName => "Event name is missing"
  | .unknownFlow flow => "Unknown flow name: " ++ flow
  | .unknownPersona persona => "Unknown initiating persona: " ++ persona

end ClassificationError

/-- The operations that events are known to happen in. -/
inductive FlowName where
  | credentialReset
  | userRegistration
  | userRegistrationInviteWithPassword
  | invitedUserRegistration
  | profileUpdate
  | jitProvision
  deriving DecidableEq, Repr, Inhabited

namespace FlowName

/-- Every known flow. -/
def all : List FlowName :=
  [.credentialReset, .userRegistration, .userRegistrationInviteWithPassword, .invitedUserRegistration,
    .profileUpdate, .jitProvision]

/-- The name of a flow in documents. -/
def name : FlowName → String
  | .credentialReset => "CREDENTIAL_RESET"
  | .userRegistration => "USER_REGISTRATION"
  | .userRegistrationInviteWithPassword => "USER_REGISTRATION_INVITE_WITH_PASSWORD"
  | .invitedUserRegistration => "INVITED_USER_REGISTRATION"
  | .profileUpdate => "PROFILE_UPDATE"
  | .jitProvision => "JIT_PROVISION"

/-- The known flow of this name. -/
def ofName? (s : String) : Option FlowName :=
  all.find? (·.name == s)

/-- Whether a new user comes to be by registering. An administrator who invites a user and sets the
password creates the user. -/
def isRegistration : FlowName → Bool
  | .userRegistration | .invitedUserRegistration => true
  | _ => false

@[simp] theorem ofName?_name (f : FlowName) : ofName? f.name = some f := by cases f <;> decide

end FlowName

/-- Who may start a flow. -/
inductive Persona where
  | admin
  | user
  | application
  | system
  deriving DecidableEq, Repr, Inhabited

namespace Persona

/-- Every persona. -/
def all : List Persona := [.admin, .user, .application, .system]

/-- The name of a persona in documents. -/
def name : Persona → String
  | .admin => "ADMIN"
  | .user => "USER"
  | .application => "APPLICATION"
  | .system => "SYSTEM"

/-- The persona of this name. -/
def ofName? (s : String) : Option Persona :=
  all.find? (·.name == s)

@[simp] theorem ofName?_name (p : Persona) : ofName? p.name = some p := by cases p <;> decide

end Persona

/-- A flow as it was reported: the name of the operation and, where known, of the persona. -/
structure Flow where
  name : String
  persona : Option String
  deriving DecidableEq, Repr

namespace Flow

/-- The flow with a known operation and persona. -/
def known (name : FlowName) (persona : Persona) : Flow :=
  ⟨name.name, some persona.name⟩

/-- The operation, if its name is known. -/
def knownName (f : Flow) : Except ClassificationError FlowName :=
  match FlowName.ofName? f.name with
  | some name => .ok name
  | none => .error (.unknownFlow f.name)

/-- The persona, if there is one and its name is known. -/
def knownPersona (f : Flow) : Except ClassificationError (Option Persona) :=
  match f.persona with
  | none => .ok none
  | some p =>
    match Persona.ofName? p with
    | some persona => .ok (some persona)
    | none => .error (.unknownPersona p)

/-- The persona, where there is one that is known; an unknown name counts as none. -/
def persona? (f : Flow) : Option Persona :=
  f.persona.bind Persona.ofName?

/-- The fields of a flow in a document. -/
def layout : List Json.Field :=
  [{ name := "name" }, { name := "initiatingPersona", omissible := true }]

/-- A flow in a document. -/
def reading : Json.Reading Flow :=
  Json.Reading.record layout fun fs => do
    let name ← fs.required "name" Json.Reading.text
    let persona ← fs.optional "initiatingPersona" Json.Reading.text
    some ⟨name, persona⟩

/-- The document of a flow. -/
def json (f : Flow) : Json :=
  Json.ofFields [("name", some (.string f.name)), ("initiatingPersona", f.persona.map Json.string)]

end Flow

end SecurityEvents
