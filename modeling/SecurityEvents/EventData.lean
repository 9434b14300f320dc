import SecurityEvents.Authentication
import SecurityEvents.Error
import SecurityEvents.Event
import SecurityEvents.Text.Blank
import SecurityEvents.Text.Slash
import SecurityEvents.Text.Uppercase
set_option autoImplicit false

/-!
# Event data

What the encoders ask of an event, taken out of its parameters once. A scalar parameter is a string or a
number; a blank string counts as missing, and what is missing is looked for in the authentication context.
The name of a user may be qualified by the user store, `STORE/name`.

Extraction fails when the context cannot be read or a scalar parameter is of another kind. The faults are
looked for in the order in which the fields are listed in `EventData.ofEvent`.
-/

namespace SecurityEvents

/-- What the encoders ask of an event. -/
structure EventData where
  eventName : String
  tenantDomain : Option String
  tenantId : Option String
  userId : Option String
  userName : Option String
  userStoreDomain : Option String
  correlationId : Option String
  authentication : Option AuthenticationContext
  flow : Option Flow
  parameters : Parameters
  deriving DecidableEq

namespace Parameters

/-- A scalar parameter: a string that is not blank, or the text of a number. The error says what stands
there instead. -/
def scalar (ps : Parameters) (name : String) : Except String (Option String) :=
  match ps.get? name with
  | none | some .null => .ok none
  | some (.string s) => .ok (if Text.isBlankText s then none else some s)
  | some (.number n) => .ok (some n.text)
  | some other => .error (name ++ " must be a string, got " ++ other.text)

/-- The authentication context among the parameters. What the reader says of one that is malformed is left out. -/
def authentication (ps : Parameters) : Except String (Option AuthenticationContext) :=
  match ps.get? ParameterName.context with
  | none | some .null => .ok none
  | some v =>
    match AuthenticationContext.reading.ofValue v with
    | some context => .ok (some context)
    | none => .error ("invalid " ++ ParameterName.context)

/-- A parameter that is a string, as it stands. -/
def string? (ps : Parameters) (name : String) : Option String :=
  (ps.get? name).bind Json.text?

end Parameters

/-- The user store in front of the first slash, in upper case, and the name behind it. A name with nothing
on one side of the slash is not qualified. -/
def splitQualifiedName (name : String) : Option String × String :=
  match Text.cutAtSlash? name.toList with
  | some (store, rest) =>
    if store.isEmpty || rest.isEmpty then (none, name)
    else (some (Text.uppercase (String.ofList store)), String.ofList rest)
  | none => (none, name)

/-- The user store of users whose name is not qualified. -/
def defaultUserStore : String := "PRIMARY"

namespace EventData

/-- The name of the user and the user store: an explicit store wins over the one in the name. -/
def identity (qualified explicitStore : Option String) : Option String × Option String :=
  match qualified with
  | none => (none, explicitStore)
  | some qualified =>
    let (store, name) := splitQualifiedName qualified
    (some name, some ((explicitStore.or store).getD defaultUserStore))

/-- The data of an event, or what is wrong with its parameters. -/
def ofParameters (e : Event) : Except String EventData := do
  let ps := e.parameters
  let authentication ← ps.authentication
  let user := authentication.bind (·.authenticatedUser)
  let tenantDomain ← ps.scalar ParameterName.tenantDomain
  let userId ← ps.scalar ParameterName.userId
  let userName ← ps.scalar ParameterName.userName
  let userStoreDomain ← ps.scalar ParameterName.userStoreDomain
  let tenantId ← ps.scalar ParameterName.tenantId
  let correlationId ← ps.scalar ParameterName.correlationId
  let (name, store) := identity (userName.or (user.bind (·.userName)))
    (userStoreDomain.or (user.bind (·.userStoreDomain)))
  return {
    eventName := e.name
    tenantDomain := tenantDomain.or (authentication.bind (·.tenantDomain))
    tenantId
    userId := userId.or (user.bind (·.userId))
    userName := name
    userStoreDomain := store
    correlationId
    authentication
    flow := e.flow
    parameters := ps }

/-- The data of an event. -/
def ofEvent (e : Event) : Except Error EventData :=
  (ofParameters e).mapError (Error.dataExtraction e.name)

/-! ## Tenants -/

/-- The tenant that the user signs in to, or else the tenant of the event. -/
def loginTenantDomain (d : EventData) : Option String :=
  (d.authentication.bind (·.loginTenantDomain)).or d.tenantDomain

/-- The tenant that an announcement of this category belongs to. -/
def publishTenantDomain (d : EventData) (category : Category) : Option String :=
  if category.isLogin then d.loginTenantDomain else d.tenantDomain

/-! ## Parameters -/

/-- A parameter that is a string, as it stands. -/
def string? (d : EventData) (name : String) : Option String :=
  d.parameters.string? name

/-- The value of a claim: a string as it stands, a list as its items joined by commas, a number or a truth
value as JSON text. Null is no value, and an object cannot be one. -/
def claimValue : Json → Except Unit (Option String)
  | .null => .ok none
  | .string s => .ok (some s)
  | .array items => .ok (some (",".intercalate (items.map fun v => (v.text?).getD v.text)))
  | .object _ => .error ()
  | v => .ok (some v.text)

/-- The claims among the members of a parameter, in order. -/
def claimsOf (parameter : String) :
    List (String × Json) → Except EncodeError (List (String × String))
  | [] => .ok []
  | (uri, v) :: rest =>
    match claimValue v with
    | .error () =>
      .error (.invalidField (parameter ++ "." ++ uri) "nested objects are not claim values")
    | .ok none => claimsOf parameter rest
    | .ok (some value) => (claimsOf parameter rest).map ((uri, value) :: ·)

/-- The claims in a parameter, in order; a missing parameter has none. -/
def claims (d : EventData) (parameter : String) : Except EncodeError (List (String × String)) :=
  match d.parameters.get? parameter with
  | none | some .null => .ok []
  | some (.object members) => claimsOf parameter members
  | some _ => .error (.invalidField parameter "expected an object of claims")

/-- The strings in a list. -/
def stringsOf? : List Json → Option (List String)
  | [] => some []
  | .string s :: rest => (stringsOf? rest).map (s :: ·)
  | _ :: _ => none

/-- The strings in a parameter, in order; a missing parameter has none. -/
def strings (d : EventData) (parameter : String) : Except EncodeError (List String) :=
  let refused := EncodeError.invalidField parameter "expected a list of strings"
  match d.parameters.get? parameter with
  | none | some .null => .ok []
  | some (.array items) =>
    match stringsOf? items with
    | some ss => .ok ss
    | none => .error refused
  | some _ => .error refused

end EventData

end SecurityEvents
