import SecurityEvents.Error
import SecurityEvents.Number.Decimal
import SecurityEvents.Text.Blank
import SecurityEvents.Text.Quoted
import SecurityEvents.Text.Slash
set_option autoImplicit false

/-!
# Configuration

A configuration is made of settings, each of which has a default. The settings come from named variables or
are given one by one; either way `Settings.build` checks them. The issuer of announcements has to be an
`http` or `https` URL, and at least one profile is served at a time.
-/

namespace SecurityEvents

/-- What a server of events can be told. -/
structure Configuration where
  /-- The issuer of announcements of the super tenant. -/
  setIssuer : String := "https://localhost:9443"
  /-- The tenant whose announcements go out under the issuer itself. -/
  superTenant : String := "carbon.super"
  /-- The application whose logins are not announced. -/
  systemApplication : String := "Console"
  /-- The identity provider whose federated users are not announced. -/
  organizationIdp : String := "SSO"
  /-- How many profiles are served at a time. -/
  profileConcurrency : Nat := 1
  /-- The directory of profiles, if there is one. -/
  profileDirectory : Option String := none
  deriving DecidableEq, Repr

/-- One setting with its value. -/
inductive Setting where
  | setIssuer (value : String)
  | superTenant (value : String)
  | systemApplication (value : String)
  | organizationIdp (value : String)
  | profileConcurrency (value : Nat)
  | profileDirectory (value : String)
  deriving DecidableEq, Repr

/-- The settings that were given; the others keep their defaults. -/
structure Settings where
  setIssuer : Option String := none
  superTenant : Option String := none
  systemApplication : Option String := none
  organizationIdp : Option String := none
  profileConcurrency : Option Nat := none
  profileDirectory : Option String := none
  deriving DecidableEq, Repr

namespace VariableName

/-- The variable of the issuer. -/
def setIssuer : String := "EVENT_HOOK_SET_ISSUER"
/-- The variable of the super tenant. -/
def superTenant : String := "EVENT_HOOK_SUPER_TENANT"
/-- The variable of the system application. -/
def systemApplication : String := "EVENT_HOOK_SYSTEM_APPLICATION"
/-- The variable of the organization's identity provider. -/
def organizationIdp : String := "EVENT_HOOK_ORGANIZATION_IDP"
/-- The variable of the number of profiles served at a time. -/
def profileConcurrency : String := "EVENT_HOOK_PROFILE_CONCURRENCY"
/-- The variable of the directory of profiles. -/
def profileDirectory : String := "EVENT_HOOK_PROFILE_DIR"

end VariableName

/-! ## Numbers -/

/-- Why a text is no number of at most sixty-four bits. -/
inductive NumberFault where
  | empty
  | invalidDigit
  | tooLarge
  deriving DecidableEq, Repr

namespace NumberFault

/-- The wording of a fault. -/
def message : NumberFault → String
  | .empty => "cannot parse integer from empty string"
  | .invalidDigit => "invalid digit found in string"
  | .tooLarge => "number too large to fit in target type"

end NumberFault

/-- The number that begins with `value` and goes on with these digits. The first character at fault
decides, and a character is looked at before the size of the number it makes. -/
def countFrom (value : Nat) : List Char → Except NumberFault Nat
  | [] => .ok value
  | c :: rest =>
    match Decimal.digit? c with
    | none => .error .invalidDigit
    | some d =>
      if value * 10 + d < 0x10000000000000000 then countFrom (value * 10 + d) rest else .error .tooLarge

/-- The number that a text stands for: decimal digits, after a plus sign or none. -/
def readCount : List Char → Except NumberFault Nat
  | [] => .error .empty
  | '+' :: c :: rest => countFrom 0 (c :: rest)
  | cs => countFrom 0 cs

/-! ## Settings -/

/-- Whether a text begins like the URL of a server. -/
def isServerUrl (s : String) : Bool :=
  "https://".toList.isPrefixOf s.toList || "http://".toList.isPrefixOf s.toList

namespace Settings

/-- The settings with one more; the last of its kind counts. -/
def set (s : Settings) : Setting → Settings
  | .setIssuer value => { s with setIssuer := some value }
  | .superTenant value => { s with superTenant := some value }
  | .systemApplication value => { s with systemApplication := some value }
  | .organizationIdp value => { s with organizationIdp := some value }
  | .profileConcurrency value => { s with profileConcurrency := some value }
  | .profileDirectory value => { s with profileDirectory := some value }

/-- The configuration with these settings. A bad issuer is reported before a bad number of profiles. -/
def build (s : Settings) : Except Error Configuration :=
  let defaults : Configuration := {}
  let setIssuer := s.setIssuer.getD defaults.setIssuer
  let profileConcurrency := s.profileConcurrency.getD defaults.profileConcurrency
  if isServerUrl setIssuer then
    if profileConcurrency = 0 then
      .error (.configInvalid VariableName.profileConcurrency "Concurrency must be at least 1")
    else
      .ok {
        setIssuer
        superTenant := s.superTenant.getD defaults.superTenant
        systemApplication := s.systemApplication.getD defaults.systemApplication
        organizationIdp := s.organizationIdp.getD defaults.organizationIdp
        profileConcurrency
        profileDirectory := s.profileDirectory }
  else
    .error (.configInvalid VariableName.setIssuer ("Issuer must be an http(s) URL: " ++ setIssuer))

/-- The settings among variables. The number of profiles may have blanks around it. -/
def ofVariables (value? : String → Option String) : Except Error Settings := do
  let profileConcurrency ← match value? VariableName.profileConcurrency with
    | none => Except.ok none
    | some raw =>
      match readCount (Text.trim raw.toList) with
      | .ok n => Except.ok (some n)
      | .error fault =>
        Except.error (.configInvalid VariableName.profileConcurrency (raw ++ ": " ++ fault.message))
  return {
    setIssuer := value? VariableName.setIssuer
    superTenant := value? VariableName.superTenant
    systemApplication := value? VariableName.systemApplication
    organizationIdp := value? VariableName.organizationIdp
    profileConcurrency
    profileDirectory := value? VariableName.profileDirectory }

end Settings

namespace Configuration

/-- The configuration that variables describe. -/
def ofVariables (value? : String → Option String) : Except Error Configuration := do
  (← Settings.ofVariables value?).build

/-- The issuer without the slashes at its end. -/
def issuerBase (c : Configuration) : String :=
  String.ofList (Text.dropTrailingSlashes c.setIssuer.toList)

/-- The issuer of a tenant's announcements. Absent, nameless and super tenant are one. -/
def issuerFor (c : Configuration) (tenant : Option String) : String :=
  match tenant with
  | none => c.issuerBase
  | some tenant =>
    if tenant = "" || tenant = c.superTenant then c.issuerBase else c.issuerBase ++ "/t/" ++ tenant

/-- How a configuration is described. -/
def description (c : Configuration) : String :=
  Text.braced "EventHookConfig"
    [("set_issuer", Text.quoted c.setIssuer), ("super_tenant", Text.quoted c.superTenant),
      ("system_application", Text.quoted c.systemApplication),
      ("organization_idp", Text.quoted c.organizationIdp),
      ("profile_concurrency", Decimal.text c.profileConcurrency),
      ("profile_dir", match c.profileDirectory with
        | none => "None"
        | some directory => "Some(" ++ Text.quoted directory ++ ")")]

/-- The directory of profiles, which some uses cannot do without. -/
def requireProfileDirectory (c : Configuration) : Except Error String :=
  match c.profileDirectory with
  | some directory => .ok directory
  | none => .error (.configMissing VariableName.profileDirectory)

end Configuration

end SecurityEvents
