set_option autoImplicit false

/-!
# Categories of events

An event that is worth telling others about belongs to one of fourteen categories. The category decides
which tenant an announcement belongs to (logins belong to the tenant the user signs in to) and whether a
channel alone may address it.
-/

namespace SecurityEvents

/-- What an event means, whatever its name at the source. -/
inductive Category where
  | credentialUpdate
  | loginSuccess
  | loginFailure
  | tokenRevoke
  | userCreated
  | userDeleted
  | userLocked
  | userUnlocked
  | userEnabled
  | userDisabled
  | userProfileUpdated
  | userGroupUpdated
  | registrationSuccess
  | registrationFailure
  deriving DecidableEq, Repr, Inhabited

/-- Whether an event without an address of its own may go out under the address of its channel. -/
inductive AddressRule where
  /-- An event without an address of its own is not announced. -/
  | requireEventUri
  /-- The address of the channel stands in. -/
  | fallBackToChannel
  deriving DecidableEq, Repr

namespace Category

/-- Every category, in order. -/
def all : List Category :=
  [.credentialUpdate, .loginSuccess, .loginFailure, .tokenRevoke, .userCreated, .userDeleted, .userLocked,
    .userUnlocked, .userEnabled, .userDisabled, .userProfileUpdated, .userGroupUpdated,
    .registrationSuccess, .registrationFailure]

/-- The place of a category in the order. -/
def index (c : Category) : Nat :=
  c.ctorIdx

/-- The name of a category in documents. -/
def name : Category → String
  | .credentialUpdate => "credentialUpdate"
  | .loginSuccess => "loginSuccess"
  | .loginFailure => "loginFailure"
  | .tokenRevoke => "tokenRevoke"
  | .userCreated => "userCreated"
  | .userDeleted => "userDeleted"
  | .userLocked => "userLocked"
  | .userUnlocked => "userUnlocked"
  | .userEnabled => "userEnabled"
  | .userDisabled => "userDisabled"
  | .userProfileUpdated => "userProfileUpdated"
  | .userGroupUpdated => "userGroupUpdated"
  | .registrationSuccess => "registrationSuccess"
  | .registrationFailure => "registrationFailure"

/-- The name of a category in descriptions. -/
def label : Category → String
  | .credentialUpdate => "CredentialUpdate"
  | .loginSuccess => "LoginSuccess"
  | .loginFailure => "LoginFailure"
  | .tokenRevoke => "TokenRevoke"
  | .userCreated => "UserCreated"
  | .userDeleted => "UserDeleted"
  | .userLocked => "UserLocked"
  | .userUnlocked => "UserUnlocked"
  | .userEnabled => "UserEnabled"
  | .userDisabled => "UserDisabled"
  | .userProfileUpdated => "UserProfileUpdated"
  | .userGroupUpdated => "UserGroupUpdated"
  | .registrationSuccess => "RegistrationSuccess"
  | .registrationFailure => "RegistrationFailure"

/-- The category of this name. -/
def ofName? (s : String) : Option Category :=
  all.find? (·.name == s)

/-- A login, successful or not. -/
def isLogin : Category → Bool
  | .loginSuccess | .loginFailure => true
  | _ => false

/-- One channel carries both outcomes of a login, so its address alone cannot tell them apart. -/
def addressRule (c : Category) : AddressRule :=
  if c.isLogin then .requireEventUri else .fallBackToChannel

theorem mem_all (c : Category) : c ∈ all := by cases c <;> decide

@[simp] theorem ofName?_name (c : Category) : ofName? c.name = some c := by cases c <;> decide

/-- The order lists every category at its place. -/
theorem all_index (c : Category) : all[c.index]? = some c := by cases c <;> rfl

end Category

end SecurityEvents
