import SecurityEvents.Vocabulary.Basic
set_option autoImplicit false

/-!
# The standard vocabularies

One vocabulary for each schema, and the catalog and the profiles that they make up.
-/

namespace SecurityEvents.Vocabulary

/-- The events of the WSO2 schema, which has one for every category. -/
def wso2 : Vocabulary where
  schema := .wso2
  version := "v1"
  channels :=
    [⟨"Login", "https://schemas.identity.wso2.org/events/login",
        [⟨"loginSuccess", [.loginSuccess]⟩, ⟨"loginFailed", [.loginFailure]⟩]⟩,
      ⟨"Credential", "https://schemas.identity.wso2.org/events/credential",
        [⟨"credentialUpdated", [.credentialUpdate]⟩]⟩,
      ⟨"Token", "https://schemas.identity.wso2.org/events/token",
        [⟨"accessTokensRevoked", [.tokenRevoke]⟩]⟩,
      ⟨"User", "https://schemas.identity.wso2.org/events/user",
        [⟨"userCreated", [.userCreated]⟩, ⟨"userDeleted", [.userDeleted]⟩,
          ⟨"userAccountLocked", [.userLocked]⟩, ⟨"userAccountUnlocked", [.userUnlocked]⟩,
          ⟨"userEnabled", [.userEnabled]⟩, ⟨"userDisabled", [.userDisabled]⟩,
          ⟨"userProfileUpdated", [.userProfileUpdated]⟩]⟩,
      ⟨"Group", "https://schemas.identity.wso2.org/events/group",
        [⟨"userGroupUpdated", [.userGroupUpdated]⟩]⟩,
      ⟨"Registration", "https://schemas.identity.wso2.org/events/registration",
        [⟨"registrationSuccess", [.registrationSuccess]⟩,
          ⟨"registrationFailed", [.registrationFailure]⟩]⟩]

/-- The events of the Continuous Access Evaluation Profile. -/
def caep : Vocabulary where
  schema := .caep
  version := "1.0"
  channels :=
    [⟨"CAEP", "https://schemas.openid.net/secevent/caep",
      [⟨"session-revoked", [.tokenRevoke]⟩, ⟨"credential-change", [.credentialUpdate]⟩,
        ⟨"session-established", [.loginSuccess]⟩]⟩]

/-- The events of the Risk Incident Sharing and Coordination profile. -/
def risc : Vocabulary where
  schema := .risc
  version := "1.0"
  channels :=
    [⟨"RISC", "https://schemas.openid.net/secevent/risc",
      [⟨"account-purged", [.userDeleted]⟩, ⟨"account-disabled", [.userDisabled, .userLocked]⟩,
        ⟨"account-enabled", [.userEnabled, .userUnlocked]⟩]⟩]

/-- The standard vocabulary of a schema. -/
def standard : Schema → Vocabulary
  | .wso2 => wso2
  | .caep => caep
  | .risc => risc

/-- The standard vocabularies. -/
def standards : List Vocabulary :=
  Schema.all.map standard

/-- The catalog of the standard vocabularies. -/
def standardCatalog : Catalog :=
  Catalog.ofList (standards.map manager)

/-- The profiles of the standard vocabularies. -/
def standardProfiles : List Profile :=
  standards.map profile

/-- The WSO2 schema has an event for every category. -/
theorem covers_wso2 (c : Category) : wso2.covers c = true := by cases c <;> decide

theorem standard_schema (s : Schema) : (standard s).schema = s := by cases s <;> rfl

end SecurityEvents.Vocabulary
