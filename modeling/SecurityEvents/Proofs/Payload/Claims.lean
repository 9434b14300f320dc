import SecurityEvents.Proofs.Claims
import SecurityEvents.Proofs.Payload.Subject
set_option autoImplicit false

/-!
# Claims in payloads

The claims in the parameters of an event reach the payloads that tell them. None is lost, made up, doubled or moved,
apart from those that are kept back in payloads of the category: `EventData.claims_reach_payload`.
-/

namespace SecurityEvents

/-! ## Claims as they are written -/

/-- Claims in a payload, in order: one object a claim. Where there is none, nothing is written. -/
def claimsJson (claims : List (String × String)) : Option Json :=
  Json.unlessEmpty
    (fun claim => Json.ofFields [("uri", some (.string claim.1)), ("value", some (.string claim.2))]) claims

namespace Wso2

/-- The claims that payloads of the category do not tell: they say what stands elsewhere in the payload. -/
def withheld : Category → List String
  | .userCreated | .registrationSuccess => [ClaimUri.userId]
  | .registrationFailure => [ClaimUri.location, ClaimUri.userId]
  | _ => []

theorem unlessEmpty_userClaims (claims : List (String × String)) (except : List String) :
    Json.unlessEmpty UserClaim.json (userClaims claims except)
      = claimsJson (claims.filter fun claim => claim.1 ∉ except) := by
  have hfilter : (claims.filter fun claim => !except.contains claim.1)
      = claims.filter fun claim => claim.1 ∉ except := by
    simp only [List.contains_eq_mem, decide_not]
  rw [userClaims, hfilter]
  cases claims.filter fun claim => claim.1 ∉ except with
  | nil => rfl
  | cons claim rest => simp [claimsJson, Json.unlessEmpty, UserClaim.json]

variable {config : Configuration} {category : Category} {data : EventData} {document : Document}

/-- Whichever payload tells the claims of a user, it tells all but those that are kept back. -/
theorem claims_of_document
    (hcategory : category = .userCreated ∨ category = .registrationSuccess ∨ category = .registrationFailure)
    (h : Wso2.document config category data = .ok document) :
    ∃ user claims, document.user = some user ∧ data.claims ParameterName.userClaims = .ok claims
      ∧ user.claims = userClaims claims (withheld category) := by
  rcases hcategory with rfl | rfl | rfl
  · obtain ⟨claims, _, hclaims, _, huser⟩ := exists_of_userCreated h
    exact ⟨_, claims, huser, hclaims, rfl⟩
  · obtain ⟨claims, _, hclaims, _, huser⟩ := exists_of_userCreated h
    exact ⟨_, claims, huser, hclaims, rfl⟩
  · obtain ⟨claims, hclaims, huser⟩ := exists_of_registrationFailure h
    exact ⟨_, claims, huser, hclaims, rfl⟩

end Wso2

/-- What is written of claims names no others. -/
theorem exists_claim_of_claimsJson {claims : List (String × String)} {items : List Json}
    (h : claimsJson claims = some (.array items)) {item : Json} (hitem : item ∈ items) :
    ∃ claim ∈ claims, item.member? "uri" = some (.string claim.1) := by
  cases claims with
  | nil => cases h
  | cons first rest =>
    cases h
    obtain ⟨claim, hclaim, rfl⟩ := List.mem_map.1 hitem
    exact ⟨claim, hclaim, rfl⟩

/-! ## Claims in the payload of an event -/

/-- A payload of the category tells these claims of a user, except those that are kept back. -/
structure TellsClaims (category : Category) (claims : List (String × String)) (user : Json) : Prop where
  told : user.member? "claims" = claimsJson (claims.filter fun claim => claim.1 ∉ Wso2.withheld category)
  withheld : ∀ items, user.member? "claims" = some (.array items) →
    ∀ item ∈ items, ∀ uri ∈ Wso2.withheld category, item.member? "uri" ≠ some (.string uri)

/-- A payload tells these changes of the claims of a user. -/
structure TellsChanges (added modified deleted : List (String × String)) (user : Json) : Prop where
  added : user.member? "addedClaims" = claimsJson added
  modified : user.member? "updatedClaims" = claimsJson modified
  deleted : user.member? "removedClaims" = claimsJson deleted

namespace Wso2

variable {config : Configuration} {category : Category} {data : EventData} {payload : Payload}

theorem User.tellsClaims {user : User} {claims : List (String × String)}
    (h : user.claims = userClaims claims (withheld category)) : TellsClaims category claims user.json := by
  have htold : user.json.member? "claims"
      = claimsJson (claims.filter fun claim => claim.1 ∉ withheld category) := by
    rw [← unlessEmpty_userClaims, ← h]
    exact Json.member?_ofFields (by simp) _
  refine ⟨htold, fun items hitems item hitem uri huri hsame => ?_⟩
  obtain ⟨claim, hclaim, hnamed⟩ := exists_claim_of_claimsJson (htold.symm.trans hitems) hitem
  have huri_eq : claim.1 = uri := Json.string.inj (Option.some.inj (hnamed.symm.trans hsame))
  exact of_decide_eq_true (List.mem_filter.1 hclaim).2 (huri_eq ▸ huri)

theorem User.tellsChanges {user : User} {added modified deleted : List (String × String)}
    (hadded : user.addedClaims = userClaims added []) (hmodified : user.updatedClaims = userClaims modified [])
    (hdeleted : user.removedClaims = userClaims deleted []) : TellsChanges added modified deleted user.json := by
  have hall (claims : List (String × String)) :
      Json.unlessEmpty UserClaim.json (userClaims claims []) = claimsJson claims := by
    rw [unlessEmpty_userClaims]
    simp
  constructor
  · rw [← hall, ← hadded]
    exact Json.member?_ofFields (by simp) _
  · rw [← hall, ← hmodified]
    exact Json.member?_ofFields (by simp) _
  · rw [← hall, ← hdeleted]
    exact Json.member?_ofFields (by simp) _

theorem tellsClaims_of_encode
    (hcategory : category = .userCreated ∨ category = .registrationSuccess ∨ category = .registrationFailure)
    (h : encode config category data = .ok payload) :
    ∃ user claims, payload.json.member? "user" = some user ∧ data.claims ParameterName.userClaims = .ok claims
      ∧ TellsClaims category claims user := by
  obtain ⟨document, hdocument, rfl⟩ := exists_of_encode h
  obtain ⟨user, claims, huser, hclaims, htold⟩ := claims_of_document hcategory hdocument
  exact ⟨user.json, claims, document.member?_user.trans (congrArg _ huser), hclaims, User.tellsClaims htold⟩

theorem tellsChanges_of_encode (h : encode config .userProfileUpdated data = .ok payload) :
    ∃ user added modified deleted, payload.json.member? "user" = some user
      ∧ data.claims ParameterName.userClaimsAdded = .ok added
      ∧ data.claims ParameterName.userClaimsModified = .ok modified
      ∧ data.claims ParameterName.userClaimsDeleted = .ok deleted
      ∧ TellsChanges added modified deleted user := by
  obtain ⟨document, hdocument, rfl⟩ := exists_of_encode h
  obtain ⟨_, added, modified, deleted, _, hadded, hmodified, hdeleted, huser⟩ :=
    exists_of_userProfileUpdated hdocument
  exact ⟨_, added, modified, deleted, document.member?_user.trans (congrArg _ huser), hadded, hmodified, hdeleted,
    User.tellsChanges rfl rfl rfl⟩

end Wso2

/-- A claims parameter is refused exactly if it is no object or has an object among its entries, and then the first
fault is blamed. Otherwise it makes one claim of each entry that is not null, in order and each about something else.
These are the claims that payloads tell, apart from those that are kept back. -/
theorem EventData.claims_reach_payload (data : EventData) :
    (∀ parameter,
      ((∃ claims, data.claims parameter = .ok claims) ↔
        data.parameters.get? parameter = none ∨ data.parameters.get? parameter = some .null
        ∨ ∃ members, data.parameters.get? parameter = some (.object members)
          ∧ ∀ entry ∈ members, ¬ entry.2.IsObject)
      ∧ (∀ cause, data.claims parameter = .error cause ↔
        Condition.FirstTold (data.parameters.claimsConditions parameter) cause)
      ∧ ∀ claims, data.claims parameter = .ok claims →
        List.Forall₂ MakesClaim ((data.parameters.entries parameter).filter (·.2 ≠ .null)) claims
        ∧ (claims.map (·.1)).Nodup)
    ∧ ∀ config category payload, Wso2.encode config category data = .ok payload →
      (category = .userCreated ∨ category = .registrationSuccess ∨ category = .registrationFailure →
        ∃ user claims, payload.json.member? "user" = some user
          ∧ data.claims ParameterName.userClaims = .ok claims ∧ TellsClaims category claims user)
      ∧ (category = .userProfileUpdated →
        ∃ user added modified deleted, payload.json.member? "user" = some user
          ∧ data.claims ParameterName.userClaimsAdded = .ok added
          ∧ data.claims ParameterName.userClaimsModified = .ok modified
          ∧ data.claims ParameterName.userClaimsDeleted = .ok deleted
          ∧ TellsChanges added modified deleted user) := by
  refine ⟨fun parameter => ⟨exists_claims_iff, (data.restsOn_claims parameter).eq_error_iff, fun claims h =>
    ⟨makesClaim_of_claims h, nodup_uris_of_claims h⟩⟩, fun config category payload h => ⟨fun hcategory => ?_, ?_⟩⟩
  · exact Wso2.tellsClaims_of_encode hcategory h
  · rintro rfl
    exact Wso2.tellsChanges_of_encode h

end SecurityEvents
