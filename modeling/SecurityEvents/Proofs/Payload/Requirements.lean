import SecurityEvents.Proofs.Claims
import SecurityEvents.Proofs.Payload.Standard
set_option autoImplicit false

/-!
# What payloads ask of an event

A payload is made if the event tells all that the payload cannot do without. `Schema.requirements` lists what that is
for each schema and category, in the order in which it is looked at. `Encoder.standard_succeeds_iff`: a standard encoder
succeeds exactly if all of it is met, and otherwise reports the first that is not.
-/

namespace SecurityEvents

/-- Something is known that a payload of the category cannot do without. -/
def knownCondition {α : Type} (category : Category) (field : String) (o : Option α) : Condition EncodeError where
  Met := ∃ x, o = some x
  Tells cause := cause = .missingField category field

/-- The category is one of those that have a payload. -/
def supportedCondition (categories : List Category) (category : Category) : Condition EncodeError where
  Met := category ∈ categories
  Tells cause := cause = .unsupportedCategory category

instance (categories : List Category) (category : Category) :
    Decidable (supportedCondition categories category).Met :=
  inferInstanceAs (Decidable (category ∈ categories))

/-! ## Payloads of the WSO2 schema -/

namespace Wso2

/-- The user is known from the event, or else from a claim that is not empty. -/
def claimedUserCondition (category : Category) (data : EventData) : Condition EncodeError where
  Met := (∃ id, data.userId = some id) ∨ ∃ claims id, data.claims ParameterName.userClaims = .ok claims
    ∧ (ClaimUri.userId, id) ∈ claims ∧ id ≠ ""
  Tells cause := cause = .missingField category "user id"

/-- What a payload asks of an event of the category, besides a tenant. -/
def ownRequirements (category : Category) (data : EventData) : List (Condition EncodeError) :=
  match category with
  | .credentialUpdate | .loginSuccess | .tokenRevoke | .userDeleted | .userLocked | .userUnlocked | .userEnabled
  | .userDisabled => [knownCondition category "user id" data.userId]
  | .loginFailure => []
  | .userCreated | .registrationSuccess =>
    data.parameters.claimsConditions ParameterName.userClaims ++ [claimedUserCondition category data]
  | .userProfileUpdated =>
    knownCondition category "user id" data.userId
      :: (data.parameters.claimsConditions ParameterName.userClaimsAdded
        ++ (data.parameters.claimsConditions ParameterName.userClaimsModified
          ++ data.parameters.claimsConditions ParameterName.userClaimsDeleted))
  | .userGroupUpdated =>
    [knownCondition category "group name" (data.string? ParameterName.roleName),
      data.parameters.stringsCondition ParameterName.newUsers,
      data.parameters.stringsCondition ParameterName.deletedUsers]
  | .registrationFailure => data.parameters.claimsConditions ParameterName.userClaims

/-- What a payload asks of an event of the category; the tenant is looked for first. -/
def requirements (category : Category) (data : EventData) : List (Condition EncodeError) :=
  knownCondition category "tenant domain" (data.publishTenantDomain category) :: ownRequirements category data

variable {category : Category} {data : EventData}

/-- What is required rests on any condition that says in its own way that it is known. -/
theorem restsOn_required_of_iff {α : Type} {field : String} {o : Option α} {c : Condition EncodeError}
    (hmet : c.Met ↔ ∃ x, o = some x) (htells : ∀ cause, c.Tells cause ↔ cause = .missingField category field) :
    RestsOn (required category field o) [c] := by
  cases o with
  | some x => exact restsOn_ok_iff.2 (List.forall_mem_singleton.2 (hmet.2 ⟨x, rfl⟩))
  | none => exact restsOn_error (fun h => nomatch hmet.1 h) htells

theorem restsOn_required {α : Type} (category : Category) (field : String) (o : Option α) :
    RestsOn (required category field o) [knownCondition category field o] :=
  restsOn_required_of_iff Iff.rfl fun _ => Iff.rfl

theorem restsOn_base (category : Category) (data : EventData) :
    RestsOn (base category data) [knownCondition category "tenant domain" (data.publishTenantDomain category)] :=
  (restsOn_required _ _ _).bind_ok _

theorem restsOn_requiredUser (config : Configuration) (category : Category) (data : EventData) :
    RestsOn (requiredUser config category data) [knownCondition category "user id" data.userId] :=
  (restsOn_required _ _ _).bind_ok _

/-- No two claims are about the same, so the first that is found is the only one. -/
theorem claimOf?_eq_some_iff {claims : List (String × String)} (hnodup : (claims.map (·.1)).Nodup)
    {uri value : String} : claimOf? claims uri = some value ↔ (uri, value) ∈ claims ∧ value ≠ "" := by
  rw [claimOf?, Option.filter_eq_some_iff, decide_eq_true_iff, List.lookup_eq_some_iff]
  refine and_congr_left fun _ => ⟨?_, fun hmem => ?_⟩
  · rintro ⟨before, after, rfl, _⟩
    exact List.mem_append_right before List.mem_cons_self
  · obtain ⟨before, after, rfl⟩ := List.append_of_mem hmem
    refine ⟨before, after, rfl, fun claim hclaim => bne_iff_ne.2 fun heq => ?_⟩
    rw [List.map_append, List.nodup_append] at hnodup
    exact hnodup.2.2 claim.1 (List.mem_map_of_mem hclaim) uri List.mem_cons_self heq.symm

/-- Once the claims are there, the user is known if either the event or a claim tells the id. -/
theorem restsOn_claimedUser {claims : List (String × String)}
    (h : data.claims ParameterName.userClaims = .ok claims) (category : Category) :
    RestsOn (required category "user id" (data.userId.or (claimOf? claims ClaimUri.userId)))
      [claimedUserCondition category data] := by
  refine restsOn_required_of_iff ?_ fun _ => Iff.rfl
  have hclaimed : (claimedUserCondition category data).Met
      ↔ (∃ id, data.userId = some id) ∨ ∃ id, claimOf? claims ClaimUri.userId = some id := by
    simp only [claimedUserCondition, h, Except.ok.injEq, exists_and_left, exists_eq_left',
      claimOf?_eq_some_iff (EventData.nodup_uris_of_claims h)]
  rw [hclaimed]
  cases data.userId with
  | none => simp
  | some id => simp

theorem restsOn_userCreated (config : Configuration) (category : Category) (data : EventData) :
    RestsOn (userCreated config category data)
      (knownCondition category "tenant domain" (data.publishTenantDomain category)
        :: (data.parameters.claimsConditions ParameterName.userClaims ++ [claimedUserCondition category data])) :=
  (restsOn_base _ _).bind fun _ _ => (data.restsOn_claims _).bind fun _ hclaims =>
    (restsOn_claimedUser hclaims category).bind_ok _

theorem restsOn_userAccount (config : Configuration) (category : Category) (data : EventData) :
    RestsOn (userAccount config category data)
      [knownCondition category "tenant domain" (data.publishTenantDomain category),
        knownCondition category "user id" data.userId] :=
  (restsOn_base _ _).bind fun _ _ => (restsOn_requiredUser config category data).bind_ok _

theorem restsOn_document (config : Configuration) (category : Category) (data : EventData) :
    RestsOn (document config category data) (requirements category data) := by
  cases category with
  | credentialUpdate | loginSuccess | tokenRevoke | userDeleted =>
    apply (restsOn_base _ _).bind
    intro base _
    exact (restsOn_requiredUser config _ data).bind_ok _
  | userLocked | userUnlocked | userEnabled | userDisabled => exact restsOn_userAccount config _ data
  | loginFailure => exact (restsOn_base _ _).bind_ok _
  | userCreated | registrationSuccess => exact restsOn_userCreated config _ data
  | userProfileUpdated =>
    apply (restsOn_base _ _).bind
    intro base _
    apply (restsOn_requiredUser config _ data).bind
    intro user _
    apply (data.restsOn_claims _).bind
    intro added _
    apply (data.restsOn_claims _).bind
    intro modified _
    exact (data.restsOn_claims _).bind_ok _
  | userGroupUpdated =>
    apply (restsOn_base _ _).bind
    intro base _
    apply (restsOn_required _ _ _).bind
    intro name _
    apply (data.restsOn_strings _).bind
    intro added _
    exact (data.restsOn_strings _).bind_ok _
  | registrationFailure =>
    apply (restsOn_base _ _).bind
    intro base _
    exact (data.restsOn_claims _).bind_ok _

end Wso2

/-! ## Payloads of any schema -/

namespace Schema

/-- What a payload of the schema asks of an event of the category, in the order in which it is looked at. -/
def requirements : Schema → Category → EventData → List (Condition EncodeError)
  | .wso2, category, data => Wso2.requirements category data
  | .caep, category, data =>
    [knownCondition category "user id" data.userId, supportedCondition Caep.categories category]
  | .risc, category, data =>
    [supportedCondition Risc.categories category, knownCondition category "user id" data.userId]

theorem restsOn_caep (category : Category) (data : EventData) :
    RestsOn (Caep.encode category data) (requirements .caep category data) := by
  unfold Caep.encode
  cases hid : data.userId with
  | none => exact restsOn_error (fun ⟨_, hknown⟩ => nomatch hid.symm.trans hknown) fun _ => Iff.rfl
  | some id =>
    refine RestsOn.of_met ?_ ⟨id, hid⟩
    cases category with
    | tokenRevoke | credentialUpdate | loginSuccess =>
      exact restsOn_ok_iff.2 (List.forall_mem_singleton.2 (by decide))
    | _ => exact restsOn_error (by decide) fun _ => Iff.rfl

theorem restsOn_risc (category : Category) (data : EventData) :
    RestsOn (Risc.encode category data) (requirements .risc category data) := by
  unfold Risc.encode
  split
  · rename_i hsupported
    refine RestsOn.of_met ?_ (List.contains_iff_mem.1 hsupported)
    unfold knownCondition
    cases data.userId with
    | none => exact restsOn_error nofun fun _ => Iff.rfl
    | some id => exact restsOn_ok_iff.2 (List.forall_mem_singleton.2 ⟨id, rfl⟩)
  · rename_i hsupported
    exact restsOn_error (fun h => hsupported (List.contains_iff_mem.2 h)) fun _ => Iff.rfl

theorem restsOn_payload (schema : Schema) (config : Configuration) (category : Category) (data : EventData) :
    RestsOn (schema.payload config category data) (schema.requirements category data) := by
  cases schema with
  | wso2 => exact (Wso2.restsOn_document config category data).map Wso2.Document.payload
  | caep => exact restsOn_caep category data
  | risc => exact restsOn_risc category data

/-- What the condition tells, it tells of the category; and the category itself is in its way only if it is not
supported. -/
structure Concerns (category : Category) (supported : Bool) (c : Condition EncodeError) : Prop where
  missing : ∀ asked field, c.Tells (.missingField asked field) → asked = category
  unsupported : ∀ asked, c.Tells (.unsupportedCategory asked) → asked = category ∧ (supported = true → c.Met)

section Concerns

variable (category : Category) (supported : Bool)

theorem concerns_of_missing {c : Condition EncodeError} {field : String}
    (h : ∀ cause, c.Tells cause → cause = .missingField category field) : Concerns category supported c where
  missing _ _ htells := (EncodeError.missingField.inj (h _ htells)).1
  unsupported _ htells := nomatch h _ htells

theorem concerns_of_invalid {c : Condition EncodeError} {field reason : String}
    (h : ∀ cause, c.Tells cause → cause = .invalidField field reason) : Concerns category supported c where
  missing _ _ htells := nomatch h _ htells
  unsupported _ htells := nomatch h _ htells

theorem concerns_known {α : Type} (field : String) (o : Option α) :
    Concerns category supported (knownCondition category field o) :=
  concerns_of_missing category supported fun _ h => h

theorem concerns_supported (categories : List Category) :
    Concerns category (categories.contains category) (supportedCondition categories category) where
  missing _ _ htells := nomatch htells
  unsupported _ htells := ⟨EncodeError.unsupportedCategory.inj htells, List.contains_iff_mem.1⟩

variable (data : EventData) (parameter : String)

theorem concerns_strings : Concerns category supported (data.parameters.stringsCondition parameter) :=
  concerns_of_invalid category supported fun _ h => h

theorem concerns_claims :
    ∀ c ∈ data.parameters.claimsConditions parameter, Concerns category supported c := by
  refine List.forall_mem_cons.2 ⟨concerns_of_invalid category supported fun _ h => h, fun c hc => ?_⟩
  obtain ⟨entry, _, rfl⟩ := List.mem_map.1 hc
  exact concerns_of_invalid category supported fun _ h => h

theorem concerns_ownRequirements :
    ∀ c ∈ Wso2.ownRequirements category data, Concerns category supported c := by
  cases category with
  | loginFailure => exact fun _ hc => (List.not_mem_nil hc).elim
  | userCreated | registrationSuccess =>
    refine List.forall_mem_append.2 ⟨concerns_claims _ _ _ _, List.forall_mem_singleton.2 ?_⟩
    exact concerns_of_missing _ supported fun _ h => h
  | userProfileUpdated =>
    refine List.forall_mem_cons.2 ⟨concerns_known _ _ _ _, List.forall_mem_append.2 ⟨concerns_claims _ _ _ _, ?_⟩⟩
    exact List.forall_mem_append.2 ⟨concerns_claims _ _ _ _, concerns_claims _ _ _ _⟩
  | userGroupUpdated =>
    refine List.forall_mem_cons.2 ⟨concerns_known _ _ _ _, List.forall_mem_cons.2 ⟨concerns_strings _ _ _ _, ?_⟩⟩
    exact List.forall_mem_singleton.2 (concerns_strings _ _ _ _)
  | registrationFailure => exact concerns_claims _ _ _ _
  | _ => exact List.forall_mem_singleton.2 (concerns_known _ _ _ _)

theorem concerns_requirements {σ : Type} (config : Configuration) (schema : Schema) :
    ∀ c ∈ schema.requirements category data,
      Concerns category ((Encoder.standard config schema : Encoder σ).supports category) c := by
  cases schema with
  | wso2 => exact List.forall_mem_cons.2 ⟨concerns_known _ _ _ _, concerns_ownRequirements _ _ _⟩
  | caep =>
    exact List.forall_mem_cons.2 ⟨concerns_known _ _ _ _, List.forall_mem_singleton.2 (concerns_supported _ _)⟩
  | risc =>
    exact List.forall_mem_cons.2 ⟨concerns_supported _ _, List.forall_mem_singleton.2 (concerns_known _ _ _ _)⟩

end Concerns

section Errors

variable {config : Configuration} {schema : Schema} {category asked : Category} {data : EventData}

/-- An error is what some requirement tells that is not met. -/
theorem exists_requirement_of_error {cause : EncodeError}
    (h : schema.payload config category data = .error cause) :
    ∃ c ∈ schema.requirements category data, ¬ c.Met ∧ c.Tells cause := by
  obtain ⟨before, c, after, hrequirements, _, hunmet, htells⟩ :=
    ((schema.restsOn_payload config category data).eq_error_iff cause).1 h
  exact ⟨c, hrequirements ▸ List.mem_append_right before List.mem_cons_self, hunmet, htells⟩

theorem asked_of_missingField {field : String}
    (h : schema.payload config category data = .error (.missingField asked field)) : asked = category := by
  obtain ⟨c, hc, _, htells⟩ := exists_requirement_of_error h
  exact (concerns_requirements (σ := Unit) category data config schema c hc).missing asked field htells

theorem asked_of_unsupportedCategory {σ : Type}
    (h : schema.payload config category data = .error (.unsupportedCategory asked)) :
    asked = category ∧ (Encoder.standard config schema : Encoder σ).supports category = false := by
  obtain ⟨c, hc, hunmet, htells⟩ := exists_requirement_of_error h
  have hconcerns := (concerns_requirements (σ := σ) category data config schema c hc).unsupported asked htells
  exact ⟨hconcerns.1, Bool.eq_false_iff.2 fun hsupports => hunmet (hconcerns.2 hsupports)⟩

end Errors

end Schema

/-- A standard encoder answers at once. It succeeds exactly if the event tells all that the payload asks for, and
otherwise reports the first thing that it does not tell. What it reports of a category is of the one that is encoded. -/
theorem Encoder.standard_succeeds_iff {σ : Type} (config : Configuration) (schema : Schema) (category : Category)
    (data : EventData) :
    ∃ result, (Encoder.standard config schema : Encoder σ).encode category data = pure result
      ∧ ((∃ payload, result = .ok payload) ↔ ∀ c ∈ schema.requirements category data, c.Met)
      ∧ (∀ cause, result = .error cause ↔ Condition.FirstTold (schema.requirements category data) cause)
      ∧ (∀ asked field, result = .error (.missingField asked field) → asked = category)
      ∧ ∀ asked, result = .error (.unsupportedCategory asked) →
        asked = category ∧ (Encoder.standard config schema : Encoder σ).supports category = false := by
  have hrests := schema.restsOn_payload config category data
  exact ⟨_, Encoder.standard_encode config schema category data, hrests.exists_ok_iff, hrests.eq_error_iff,
    fun _ _ => Schema.asked_of_missingField, fun _ => Schema.asked_of_unsupportedCategory⟩

end SecurityEvents
