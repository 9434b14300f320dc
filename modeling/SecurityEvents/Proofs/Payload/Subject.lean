import SecurityEvents.Proofs.Json.Record
import SecurityEvents.Proofs.Payload.Standard
import SecurityEvents.Proofs.Rehearsal
import SecurityEvents.Vocabulary.Standard
set_option autoImplicit false

/-!
# Whom a standard token is about

The subject of a token and the user in its payload are worked out apart from each other. With the standard
encoders they are one: `Wso2.Describes` lists the ways in which a document of a category can name its user, and
`Token.SpeaksOfOne` is what follows for the token of any schema.
-/

namespace SecurityEvents

/-! ## Documents of the WSO2 schema -/

namespace Wso2

theorem Document.member?_user (document : Document) :
    document.json.member? "user" = document.user.map User.json :=
  Json.member?_ofFields (by simp) _

theorem User.member?_id (u : User) : u.json.member? "id" = u.id.map Json.string :=
  Json.member?_ofFields (by simp) _

theorem User.member?_ref (u : User) : u.json.member? "ref" = u.reference.map Json.string :=
  Json.member?_ofFields (by simp) _

/-- The claims of an event of the category name a user who is not known otherwise. -/
def ClaimsId (category : Category) (claims : List (String × String)) (id : String) : Prop :=
  (category = .userCreated ∨ category = .registrationSuccess) ∧ claimOf? claims ClaimUri.userId = some id
  ∨ category = .registrationFailure ∧ (claimOf? claims ClaimUri.location).bind idOfLocation? = some id

/-- The user has the id, and is found where users of the event's tenant are. -/
structure Identifies (config : Configuration) (data : EventData) (u : User) (id : String) : Prop where
  id_eq : u.id = some id
  reference_eq : u.reference = some (userReference config data id)

/-- The user in a document for an event of the category: nobody for a group or for a login by somebody unknown;
the user of the event, if it has one; one that the claims name; or one without an id, who could not register. -/
inductive Describes (config : Configuration) (category : Category) (data : EventData) : Option User → Prop where
  | group (hcategory : category = .userGroupUpdated) : Describes config category data none
  | unknown (hcategory : category = .loginFailure) (hid : data.userId = none) :
    Describes config category data none
  | known {u : User} {id : String} (hcategory : category ≠ .userGroupUpdated) (hid : data.userId = some id)
    (hu : Identifies config data u id) : Describes config category data (some u)
  | claimed {u : User} {claims : List (String × String)} {id : String} (hid : data.userId = none)
    (hclaims : data.claims ParameterName.userClaims = .ok claims) (hclaim : ClaimsId category claims id)
    (hu : Identifies config data u id) : Describes config category data (some u)
  | unnamed {u : User} (hcategory : category = .registrationFailure) (hid : data.userId = none)
    (hu : u.id = none) : Describes config category data (some u)

variable {config : Configuration} {category : Category} {data : EventData} {document : Document}

theorem required_eq_ok {α : Type} {field : String} {o : Option α} {x : α}
    (h : required category field o = .ok x) : o = some x := by
  cases o with
  | none => cases h
  | some y =>
    cases h
    rfl

theorem exists_of_requiredUser {u : User} (h : requiredUser config category data = .ok u) :
    ∃ id, data.userId = some id ∧ u = userWithId config data id := by
  obtain ⟨id, hid, hu⟩ := exists_of_bind_eq_ok h
  cases hu
  exact ⟨id, required_eq_ok hid, rfl⟩

/-! ### Users whose claims are told -/

theorem exists_of_userCreated (h : userCreated config category data = .ok document) :
    ∃ claims id, data.claims ParameterName.userClaims = .ok claims
      ∧ data.userId.or (claimOf? claims ClaimUri.userId) = some id
      ∧ document.user
        = some { userWithId config data id with claims := userClaims claims [ClaimUri.userId] } := by
  obtain ⟨_, _, h⟩ := exists_of_bind_eq_ok h
  obtain ⟨claims, hclaims, h⟩ := exists_of_bind_eq_ok h
  obtain ⟨id, hid, h⟩ := exists_of_bind_eq_ok h
  cases h
  exact ⟨claims, id, hclaims, required_eq_ok hid, rfl⟩

theorem exists_of_registrationFailure (h : registrationFailure config data = .ok document) :
    ∃ claims, data.claims ParameterName.userClaims = .ok claims
      ∧ document.user = some
        { ((data.userId.or ((claimOf? claims ClaimUri.location).bind idOfLocation?)).map
            (userWithId config data)).getD {} with
          claims := userClaims claims [ClaimUri.location, ClaimUri.userId] } := by
  obtain ⟨_, _, h⟩ := exists_of_bind_eq_ok h
  obtain ⟨claims, hclaims, h⟩ := exists_of_bind_eq_ok h
  cases h
  exact ⟨claims, hclaims, rfl⟩

theorem exists_of_userProfileUpdated (h : userProfileUpdated config data = .ok document) :
    ∃ id added modified deleted, data.userId = some id
      ∧ data.claims ParameterName.userClaimsAdded = .ok added
      ∧ data.claims ParameterName.userClaimsModified = .ok modified
      ∧ data.claims ParameterName.userClaimsDeleted = .ok deleted
      ∧ document.user = some
        { userWithId config data id with
          addedClaims := userClaims added []
          updatedClaims := userClaims modified []
          removedClaims := userClaims deleted [] } := by
  obtain ⟨_, _, h⟩ := exists_of_bind_eq_ok h
  obtain ⟨u, hu, h⟩ := exists_of_bind_eq_ok h
  obtain ⟨added, hadded, h⟩ := exists_of_bind_eq_ok h
  obtain ⟨modified, hmodified, h⟩ := exists_of_bind_eq_ok h
  obtain ⟨deleted, hdeleted, h⟩ := exists_of_bind_eq_ok h
  obtain ⟨id, hid, rfl⟩ := exists_of_requiredUser hu
  cases h
  exact ⟨id, added, modified, deleted, hid, hadded, hmodified, hdeleted, rfl⟩

/-! ### Documents by category -/

theorem describes_credentialUpdate (h : credentialUpdate config data = .ok document) :
    Describes config .credentialUpdate data document.user := by
  obtain ⟨_, _, h⟩ := exists_of_bind_eq_ok h
  obtain ⟨u, hu, h⟩ := exists_of_bind_eq_ok h
  obtain ⟨id, hid, rfl⟩ := exists_of_requiredUser hu
  cases h
  exact .known (by decide) hid ⟨rfl, rfl⟩

theorem describes_loginSuccess (h : loginSuccess config data = .ok document) :
    Describes config .loginSuccess data document.user := by
  obtain ⟨_, _, h⟩ := exists_of_bind_eq_ok h
  obtain ⟨u, hu, h⟩ := exists_of_bind_eq_ok h
  obtain ⟨id, hid, rfl⟩ := exists_of_requiredUser hu
  cases h
  exact .known (by decide) hid ⟨rfl, rfl⟩

theorem describes_loginFailure (h : loginFailure config data = .ok document) :
    Describes config .loginFailure data document.user := by
  obtain ⟨_, _, h⟩ := exists_of_bind_eq_ok h
  cases h
  cases hid : data.userId with
  | none => exact .unknown rfl hid
  | some id => exact .known (by decide) hid ⟨rfl, rfl⟩

theorem describes_tokenRevoke (h : tokenRevoke config data = .ok document) :
    Describes config .tokenRevoke data document.user := by
  obtain ⟨_, _, h⟩ := exists_of_bind_eq_ok h
  obtain ⟨u, hu, h⟩ := exists_of_bind_eq_ok h
  obtain ⟨id, hid, rfl⟩ := exists_of_requiredUser hu
  cases h
  exact .known (by decide) hid ⟨rfl, rfl⟩

/-- The id of a user who is created may be among the claims, in any category that this is used for. -/
theorem describes_userCreated (hcategory : category = .userCreated ∨ category = .registrationSuccess)
    (h : userCreated config category data = .ok document) :
    Describes config category data document.user := by
  obtain ⟨claims, id, hclaims, hnamed, hdescribed⟩ := exists_of_userCreated h
  rw [hdescribed]
  cases huser : data.userId with
  | none =>
    rw [huser, Option.none_or] at hnamed
    exact .claimed huser hclaims (.inl ⟨hcategory, hnamed⟩) ⟨rfl, rfl⟩
  | some known =>
    rw [huser, Option.some_or] at hnamed
    cases hnamed
    refine .known ?_ huser ⟨rfl, rfl⟩
    rcases hcategory with rfl | rfl <;> decide

theorem describes_userDeleted (h : userDeleted config data = .ok document) :
    Describes config .userDeleted data document.user := by
  obtain ⟨_, _, h⟩ := exists_of_bind_eq_ok h
  obtain ⟨u, hu, h⟩ := exists_of_bind_eq_ok h
  obtain ⟨id, hid, rfl⟩ := exists_of_requiredUser hu
  cases h
  exact .known (by decide) hid ⟨rfl, rfl⟩

theorem describes_userAccount (hcategory : category ≠ .userGroupUpdated)
    (h : userAccount config category data = .ok document) :
    Describes config category data document.user := by
  obtain ⟨_, _, h⟩ := exists_of_bind_eq_ok h
  obtain ⟨u, hu, h⟩ := exists_of_bind_eq_ok h
  obtain ⟨id, hid, rfl⟩ := exists_of_requiredUser hu
  cases h
  exact .known hcategory hid ⟨rfl, rfl⟩

theorem describes_userProfileUpdated (h : userProfileUpdated config data = .ok document) :
    Describes config .userProfileUpdated data document.user := by
  obtain ⟨id, _, _, _, hid, _, _, _, hdescribed⟩ := exists_of_userProfileUpdated h
  rw [hdescribed]
  exact .known (by decide) hid ⟨rfl, rfl⟩

theorem describes_userGroupUpdated (h : userGroupUpdated data = .ok document) :
    Describes config .userGroupUpdated data document.user := by
  obtain ⟨base, hbase, h⟩ := exists_of_bind_eq_ok h
  obtain ⟨_, _, h⟩ := exists_of_bind_eq_ok h
  obtain ⟨_, _, h⟩ := exists_of_bind_eq_ok h
  obtain ⟨_, _, h⟩ := exists_of_bind_eq_ok h
  obtain ⟨_, _, hbase⟩ := exists_of_bind_eq_ok hbase
  cases hbase
  cases h
  exact .group rfl

theorem describes_registrationFailure (h : registrationFailure config data = .ok document) :
    Describes config .registrationFailure data document.user := by
  obtain ⟨claims, hclaims, hdescribed⟩ := exists_of_registrationFailure h
  rw [hdescribed]
  cases huser : data.userId with
  | some id => exact .known (by decide) huser ⟨rfl, rfl⟩
  | none =>
    rw [Option.none_or]
    cases hclaim : (claimOf? claims ClaimUri.location).bind idOfLocation? with
    | some id => exact .claimed huser hclaims (.inr ⟨rfl, hclaim⟩) ⟨rfl, rfl⟩
    | none => exact .unnamed rfl huser rfl

/-- Every document describes its user in one of these ways. -/
theorem describes_document (h : Wso2.document config category data = .ok document) :
    Describes config category data document.user := by
  cases category with
  | credentialUpdate => exact describes_credentialUpdate h
  | loginSuccess => exact describes_loginSuccess h
  | loginFailure => exact describes_loginFailure h
  | tokenRevoke => exact describes_tokenRevoke h
  | userCreated => exact describes_userCreated (.inl rfl) h
  | registrationSuccess => exact describes_userCreated (.inr rfl) h
  | userDeleted => exact describes_userDeleted h
  | userLocked | userUnlocked | userEnabled | userDisabled => exact describes_userAccount (by decide) h
  | userProfileUpdated => exact describes_userProfileUpdated h
  | userGroupUpdated => exact describes_userGroupUpdated h
  | registrationFailure => exact describes_registrationFailure h

section Describes

variable {described : Option User} {u : User} {id : String}

theorem Describes.eq_none_iff (h : Describes config category data described) (hid : data.userId = some id) :
    described = none ↔ category = .userGroupUpdated := by
  cases h with
  | group hcategory => exact ⟨fun _ => hcategory, fun _ => rfl⟩
  | known hcategory => exact ⟨(nomatch ·), fun hgroup => (hcategory hgroup).elim⟩
  | unknown _ hnone | claimed hnone | unnamed _ hnone => cases hnone.symm.trans hid

theorem Describes.id_eq (h : Describes config category data (some u)) (hid : data.userId = some id) :
    u.id = some id := by
  cases h with
  | known _ hknown hu =>
    cases hknown.symm.trans hid
    exact hu.id_eq
  | claimed hnone | unnamed _ hnone => cases hnone.symm.trans hid

theorem Describes.exists_claims (h : Describes config category data (some u)) (hnone : data.userId = none)
    (hu : u.id = some id) :
    ∃ claims, data.claims ParameterName.userClaims = .ok claims ∧ ClaimsId category claims id := by
  cases h with
  | known _ hid => cases hid.symm.trans hnone
  | claimed _ hclaims hclaim hidentifies =>
    cases hidentifies.id_eq.symm.trans hu
    exact ⟨_, hclaims, hclaim⟩
  | unnamed _ _ hunnamed => cases hunnamed.symm.trans hu

theorem Describes.reference_eq (h : Describes config category data (some u)) (hu : u.id = some id) :
    u.reference = some (userReference config data id) := by
  cases h with
  | known _ _ hidentifies | claimed _ _ _ hidentifies =>
    cases hidentifies.id_eq.symm.trans hu
    exact hidentifies.reference_eq
  | unnamed _ _ hunnamed => cases hunnamed.symm.trans hu

end Describes

end Wso2

/-! ## Tokens -/

/-- What a token of the WSO2 schema says of a user, in an announcement of the data as of the category: `said` is its
payload. -/
structure Token.NamesUser (config : Configuration) (category : Category) (data : EventData) (t : Token)
    (said : Json) : Prop where
  /-- Where there is a subject, only an event of a group is about no user. -/
  user_missing_iff : ∀ subject, t.subject = some subject →
    (said.member? "user" = none ↔ category = .userGroupUpdated)
  /-- The user is the subject. -/
  id_of_subject : ∀ subject user, t.subject = some subject → said.member? "user" = some user →
    user.member? "id" = some (.string subject.id)
  /-- Without a subject the user has no id but a claimed one. -/
  id_of_claims : t.subject = none → ∀ user id, said.member? "user" = some user →
    user.member? "id" = some id → ∃ claims text, data.claims ParameterName.userClaims = .ok claims
      ∧ Wso2.ClaimsId category claims text ∧ id = .string text
  /-- A user with an id is found in the tenant of the event, which is the issuer unless it is a login. -/
  reference_of_id : ∀ user id, said.member? "user" = some user → user.member? "id" = some id →
    ∃ text, id = .string text
      ∧ user.member? "ref" = some (.string (config.issuerFor data.tenantDomain ++ "/scim2/Users/" ++ text))
      ∧ (category.isLogin = false →
        user.member? "ref" = some (.string (t.issuer ++ "/scim2/Users/" ++ text)))

/-- What a token says of its subject, by its schema. -/
def Token.SpeaksOfOne (config : Configuration) (category : Category) (data : EventData) (t : Token)
    (said : Json) : Schema → Prop
  | .wso2 => t.NamesUser config category data said
  | .caep => ∃ subject, t.subject = some subject
  | .risc => ∃ subject, t.subject = some subject ∧ said.member? "subject" = some subject.json

section SpeaksOfOne

variable {config : Configuration} {category : Category} {data : EventData} {t : Token} {payload : Payload}

theorem Caep.exists_userId (h : Caep.encode category data = .ok payload) : ∃ id, data.userId = some id := by
  unfold Caep.encode at h
  cases hid : data.userId with
  | none =>
    rw [hid] at h
    cases h
  | some id => exact ⟨id, rfl⟩

/-- Subject and user are both made of the id of the event's user, so a token names the user that it is about. -/
theorem Wso2.Describes.namesUser {described : Option User} {said : Json}
    (h : Describes config category data described) (hsaid : said.member? "user" = described.map User.json)
    (hissuer : t.issuer = config.issuerFor (data.publishTenantDomain category))
    (hsubject : t.subject = data.userId.map SubjectId.opaqueId) :
    t.NamesUser config category data said := by
  have hknown {subject : SubjectId} (h : t.subject = some subject) :
      ∃ id, data.userId = some id ∧ SubjectId.opaqueId id = subject :=
    Option.map_eq_some_iff.1 (hsubject ▸ h)
  have huser {user : Json} (h : said.member? "user" = some user) : ∃ u, described = some u ∧ u.json = user :=
    Option.map_eq_some_iff.1 (hsaid ▸ h)
  have hid {u : User} {v : Json} (h : u.json.member? "id" = some v) : ∃ id, u.id = some id ∧ .string id = v :=
    Option.map_eq_some_iff.1 (u.member?_id ▸ h)
  constructor
  · intro subject hsome
    obtain ⟨id, hid, _⟩ := hknown hsome
    rw [hsaid, Option.map_eq_none_iff]
    exact h.eq_none_iff hid
  · intro subject user hsome hmember
    obtain ⟨id, hid, rfl⟩ := hknown hsome
    obtain ⟨u, rfl, rfl⟩ := huser hmember
    rw [User.member?_id, h.id_eq hid]
    rfl
  · intro hnone user v hmember hv
    obtain ⟨u, rfl, rfl⟩ := huser hmember
    obtain ⟨id, hu, rfl⟩ := hid hv
    obtain ⟨claims, hclaims, hclaim⟩ := h.exists_claims (Option.map_eq_none_iff.1 (hsubject ▸ hnone)) hu
    exact ⟨claims, id, hclaims, hclaim, rfl⟩
  · intro user v hmember hv
    obtain ⟨u, rfl, rfl⟩ := huser hmember
    obtain ⟨id, hu, rfl⟩ := hid hv
    have hreference : u.json.member? "ref"
        = some (.string (config.issuerFor data.tenantDomain ++ "/scim2/Users/" ++ id)) := by
      rw [User.member?_ref, h.reference_eq hu]
      rfl
    refine ⟨id, rfl, hreference, fun hlogin => ?_⟩
    rw [hissuer, EventData.publishTenantDomain, hlogin]
    exact hreference

/-- A token with the payload of its schema speaks of one subject. -/
theorem speaksOfOne_of_payload {schema : Schema} (hpayload : schema.payload config category data = .ok payload)
    (hissuer : t.issuer = config.issuerFor (data.publishTenantDomain category))
    (hsubject : t.subject = data.userId.map SubjectId.opaqueId) :
    t.SpeaksOfOne config category data payload.json schema := by
  cases schema with
  | wso2 =>
    obtain ⟨document, hdocument, rfl⟩ := Wso2.exists_of_encode hpayload
    exact (Wso2.describes_document hdocument).namesUser document.member?_user hissuer hsubject
  | caep =>
    obtain ⟨id, hid⟩ := Caep.exists_userId hpayload
    rw [hid] at hsubject
    exact ⟨_, hsubject⟩
  | risc =>
    obtain ⟨id, hid, rfl⟩ := Risc.exists_of_encode hpayload
    rw [hid] at hsubject
    exact ⟨_, hsubject, Json.member?_ofFields (by simp) _⟩

end SpeaksOfOne

namespace Dispatcher

variable {σ : Type} {d : Dispatcher σ} {event : Event} {category : Category}

/-- What is published of an event is the token of some schema, with one payload, and it speaks of one subject. -/
def PublishesOfOne (d : Dispatcher σ) (event : Event) (category : Category) (v : Published) : Prop :=
  ∃ data schema payload, EventData.ofEvent event = .ok data
    ∧ Schema.ofProfileName? v.context.profileName = some schema ∧ v.token.payload? = some payload
    ∧ v.token.SpeaksOfOne d.config category data payload.json schema

theorem AnnouncesEvent.publishesOfOne (hencoders : d.encoders = .standard d.config) {v : Published}
    (h : d.AnnouncesEvent event category v) : d.PublishesOfOne event category v := by
  obtain ⟨data, p, hdata, hannounces⟩ := h
  obtain ⟨schema, payload, uri, hschema, hpayload, hissuer, hsubject, hevents⟩ :=
    hannounces.exists_payload_eq hencoders
  refine ⟨data, schema, payload, hdata, hschema, ?_, speaksOfOne_of_payload hpayload hissuer hsubject⟩
  rw [Token.payload?, hevents]
  rfl

/-- With standard encoders that have the configuration of the dispatcher, every token that is recorded in a dispatch
speaks of one subject, also if several profiles are served at a time and others act on the services, as long as they
leave the record alone. -/
theorem recorded_speaks_of_one (hencoders : d.encoders = .standard d.config) {record : σ → List Published}
    {noted : Except Panic (Except PublishError Unit) → Bool} (hb : d.Books record noted)
    (hlist : d.provider.list.Keeps record) (event : Event) (category : Category) (s : Scene (Issuing σ)) :
    (∃ new, record ((d.dispatch event category).after s).state.services = record s.state.services ++ new
      ∧ ∀ v ∈ new, d.PublishesOfOne event category v)
    ∧ ∀ moves, (∀ act, .disturb act ∈ moves → act.Keeps record) →
      ∃ new, record ((d.fanOut event category moves).after s).state.services = record s.state.services ++ new
        ∧ ∀ v ∈ new, d.PublishesOfOne event category v :=
  recorded_of_announces hb hlist (fun _ hv => hv.publishesOfOne hencoders) s

/-- A dispatcher with the standard catalog and the standard encoders. -/
def standardRehearsal : Dispatcher Stage :=
  { Rehearsal.dispatcher 2 with
    catalog := Vocabulary.standardCatalog
    encoders := .standard { profileConcurrency := 2 } }

/-- An account of a known user is locked. -/
def lockedAccount : Event :=
  ⟨EventName.postLockAccount,
    ⟨[(ParameterName.tenantDomain, .string "example.com"), (ParameterName.userId, .string "1f3a")], by decide⟩,
    none⟩

/-- The scene in which all schemas have a profile. -/
def standardScene : Scene (Issuing Stage) where
  state := ⟨Rehearsal.scene.state.stamper, { profiles := Vocabulary.standardProfiles }⟩

theorem books_standardRehearsal : standardRehearsal.Books Stage.recorded isTaken :=
  (Rehearsal.books 2).of_standard _ _

/-- Two schemas have something to say of the locked account. -/
theorem length_recorded_lockedAccount :
    (Stage.recorded ((standardRehearsal.dispatch lockedAccount .userLocked).after
      standardScene).state.services).length = 2 := by
  decide +kernel

theorem rehearsed_speaks_of_one :
    ∃ new, Stage.recorded ((standardRehearsal.dispatch lockedAccount .userLocked).after
        standardScene).state.services = new
      ∧ new.length = 2 ∧ ∀ v ∈ new, standardRehearsal.PublishesOfOne lockedAccount .userLocked v := by
  obtain ⟨⟨new, hnew, hall⟩, _⟩ :=
    recorded_speaks_of_one (d := standardRehearsal) rfl books_standardRehearsal
      (Provider.keeps_memory Rehearsal.aside) lockedAccount .userLocked standardScene
  have hlength := length_recorded_lockedAccount
  rw [hnew] at hlength
  exact ⟨new, hnew, hlength, hall⟩

end Dispatcher

end SecurityEvents
