import SecurityEvents.Proofs.Identifiers
import SecurityEvents.Proofs.Payload.Subject
set_option autoImplicit false

/-!
# Identifiers in tokens

A standard token takes the id of its subject and the name of its tenant from the event as they are, so it shows a blank
one exactly if the event has one: `Dispatcher.blank_identifiers_traced`. Payloads that are about the subject are made
only if there is a user id, be it blank or not.
-/

namespace SecurityEvents

/-! ## Tenants -/

namespace Wso2

theorem Document.member?_tenant (document : Document) :
    document.json.member? "tenant" = some document.tenant.json :=
  Json.member?_ofFields (by simp) _

theorem Organization.member?_name (o : Organization) : o.json.member? "name" = some (.string o.name) :=
  Json.member?_ofFields (by simp) _

/-- The document has the tenant and the user store of what documents have in common. -/
structure Completes (common document : Document) : Prop where
  tenant_eq : document.tenant = common.tenant
  userStore_eq : document.userStore = common.userStore

variable {config : Configuration} {category : Category} {data : EventData} {document : Document}

theorem exists_base_of_bind {next : Document → Except EncodeError Document}
    (hnext : ∀ common whole, next common = .ok whole → Completes common whole)
    (h : base category data >>= next = .ok document) :
    ∃ common, base category data = .ok common ∧ Completes common document := by
  obtain ⟨common, hbase, h⟩ := exists_of_bind_eq_ok h
  exact ⟨common, hbase, hnext common document h⟩

/-- What a category adds does not touch what documents have in common. -/
theorem exists_base_of_document (h : Wso2.document config category data = .ok document) :
    ∃ common, base category data = .ok common ∧ Completes common document := by
  cases category with
  | loginFailure =>
    refine exists_base_of_bind (fun _ _ h => ?_) h
    cases h
    exact ⟨rfl, rfl⟩
  | credentialUpdate | loginSuccess | tokenRevoke | userDeleted | registrationFailure | userLocked | userUnlocked
  | userEnabled | userDisabled =>
    refine exists_base_of_bind (fun _ _ h => ?_) h
    obtain ⟨_, _, h⟩ := exists_of_bind_eq_ok h
    cases h
    exact ⟨rfl, rfl⟩
  | userCreated | registrationSuccess =>
    refine exists_base_of_bind (fun _ _ h => ?_) h
    obtain ⟨_, _, h⟩ := exists_of_bind_eq_ok h
    obtain ⟨_, _, h⟩ := exists_of_bind_eq_ok h
    cases h
    exact ⟨rfl, rfl⟩
  | userGroupUpdated =>
    refine exists_base_of_bind (fun _ _ h => ?_) h
    obtain ⟨_, _, h⟩ := exists_of_bind_eq_ok h
    obtain ⟨_, _, h⟩ := exists_of_bind_eq_ok h
    obtain ⟨_, _, h⟩ := exists_of_bind_eq_ok h
    cases h
    exact ⟨rfl, rfl⟩
  | userProfileUpdated =>
    refine exists_base_of_bind (fun _ _ h => ?_) h
    obtain ⟨_, _, h⟩ := exists_of_bind_eq_ok h
    obtain ⟨_, _, h⟩ := exists_of_bind_eq_ok h
    obtain ⟨_, _, h⟩ := exists_of_bind_eq_ok h
    obtain ⟨_, _, h⟩ := exists_of_bind_eq_ok h
    cases h
    exact ⟨rfl, rfl⟩

/-- Every document names the tenant that the announcement belongs to. -/
theorem tenant_of_document (h : Wso2.document config category data = .ok document) :
    data.publishTenantDomain category = some document.tenant.name := by
  obtain ⟨common, hbase, hcompletes⟩ := exists_base_of_document h
  obtain ⟨name, hname, hbase⟩ := exists_of_bind_eq_ok hbase
  cases hbase
  rw [hcompletes.tenant_eq]
  exact required_eq_ok hname

end Wso2

/-! ## Tokens -/

/-- The token shows the identifiers of the data as they are: `said` is its payload in the schema. -/
structure Token.ShowsIdentifiers (category : Category) (data : EventData) (t : Token) (said : Json)
    (schema : Schema) : Prop where
  subject_id : t.subject.map (·.id) = data.userId
  /-- Only the payloads of one schema can do without a user. -/
  user_known : schema ≠ .wso2 → ∃ id, data.userId = some id
  tenant_name : schema = .wso2 → ∃ tenant name, said.member? "tenant" = some tenant
    ∧ tenant.member? "name" = some (.string name) ∧ data.publishTenantDomain category = some name

theorem showsIdentifiers_of_payload {config : Configuration} {schema : Schema} {category : Category}
    {data : EventData} {payload : Payload} {t : Token} (hpayload : schema.payload config category data = .ok payload)
    (hsubject : t.subject = data.userId.map SubjectId.opaqueId) :
    t.ShowsIdentifiers category data payload.json schema := by
  refine ⟨?_, fun hschema => ?_, ?_⟩
  · rw [hsubject, Option.map_map]
    exact congrFun Option.map_id data.userId
  · cases schema with
    | wso2 => exact (hschema rfl).elim
    | caep => exact Caep.exists_userId hpayload
    | risc => exact (Risc.exists_of_encode hpayload).imp fun _ h => h.1
  · rintro rfl
    obtain ⟨document, hdocument, rfl⟩ := Wso2.exists_of_encode hpayload
    exact ⟨_, _, document.member?_tenant, document.tenant.member?_name, Wso2.tenant_of_document hdocument⟩

namespace Dispatcher

/-- What is published shows the identifiers of the data. -/
def Publishes (data : EventData) (category : Category) (v : Published) : Prop :=
  ∃ schema payload, Schema.ofProfileName? v.context.profileName = some schema ∧ v.token.payload? = some payload
    ∧ v.token.ShowsIdentifiers category data payload.json schema

theorem AnnouncesEvent.publishes {σ : Type} {d : Dispatcher σ} (hencoders : d.encoders = .standard d.config)
    {event : Event} {data : EventData} (hdata : EventData.ofEvent event = .ok data) {category : Category}
    {v : Published} (h : d.AnnouncesEvent event category v) : Publishes data category v := by
  obtain ⟨_, p, hsame, hannounces⟩ := h
  cases hsame.symm.trans hdata
  obtain ⟨schema, payload, uri, hschema, hpayload, -, hsubject, hevents⟩ := hannounces.exists_payload_eq hencoders
  refine ⟨schema, payload, hschema, ?_, showsIdentifiers_of_payload hpayload hsubject⟩
  rw [Token.payload?, hevents]
  rfl

/-- Blank identifiers come from the authentication context or from one side of a qualified name, and from nowhere else.
With standard encoders every token that is recorded in a dispatch shows the identifiers of its event as they are, also
if several profiles are served at a time and others act on the services, as long as they leave the record alone. -/
theorem blank_identifiers_traced {event : Event} {data : EventData} (h : EventData.ofEvent event = .ok data) :
    data.BlanksTraced event
    ∧ ∀ {σ : Type} (d : Dispatcher σ) (record : σ → List Published)
        (noted : Except Panic (Except PublishError Unit) → Bool), d.encoders = .standard d.config →
        d.Books record noted → d.provider.list.Keeps record → ∀ category s,
          (∃ new, record ((d.dispatch event category).after s).state.services = record s.state.services ++ new
            ∧ ∀ v ∈ new, Publishes data category v)
          ∧ ∀ moves, (∀ act, .disturb act ∈ moves → act.Keeps record) →
            ∃ new, record ((d.fanOut event category moves).after s).state.services
                = record s.state.services ++ new
              ∧ ∀ v ∈ new, Publishes data category v := by
  refine ⟨EventData.blanksTraced_of_extracted (EventData.ofEvent_eq_ok_iff.1 h), ?_⟩
  intro σ d record noted hencoders hb hlist category s
  exact recorded_of_announces hb hlist (fun _ hv => hv.publishes hencoders h) s

/-- The session of a user ends whom the context calls by a blank. -/
def unseenUser : Event :=
  ⟨EventName.sessionTerminate,
    ⟨[(ParameterName.tenantDomain, .string "example.com"),
      (ParameterName.context, .object [("authenticatedUser", .object [("userId", .string " ")])])], by decide⟩,
    none⟩

/-- The data of the event. -/
def unseenUserData : EventData where
  eventName := EventName.sessionTerminate
  tenantDomain := some "example.com"
  tenantId := none
  userId := some " "
  userName := none
  userStoreDomain := none
  correlationId := none
  authentication := some { authenticatedUser := some { userId := some " " } }
  flow := none
  parameters := unseenUser.parameters

theorem ofEvent_unseenUser : EventData.ofEvent unseenUser = .ok unseenUserData := by
  decide +kernel

/-- Two schemas have something to say of the session. -/
theorem subjects_unseenUser :
    (Stage.recorded ((standardRehearsal.dispatch unseenUser .tokenRevoke).after standardScene).state.services).map
        (fun v => (v.context.profileName, v.token.subject))
      = [("WSO2", some ⟨"opaque", " "⟩), ("CAEP", some ⟨"opaque", " "⟩)] := by
  decide +kernel

/-- The blank is extracted as the id of the user, and a token about that user is published to a profile that asks for
one. -/
theorem unseen_user_is_published :
    ∃ data, EventData.ofEvent unseenUser = .ok data ∧ IsBlank data.userId
      ∧ ∃ v ∈ Stage.recorded ((standardRehearsal.dispatch unseenUser .tokenRevoke).after
          standardScene).state.services,
        v.context.profileName = "CAEP" ∧ v.token.subject = some ⟨"opaque", " "⟩ := by
  refine ⟨unseenUserData, ofEvent_unseenUser, ⟨" ", rfl, Text.isBlankText_eq_true_iff.1 (by decide)⟩, ?_⟩
  have hmem : ("CAEP", some ⟨"opaque", " "⟩) ∈ (Stage.recorded ((standardRehearsal.dispatch unseenUser
      .tokenRevoke).after standardScene).state.services).map
        fun v => (v.context.profileName, v.token.subject) := by
    rw [subjects_unseenUser]
    exact List.mem_cons_of_mem _ List.mem_cons_self
  obtain ⟨v, hv, heq⟩ := List.mem_map.1 hmem
  exact ⟨v, hv, congrArg Prod.fst heq, congrArg Prod.snd heq⟩

theorem rehearsed_blank_identifiers_traced :
    unseenUserData.BlanksTraced unseenUser
    ∧ ∃ new, Stage.recorded ((standardRehearsal.dispatch unseenUser .tokenRevoke).after
        standardScene).state.services = new
      ∧ new.length = 2 ∧ ∀ v ∈ new, Publishes unseenUserData .tokenRevoke v := by
  obtain ⟨htraced, hpublishes⟩ := blank_identifiers_traced ofEvent_unseenUser
  obtain ⟨⟨new, hnew, hall⟩, _⟩ := hpublishes standardRehearsal Stage.recorded isTaken rfl books_standardRehearsal
    (Provider.keeps_memory Rehearsal.aside) .tokenRevoke standardScene
  have hlength := congrArg List.length subjects_unseenUser
  rw [List.length_map, hnew] at hlength
  exact ⟨htraced, new, hnew, hlength, hall⟩

end Dispatcher

end SecurityEvents
