import SecurityEvents.Proofs.Payload.Standard
set_option autoImplicit false

/-!
# What the flow changes in a payload

The flow of an event decorates its payload. A payload of the WSO2 schema says who initiated the event and what the flow
does to the user, one of the Continuous Access Evaluation Profile who initiated it; nothing else in a payload depends on
the flow (`Schema.alike_payload`). A flow or persona that is not known only leaves the decoration out, so an encoder
fails in any flow with what it fails with in none.
-/

namespace SecurityEvents

/-- The value without the members of these names. -/
def Json.without (names : List String) : Json → Json
  | .object members => .object (members.filter fun m => !names.contains m.1)
  | v => v

/-- The data of the same event in another flow, or in none. -/
def EventData.inFlow (data : EventData) (flow : Option Flow) : EventData :=
  { data with flow }

/-- The members of a payload that depend on the flow. -/
def Schema.flowMembers : Schema → Category → List String
  | .wso2, .loginSuccess | .wso2, .loginFailure | .wso2, .userLocked | .wso2, .userUnlocked => []
  | .wso2, _ => ["initiatorType", "action"]
  | .caep, .tokenRevoke | .caep, .credentialUpdate => ["initiating_entity"]
  | .caep, _ => []
  | .risc, _ => []

/-- Two payloads for events of a category are the same but for what the flow has to do with. -/
def Schema.SamePayload (schema : Schema) (category : Category) (payload other : Payload) : Prop :=
  payload.json.without (schema.flowMembers category) = other.json.without (schema.flowMembers category)

namespace EventData

theorem ofParameters_capturedIn (e : Event) (flow : Option Flow) :
    ofParameters (e.capturedIn flow) = (·.inFlow flow) <$> ofParameters e := by
  rw [ofParameters, ofParameters]
  simp only [map_bind]
  rfl

/-- The flow does not matter for what can be extracted, or for what is found wrong. -/
theorem ofEvent_capturedIn (e : Event) (flow : Option Flow) :
    ofEvent (e.capturedIn flow) = (ofEvent e).map (·.inFlow flow) := by
  rw [ofEvent, ofEvent, ofParameters_capturedIn]
  cases ofParameters e <;> rfl

end EventData

/-! ## Values without some members -/

namespace Json

@[simp] theorem without_nil (v : Json) : v.without [] = v := by
  cases v with
  | object members => exact congrArg Json.object (List.filter_eq_self.2 fun _ _ => rfl)
  | null | bool | number | string | array => rfl

theorem without_ofFields (names : List String) (fields : List (String × Option Json)) :
    (ofFields fields).without names = ofFields (fields.filter fun f => !names.contains f.1) := by
  refine congrArg Json.object ?_
  rw [List.filter_filterMap, List.filterMap_filter]
  congr 1
  funext ⟨name, v⟩
  cases v with
  | none => exact (ite_self _).symm
  | some v => rfl

end Json

/-! ## The WSO2 schema -/

namespace Wso2

/-- The document without what the flow has to do with. -/
def Document.undecorated (d : Document) : Document :=
  { d with initiatorType := none, action := none }

theorem Document.json_undecorated (d : Document) :
    d.undecorated.json = d.json.without ["initiatorType", "action"] := by
  rw [json, json, Json.without_ofFields]
  rfl

/-- The flow of an event decorates the document and does nothing else. -/
theorem document_inFlow (config : Configuration) (category : Category) (data : EventData) (flow : Option Flow) :
    Document.undecorated <$> document config category (data.inFlow flow)
      = Document.undecorated <$> document config category data := by
  -- Each document is made in steps that do not ask for the flow, and the last step decorates it.
  cases category <;>
    simp only [document, credentialUpdate, loginSuccess, loginFailure, tokenRevoke, userCreated, userDeleted,
      userAccount, userProfileUpdated, userGroupUpdated, registrationFailure, map_bind, map_pure] <;>
    rfl

theorem document_inFlow_of_plain (config : Configuration) {category : Category} (data : EventData)
    (flow : Option Flow) (h : Schema.wso2.flowMembers category = []) :
    document config category (data.inFlow flow) = document config category data := by
  cases category with
  | loginSuccess | loginFailure | userLocked | userUnlocked => rfl
  | _ => cases h

end Wso2

/-! ## The Continuous Access Evaluation Profile -/

namespace Caep

theorem without_sessionRevoked (data : EventData) :
    (sessionRevoked data).json.without ["initiating_entity"] = Json.ofFields [] :=
  Json.without_ofFields ..

theorem without_credentialChange (data : EventData) :
    (credentialChange data).json.without ["initiating_entity"]
      = Json.ofFields [("credential_type", some (.string "password")), ("change_type", some (.string "update"))] :=
  Json.without_ofFields ..

theorem encode_inFlow (category : Category) (data : EventData) (flow : Option Flow) :
    (fun p : Payload => p.json.without (Schema.caep.flowMembers category)) <$> encode category (data.inFlow flow)
      = (fun p : Payload => p.json.without (Schema.caep.flowMembers category)) <$> encode category data := by
  have huser : (data.inFlow flow).userId = data.userId := rfl
  unfold encode
  rw [huser]
  by_cases hunknown : data.userId.isNone = true
  · rw [if_pos hunknown, if_pos hunknown]
  · rw [if_neg hunknown, if_neg hunknown]
    cases category with
    | tokenRevoke => exact congrArg Except.ok ((without_sessionRevoked _).trans (without_sessionRevoked _).symm)
    | credentialUpdate =>
      exact congrArg Except.ok ((without_credentialChange _).trans (without_credentialChange _).symm)
    | _ => rfl

end Caep

/-! ## All schemas -/

namespace Schema

/-- What is announced of a login or of a lock does not depend on the flow. -/
theorem flowMembers_eq_nil (schema : Schema) {category : Category}
    (h : category ∈ [.loginSuccess, .loginFailure, .userLocked, .userUnlocked]) :
    schema.flowMembers category = [] := by
  simp only [List.mem_cons, List.not_mem_nil, or_false] at h
  rcases h with rfl | rfl | rfl | rfl <;> cases schema <;> rfl

/-- The flow of an event has to do with a few members of the payload and with nothing else. -/
theorem payload_inFlow (config : Configuration) (schema : Schema) (category : Category) (data : EventData)
    (flow : Option Flow) :
    (fun p : Payload => p.json.without (schema.flowMembers category))
        <$> schema.payload config category (data.inFlow flow)
      = (fun p : Payload => p.json.without (schema.flowMembers category))
        <$> schema.payload config category data := by
  cases schema with
  | caep => exact Caep.encode_inFlow category data flow
  | risc => rfl
  | wso2 =>
    by_cases hplain : Schema.wso2.flowMembers category = []
    · have hdocument := Wso2.document_inFlow_of_plain config data flow hplain
      rw [payload, Wso2.encode, Wso2.encode, hdocument]
    · have hmembers : Schema.wso2.flowMembers category = ["initiatorType", "action"] := by
        cases category with
        | loginSuccess | loginFailure | userLocked | userUnlocked => exact (hplain rfl).elim
        | _ => rfl
      have hundecorated (x : Except EncodeError Wso2.Document) :
          (fun p : Payload => p.json.without ["initiatorType", "action"]) <$> x.map Wso2.Document.payload
            = Wso2.Document.json <$> (Wso2.Document.undecorated <$> x) := by
        cases x with
        | error cause => rfl
        | ok document => exact congrArg Except.ok document.json_undecorated.symm
      rw [hmembers, payload, Wso2.encode, Wso2.encode, hundecorated, hundecorated, Wso2.document_inFlow]

/-- In another flow an encoder fails with the same cause, or makes the same payload but for its decoration. -/
theorem alike_payload (config : Configuration) (schema : Schema) (category : Category) (data : EventData)
    (flow : Option Flow) :
    Alike (schema.SamePayload category) (schema.payload config category (data.inFlow flow))
      (schema.payload config category data) :=
  alike_of_map_eq_map (schema.payload_inFlow config category data flow)

end Schema

end SecurityEvents
