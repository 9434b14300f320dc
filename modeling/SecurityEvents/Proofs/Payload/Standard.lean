import SecurityEvents.Proofs.Condition
import SecurityEvents.Proofs.Dispatch.Announcing
set_option autoImplicit false

/-!
# Payloads of the standard encoders

The standard encoders answer from what they are asked and touch no service. What they announce to a profile is the
payload of its schema (`Schema.payload`).
-/

namespace SecurityEvents

theorem Wso2.exists_of_encode {config : Configuration} {category : Category} {data : EventData}
    {payload : Payload} (h : Wso2.encode config category data = .ok payload) :
    ∃ document, Wso2.document config category data = .ok document ∧ payload = document.payload := by
  change (Wso2.document config category data).map Document.payload = .ok payload at h
  cases hdocument : Wso2.document config category data with
  | error cause =>
    rw [hdocument] at h
    cases h
  | ok document =>
    rw [hdocument] at h
    cases h
    exact ⟨document, rfl, rfl⟩

theorem Risc.exists_of_encode {category : Category} {data : EventData} {payload : Payload}
    (h : Risc.encode category data = .ok payload) :
    ∃ id, data.userId = some id ∧ payload = Risc.accountEvent category id := by
  unfold Risc.encode at h
  split at h
  · cases hid : data.userId with
    | none =>
      rw [hid] at h
      cases h
    | some id =>
      rw [hid] at h
      cases h
      exact ⟨id, rfl, rfl⟩
  · cases h

/-- The payload that the standard encoder of a schema makes. -/
def Schema.payload (config : Configuration) : Schema → Category → EventData → Except EncodeError Payload
  | .wso2 => Wso2.encode config
  | .caep => Caep.encode
  | .risc => Risc.encode

theorem Encoder.standard_encode {σ : Type} (config : Configuration) (schema : Schema) (category : Category)
    (data : EventData) :
    (Encoder.standard config schema : Encoder σ).encode category data
      = pure (schema.payload config category data) := by
  cases schema <;> rfl

theorem Schema.payload_eq_of_encode {σ : Type} {config : Configuration} {schema : Schema} {category : Category}
    {data : EventData} {payload : Payload} {s s' : Scene σ}
    (h : (Encoder.standard config schema : Encoder σ).encode category data s = .ok (.ok payload) s') :
    schema.payload config category data = .ok payload := by
  rw [Encoder.standard_encode] at h
  exact (EStateM.Result.ok.inj h).1

theorem EncoderRegistry.find?_standard {σ : Type} (config : Configuration) (schema : Schema)
    (category : Category) :
    (EncoderRegistry.standard config : EncoderRegistry σ).find? schema category
      = if (Encoder.standard config schema : Encoder σ).supports category = true then
          some (Encoder.standard config schema)
        else none := by
  simp only [EncoderRegistry.standard, EncoderRegistry.ofList, Schema.all, List.map_cons, List.map_nil,
    List.foldl_cons, List.foldl_nil, EncoderRegistry.find?_register]
  cases schema <;> simp [Encoder.standard, Encoder.wso2, Encoder.caep, Encoder.risc] <;> rfl

/-- What holds of any answer that is given at once holds of the standard encoders. -/
theorem EncoderRegistry.of_find?_standard {σ : Type} {config : Configuration} {schema : Schema}
    {category : Category} {encoder : Encoder σ} {property : Act σ (Except EncodeError Payload) → Prop}
    (hpure : ∀ answer, property (pure answer))
    (h : (EncoderRegistry.standard config).find? schema category = some encoder) (data : EventData) :
    property (encoder.encode category data) := by
  rw [EncoderRegistry.find?_standard] at h
  split at h
  · cases h
    rw [Encoder.standard_encode]
    exact hpure _
  · cases h

namespace Dispatcher

variable {σ : Type} {d : Dispatcher σ} {o : Occurrence} {p : Profile}

/-- Whoever takes the standard encoders books as before. -/
theorem Books.of_standard {record : σ → List Published}
    {noted : Except Panic (Except PublishError Unit) → Bool} (hb : d.Books record noted) (catalog : Catalog)
    (config : Configuration) :
    { d with catalog, encoders := .standard config }.Books record noted where
  gate := hb.gate
  encoder _ _ _ hfind := EncoderRegistry.of_find?_standard (Act.keeps_pure record) hfind
  publisher := hb.publisher

theorem Encodes.payload_eq (hencoders : d.encoders = .standard d.config) {schema : Schema}
    {payload : Payload} (h : d.Encodes o schema payload) :
    schema.payload d.config o.category o.data = .ok payload := by
  obtain ⟨encoder, s, s', hfind, hencode⟩ := h
  rw [hencoders, EncoderRegistry.find?_standard] at hfind
  split at hfind
  · cases hfind
    exact Schema.payload_eq_of_encode hencode
  · cases hfind

/-- With standard encoders, what is announced to a profile is the payload of its schema, and all else is what the
event says. -/
theorem Announces.exists_payload_eq (hencoders : d.encoders = .standard d.config) {v : Published}
    (h : d.Announces o p v) :
    ∃ schema payload uri, Schema.ofProfileName? v.context.profileName = some schema
      ∧ schema.payload d.config o.category o.data = .ok payload
      ∧ v.token.issuer = d.config.issuerFor (o.data.publishTenantDomain o.category)
      ∧ v.token.subject = o.data.userId.map SubjectId.opaqueId
      ∧ v.token.events = .single uri payload := by
  obtain ⟨route, payload, stamp, hrouting, hencodes, rfl⟩ := h
  exact ⟨route.schema, payload, route.eventUri, hrouting.schema_eq, hencodes.payload_eq hencoders, rfl, rfl, rfl⟩

end Dispatcher

end SecurityEvents
