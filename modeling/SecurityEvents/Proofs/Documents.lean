import SecurityEvents.Event
import SecurityEvents.Profile
import SecurityEvents.Proofs.Json.Faithful
import SecurityEvents.Proofs.Token.RoundTrip
set_option autoImplicit false

/-!
# Documents survive being written and read

Profiles, payloads of the WSO2 schema and events are read back from their texts, events as far as the text of an event
leaves room for the parameters. What was read from any text, in whichever of its forms, leaves that room, so it is
settled: it is read back from its own text and written as the same text again. `documents_survive` says both.
-/

namespace SecurityEvents

open Json

/-! ## Payloads of the WSO2 schema -/

theorem Json.Number.toUInt32?_ofUInt32 (n : UInt32) : Number.toUInt32? (.ofUInt32 n) = some n := by
  have hsmall : n.toNat < 0x100000000 := n.toNat_lt
  have hsize : n.toNat < UInt64.size := Nat.lt_trans hsmall (by decide)
  rw [Number.ofUInt32, Number.toUInt32?, UInt64.toNat_ofNat_of_lt' hsize, if_pos hsmall, UInt32.ofNat_toNat]

namespace Wso2

theorem Organization.faithful : Faithful reading json :=
  .record (fun _ => by simp) (fun _ => by simp [Knows, layout, Field.answersTo]) fun o fs h => by
    rw [h.optional faithful_text string_ne_null rfl, h.required faithful_text rfl]
    rfl

theorem UserStore.faithful : Faithful reading json :=
  .record (fun _ => by simp) (fun _ => by simp [Knows, layout, Field.answersTo]) fun s fs h => by
    rw [h.required faithful_text rfl, h.required faithful_text rfl]
    rfl

theorem UserClaim.faithful : Faithful reading json :=
  .record (fun _ => by simp) (fun _ => by simp [Knows, layout, Field.answersTo]) fun c fs h => by
    rw [h.required faithful_text rfl, h.required faithful_text rfl]
    rfl

theorem User.faithful : Faithful reading json :=
  .record (fun _ => by simp) (fun _ => by simp [Knows, layout, Field.answersTo]) fun u fs h => by
    rw [h.optional faithful_text string_ne_null rfl, h.optional faithful_text string_ne_null rfl,
      h.list UserClaim.faithful rfl, h.list UserClaim.faithful rfl, h.list UserClaim.faithful rfl,
      h.list UserClaim.faithful rfl]
    rfl

theorem Group.faithful : Faithful reading json :=
  .record (fun _ => by simp) (fun _ => by simp [Knows, layout, Field.answersTo]) fun g fs h => by
    rw [h.optional faithful_text string_ne_null rfl, h.required faithful_text rfl, h.list User.faithful rfl,
      h.list User.faithful rfl]
    rfl

theorem Application.faithful : Faithful reading json :=
  .record (fun _ => by simp) (fun _ => by simp [Knows, layout, Field.answersTo]) fun a fs h => by
    rw [h.optional faithful_text string_ne_null rfl, h.optional faithful_text string_ne_null rfl]
    rfl

theorem FailedStep.faithful : Faithful reading json :=
  .record (fun _ => by simp) (fun _ => by simp [Knows, layout, Field.answersTo]) fun s fs h => by
    rw [h.optional (faithful_number Number.toUInt32?_ofUInt32) (fun _ => number_ne_null _) rfl,
      h.optional faithful_text string_ne_null rfl, h.optional faithful_text string_ne_null rfl]
    rfl

theorem Reason.faithful : Faithful reading json :=
  .record (fun _ => by simp) (fun _ => by simp [Knows, layout, Field.answersTo]) fun r fs h => by
    rw [h.required faithful_text rfl, h.optional faithful_text string_ne_null rfl,
      h.optional FailedStep.faithful (fun _ => ofFields_ne_null _) rfl]
    rfl

theorem Document.faithful : Faithful reading json :=
  .record (fun _ => by simp) (fun _ => by simp [Knows, layout, Field.answersTo]) fun d fs h => by
    rw [h.optional faithful_text string_ne_null rfl, h.optional faithful_text string_ne_null rfl,
      h.required Organization.faithful rfl, h.optional UserStore.faithful (fun _ => ofFields_ne_null _) rfl,
      h.optional User.faithful (fun _ => ofFields_ne_null _) rfl, h.optional Group.faithful (fun _ => ofFields_ne_null _) rfl,
      h.optional Application.faithful (fun _ => ofFields_ne_null _) rfl, h.list faithful_text rfl,
      h.optional faithful_text string_ne_null rfl, h.optional Reason.faithful (fun _ => ofFields_ne_null _) rfl]
    rfl

end Wso2

/-! ## Profiles

All fields of a profile are written, so its document is an object with all of them.
-/

theorem ChannelEvent.faithful : Faithful reading json := by
  change Faithful reading fun e => ofFields [("eventKey", some (.string e.key)), ("eventUri", some (.string e.uri))]
  refine .record (fun _ => by simp) (fun _ => by simp [Knows, layout, Field.answersTo]) fun e fs h => ?_
  rw [h.required faithful_text rfl, h.required faithful_text rfl]
  rfl

theorem Channel.faithful : Faithful reading json := by
  change Faithful reading fun c => ofFields [("name", some (.string c.name)), ("uri", some (.string c.uri)),
    ("events", some (.array (c.events.map ChannelEvent.json)))]
  refine .record (fun _ => by simp) (fun _ => by simp [Knows, layout, Field.answersTo]) fun c fs h => ?_
  rw [h.defaulted faithful_text rfl, h.required faithful_text rfl, h.defaulted ChannelEvent.faithful.list rfl]
  rfl

theorem Profile.faithful : Faithful reading json := by
  change Faithful reading fun p => ofFields [("name", some (.string p.name)), ("version", some (.string p.version)),
    ("channels", some (.array (p.channels.map Channel.json)))]
  refine .record (fun _ => by simp) (fun _ => by simp [Knows, layout, Field.answersTo]) fun p fs h => ?_
  rw [h.required faithful_text rfl, h.required faithful_text rfl, h.defaulted Channel.faithful.list rfl]
  rfl

theorem ChannelEvent.plain_json (e : ChannelEvent) : Plain 1 e.json :=
  plain_object (by simp [plain_string])

theorem Channel.plain_json (c : Channel) : Plain 3 c.json :=
  plain_object (by
    simp only [List.forall_mem_cons]
    exact ⟨plain_string _, plain_string _, plain_array (List.forall_mem_map.2 fun e _ => e.plain_json), by simp⟩)

theorem Profile.plain_json (p : Profile) : Plain 5 p.json :=
  plain_object (by
    simp only [List.forall_mem_cons]
    exact ⟨plain_string _, plain_string _, plain_array (List.forall_mem_map.2 fun c _ => c.plain_json), by simp⟩)

/-! ## Events -/

theorem Flow.faithful : Faithful reading json :=
  .record (fun _ => by simp) (fun _ => by simp [Knows, layout, Field.answersTo]) fun f fs h => by
    rw [h.required faithful_text rfl, h.optional faithful_text string_ne_null rfl]
    rfl

theorem Flow.plain_json (f : Flow) : Plain 1 f.json :=
  plain_ofFields (by
    simp only [List.forall_mem_cons]
    exact ⟨by simp [plain_string], fun _ => plain_of_mem_map plain_string, by simp⟩)

theorem Parameters.faithful : Faithful reading json := by
  intro ps budget hnesting
  have hkeyed : ps.json.isKeyed = true := by
    rw [json, isKeyed]
    exact ps.keyed
  have hread : Reading.keyed budget ps.json.tree = some ⟨ps.json, hkeyed⟩ :=
    Payload.keyed_json ⟨ps.json, hkeyed⟩ hnesting
  rw [reading, hread]
  rfl

theorem Event.faithful : Faithful reading json :=
  .record (fun _ => by simp) (fun _ => by simp [Knows, layout, Field.answersTo]) fun e fs h => by
    rw [h.required faithful_text rfl, h.defaulted Parameters.faithful rfl,
      h.optional Flow.faithful (fun _ => ofFields_ne_null _) rfl]
    rfl

/-- The text of every float in the parameters is read as that float. -/
def Event.FloatsReadBack (e : Event) : Prop :=
  ∀ x ∈ e.parameters.json.floats, Json.read? (Json.number (.float x)).text = some (.number (.float x))

theorem Event.legible_json {e : Event} (h : e.FloatsReadBack) : Legible e.json.floats := by
  have hname : Plain 0 (.string e.name) := plain_string _
  have hparameters : Legible e.parameters.json.floats := fun x hx => isSpelt_iff_read?_text.2 (h x hx)
  apply legible_ofFields
  simp only [List.forall_mem_cons, Option.mem_some_iff, forall_eq']
  exact ⟨hname.legible, hparameters, fun _ hv => (plain_of_mem_map Flow.plain_json hv).legible,
    fun _ hf => (List.not_mem_nil hf).elim⟩

/-- Nothing nests deeper in an event than its parameters, apart from the fields of a flow. -/
theorem Event.nesting_json_le {e : Event} {budget : Nat} (hroom : 2 ≤ budget)
    (h : e.parameters.json.nesting < budget) : e.json.nesting ≤ budget := by
  obtain ⟨rest, rfl⟩ : ∃ rest, budget = rest + 1 := ⟨budget - 1, by omega⟩
  have hflow : 1 ≤ rest := Nat.le_of_succ_le_succ hroom
  apply nesting_ofFields_le
  simp only [List.forall_mem_cons, Option.mem_some_iff, forall_eq']
  exact ⟨Nat.zero_le _, Nat.le_of_lt_succ h,
    fun _ hv => Nat.le_trans (plain_of_mem_map Flow.plain_json hv).nesting_le hflow,
    fun _ hf => (List.not_mem_nil hf).elim⟩

theorem Parameters.nesting_le_of_reading {budget : Nat} {t : Tree} {ps : Parameters} (h : reading budget t = some ps) :
    ps.json.nesting ≤ budget := by
  rw [reading] at h
  split at h
  · rename_i members hkeyed hread
    cases h
    exact Payload.nesting_le_of_keyed hread
  · cases h

/-- Parameters that are read leave one unit of the budget to the event. Where there are none, an empty object is put in
their place, so there has to be room for it. -/
theorem Event.nesting_lt_of_reading {budget : Nat} (hroom : 2 ≤ budget) {t : Tree} {e : Event}
    (h : reading budget t = some e) : e.parameters.json.nesting < budget := by
  obtain ⟨fs, hbudget, hbuild⟩ := exists_of_record_eq_some h
  obtain ⟨name, -, hbuild⟩ := Option.bind_eq_some_iff.1 hbuild
  obtain ⟨parameters, hparameters, hbuild⟩ := Option.bind_eq_some_iff.1 hbuild
  obtain ⟨flow, -, hbuild⟩ := Option.bind_eq_some_iff.1 hbuild
  cases hbuild
  rw [Fields.defaulted] at hparameters
  split at hparameters
  · cases hparameters
    exact hroom
  · rw [← hbudget]
    exact Nat.lt_succ_of_le (Parameters.nesting_le_of_reading hparameters)

/-! ## Texts -/

/-- The text of the thing is read as the thing, which is written as the same text again. -/
def Json.Settles {α : Type} (read : Reading α) (write : α → Json) (a : α) : Prop :=
  ∃ b, read.ofText (write a).text = some b ∧ b = a ∧ (write b).text = (write a).text

theorem Json.settles_of_ofText {α : Type} {read : Reading α} {write : α → Json} {a : α}
    (h : read.ofText (write a).text = some a) : Settles read write a :=
  ⟨a, h, rfl, rfl⟩

theorem Profile.ofText_text (p : Profile) : reading.ofText p.json.text = some p :=
  Profile.faithful.ofText_of_plain p.plain_json (by decide)

theorem Wso2.Document.ofText_text (d : Wso2.Document) : reading.ofText d.json.text = some d :=
  Wso2.Document.faithful.ofText_of_plain d.plain_json (by decide)

theorem Event.nesting_lt_of_ofPlaces {places : List (Option Char)} {e : Event} (h : reading.ofPlaces places = some e) :
    e.parameters.json.nesting < textBudget := by
  obtain ⟨t, -, hread⟩ := Option.bind_eq_some_iff.1 h
  exact nesting_lt_of_reading (by decide) hread

theorem Event.ofText_text_iff {e : Event} (h : e.FloatsReadBack) :
    reading.ofText e.json.text = some e ↔ e.parameters.json.nesting < textBudget :=
  ⟨nesting_lt_of_ofPlaces, fun hnesting =>
    Event.faithful.ofText (legible_json h) (nesting_json_le (by decide) hnesting)⟩

/-- Every profile and every payload of the WSO2 schema is what its text is read as. So is an event, provided that the
floats in it are, exactly if its parameters are not nested too deeply for the text. What was read from a text, however
that was written, is settled. -/
theorem documents_survive :
    (∀ p : Profile, Profile.reading.ofText p.json.text = some p)
    ∧ (∀ d : Wso2.Document, Wso2.Document.reading.ofText d.json.text = some d)
    ∧ (∀ e : Event, e.FloatsReadBack →
      (Event.reading.ofText e.json.text = some e ↔ e.parameters.json.nesting < textBudget))
    ∧ (∀ places p, Profile.reading.ofPlaces places = some p → Settles Profile.reading Profile.json p)
    ∧ (∀ places d, Wso2.Document.reading.ofPlaces places = some d →
      Settles Wso2.Document.reading Wso2.Document.json d)
    ∧ ∀ places e, Event.reading.ofPlaces places = some e →
      e.parameters.json.nesting < textBudget ∧ (e.FloatsReadBack → Settles Event.reading Event.json e) := by
  refine ⟨Profile.ofText_text, Wso2.Document.ofText_text, fun e => Event.ofText_text_iff,
    fun _ p _ => settles_of_ofText p.ofText_text, fun _ d _ => settles_of_ofText d.ofText_text, fun places e h => ?_⟩
  have hnesting := Event.nesting_lt_of_ofPlaces h
  exact ⟨hnesting, fun hfloats => settles_of_ofText ((Event.ofText_text_iff hfloats).2 hnesting)⟩

/-- A profile without events. -/
def silentProfile : Profile := ⟨"WSO2", "1", [⟨"in", "urn:in", []⟩]⟩

/-- A payload about nobody. -/
def idleDocument : Wso2.Document where
  tenant := ⟨none, "example.com"⟩
  user := some {}

/-- An event with a list among its parameters. -/
def listedEvent : Event :=
  ⟨"POST_ADD_USER", ⟨[("A", .number (.natural 2)), ("B", .array [.number (.float Token.oneHalf)])], by decide⟩, none⟩

/-- The profile has its other name for the name, a field that is not known, and a channel as an array that ends early. -/
theorem ofText_silentProfile :
    Profile.reading.ofText
        "\x7b\"profile\": \"WSO2\", \"more\": [1], \"version\": \"1\", \"channels\": [[\"in\", \"urn:in\"]]\x7d"
      = some silentProfile := by
  decide +kernel

/-- Optional fields are null or missing, and lists are missing. -/
theorem ofText_idleDocument :
    Wso2.Document.reading.ofText
        "\x7b\"tenant\": \x7b\"id\": null, \"name\": \"example.com\"\x7d, \"user\": \x7b\x7d, \"group\": null\x7d"
      = some idleDocument := by
  decide +kernel

/-- The event is an array that ends before the flow, and a parameter is there twice. -/
theorem ofText_listedEvent :
    Event.reading.ofText "[\"POST_ADD_USER\", \x7b\"A\": 1, \"B\": [0.5], \"A\": 2\x7d]" = some listedEvent := by
  decide +kernel

theorem floatsReadBack_listedEvent : listedEvent.FloatsReadBack :=
  fun x hx => Token.floatsReadBack_riskToken _ rfl x hx

theorem listed_documents_survive :
    Settles Profile.reading Profile.json silentProfile
    ∧ Settles Wso2.Document.reading Wso2.Document.json idleDocument
    ∧ Settles Event.reading Event.json listedEvent
    ∧ Event.reading.ofText listedEvent.json.text = some listedEvent :=
  ⟨documents_survive.2.2.2.1 _ _ ofText_silentProfile, documents_survive.2.2.2.2.1 _ _ ofText_idleDocument,
    (documents_survive.2.2.2.2.2 _ _ ofText_listedEvent).2 floatsReadBack_listedEvent,
    (documents_survive.2.2.1 _ floatsReadBack_listedEvent).2 (by decide)⟩

end SecurityEvents
