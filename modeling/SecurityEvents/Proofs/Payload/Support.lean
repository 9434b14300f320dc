import SecurityEvents.Proofs.Payload.Requirements
import SecurityEvents.Vocabulary.Standard
set_option autoImplicit false

/-!
# What the standard encoders support

The standard encoder of a schema supports the categories that the standard vocabulary of the schema covers, and it
does not refuse an event of such a category for its category. It may refuse the event for what it says, or does
not say.

An event of any other category is refused for its category, with one exception: where the user is asked for first and
is not known, that is what the event is refused for (`Schema.payload_of_unsupported`).
-/

namespace SecurityEvents

/-- The category is not what something was refused for. -/
def Supported {α : Type} (x : Except EncodeError α) : Prop :=
  ∀ category, x ≠ .error (.unsupportedCategory category)

/-- The encoder of a schema supports what the vocabulary of the schema covers. -/
theorem Encoder.supports_standard {σ : Type} (config : Configuration) (schema : Schema) (category : Category) :
    (Encoder.standard config schema : Encoder σ).supports category
      = (Vocabulary.standard schema).covers category := by
  cases schema <;> cases category <;> rfl

/-- An event of a category that the vocabulary of the schema covers is not refused for its category. -/
theorem Schema.supported_payload (config : Configuration) {schema : Schema} {category : Category}
    (data : EventData) (h : (Vocabulary.standard schema).covers category = true) :
    Supported (schema.payload config category data) := by
  intro asked herror
  have hsupports : (Encoder.standard config schema : Encoder Unit).supports category = true :=
    (Encoder.supports_standard config schema category).trans h
  cases (asked_of_unsupportedCategory herror).2.symm.trans hsupports

/-! ## Categories that are not supported -/

/-- The user is asked for before the category is looked at, and is not known. -/
def Schema.StopsAtUser (schema : Schema) (data : EventData) : Prop :=
  schema = .caep ∧ data.userId = none

instance (schema : Schema) (data : EventData) : Decidable (schema.StopsAtUser data) :=
  inferInstanceAs (Decidable (_ ∧ _))

open Condition

section Unsupported

variable {σ : Type} {config : Configuration} {schema : Schema} {category : Category}

/-- An event of a category that is not supported is refused for the category, unless the user is missed first. -/
theorem Schema.payload_of_unsupported
    (h : (Encoder.standard config schema : Encoder σ).supports category = false) (data : EventData) :
    schema.payload config category data = .error (if schema.StopsAtUser data then .missingField category "user id"
      else .unsupportedCategory category) := by
  refine ((schema.restsOn_payload config category data).eq_error_iff _).2 ?_
  cases schema with
  | wso2 => cases h
  | caep =>
    have hcategory : ¬ (supportedCondition Caep.categories category).Met :=
      fun hmem => Bool.eq_false_iff.1 h (List.contains_iff_mem.2 hmem)
    split
    · rename_i hstops
      have hunknown : ¬ (knownCondition category "user id" data.userId).Met :=
        fun ⟨_, hid⟩ => nomatch hstops.2.symm.trans hid
      exact firstTold_cons_iff.2 (.inl ⟨hunknown, rfl⟩)
    · rename_i hstops
      have hknown : (knownCondition category "user id" data.userId).Met :=
        Option.ne_none_iff_exists'.1 fun hid => hstops ⟨rfl, hid⟩
      exact firstTold_cons_iff.2 (.inr ⟨hknown, firstTold_cons_iff.2 (.inl ⟨hcategory, rfl⟩)⟩)
  | risc =>
    have hcategory : ¬ (supportedCondition Risc.categories category).Met :=
      fun hmem => Bool.eq_false_iff.1 h (List.contains_iff_mem.2 hmem)
    have hgoes : ¬ Schema.risc.StopsAtUser data := fun hstops => nomatch hstops.1
    rw [if_neg hgoes]
    exact firstTold_cons_iff.2 (.inl ⟨hcategory, rfl⟩)

theorem Schema.payload_eq_unsupportedCategory_iff {data : EventData} {asked : Category} :
    schema.payload config category data = .error (.unsupportedCategory asked)
      ↔ asked = category ∧ (Encoder.standard config schema : Encoder σ).supports category = false
        ∧ ¬ schema.StopsAtUser data := by
  constructor
  · intro herror
    obtain ⟨rfl, hsupports⟩ := asked_of_unsupportedCategory (σ := σ) herror
    refine ⟨rfl, hsupports, fun hstops => ?_⟩
    rw [payload_of_unsupported hsupports, if_pos hstops] at herror
    cases herror
  · rintro ⟨rfl, hsupports, hstops⟩
    rw [payload_of_unsupported hsupports, if_neg hstops]

/-- Two events of a category that is not supported are refused for the same, unless one of them is stopped at the
user and the other is not. -/
theorem Schema.payload_eq_of_unsupported_iff
    (h : (Encoder.standard config schema : Encoder σ).supports category = false) (data other : EventData) :
    schema.payload config category data = schema.payload config category other
      ↔ (schema.StopsAtUser data ↔ schema.StopsAtUser other) := by
  rw [payload_of_unsupported h, payload_of_unsupported h]
  by_cases hdata : schema.StopsAtUser data <;> by_cases hother : schema.StopsAtUser other <;>
    simp [hdata, hother]

end Unsupported

/-- A standard encoder answers at once. It refuses an event for its category exactly if it does not support the
category and is not stopped at the user before, so what is declared and what is answered agree on every event but those.
There the answer is that the user is missing, although no user would help; and in no other way does the reason depend
on the event. -/
theorem Encoder.standard_refuses_iff {σ : Type} (config : Configuration) (schema : Schema) (category : Category) :
    ∃ result : EventData → Except EncodeError Payload,
      (∀ data, (Encoder.standard config schema : Encoder σ).encode category data = pure (result data))
      ∧ (∀ data asked, result data = .error (.unsupportedCategory asked)
        ↔ asked = category ∧ (Encoder.standard config schema : Encoder σ).supports category = false
          ∧ ¬ schema.StopsAtUser data)
      ∧ (∀ data, (result data = .error (.unsupportedCategory category)
          ↔ (Encoder.standard config schema : Encoder σ).supports category = false)
        ↔ ¬ ((Encoder.standard config schema : Encoder σ).supports category = false ∧ schema.StopsAtUser data))
      ∧ ((Encoder.standard config schema : Encoder σ).supports category = false →
        (∀ data, schema.StopsAtUser data → result data = .error (.missingField category "user id"))
        ∧ ∀ data other, result data = result other ↔ (schema.StopsAtUser data ↔ schema.StopsAtUser other)) := by
  refine ⟨schema.payload config category, Encoder.standard_encode config schema category,
    fun data asked => Schema.payload_eq_unsupportedCategory_iff, fun data => ?_, fun hsupports => ⟨?_, ?_⟩⟩
  · rw [Schema.payload_eq_unsupportedCategory_iff (σ := σ)]
    grind
  · intro data hstops
    rw [Schema.payload_of_unsupported hsupports, if_pos hstops]
  · exact Schema.payload_eq_of_unsupported_iff hsupports

/-- An event that says only that a user is gone. -/
def unnamedDeletion : Event :=
  ⟨EventName.postDeleteUser, .empty, none⟩

/-- The encoder does not support the category, says that the user is missing, and does not say that the category is not
supported. -/
theorem unsupported_category_hides_behind_user :
    ∃ data, EventData.ofEvent unnamedDeletion = .ok data
      ∧ (Encoder.standard {} .caep : Encoder Unit).supports .userDeleted = false
      ∧ (Encoder.standard {} .caep : Encoder Unit).encode .userDeleted data
        = pure (.error (.missingField .userDeleted "user id"))
      ∧ ¬ ((Encoder.standard {} .caep : Encoder Unit).encode .userDeleted data
          = pure (.error (.unsupportedCategory .userDeleted))
        ↔ (Encoder.standard {} .caep : Encoder Unit).supports .userDeleted = false) := by
  refine ⟨_, rfl, rfl, rfl, fun hagree => ?_⟩
  cases congrFun (hagree.2 rfl) ⟨(), []⟩

end SecurityEvents
