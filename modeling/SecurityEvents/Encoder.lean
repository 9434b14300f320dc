import SecurityEvents.Act
import SecurityEvents.Payload.Caep
import SecurityEvents.Payload.Risc
import SecurityEvents.Payload.Wso2
import SecurityEvents.Schema
import SecurityEvents.Table
import SecurityEvents.Text.Quoted
set_option autoImplicit false

/-!
# Encoders

An encoder makes the payloads of one schema for the categories that it supports. A registry has at most one
encoder for a schema and a category: the last that was registered and supports it.
-/

namespace SecurityEvents

/-- Who makes the payloads of a schema, with services of state `σ`. -/
structure Encoder (σ : Type) where
  schema : Schema
  supports : Category → Bool
  encode : Category → EventData → Act σ (Except EncodeError Payload)

namespace Encoder

variable {σ : Type}

/-- The encoder of the WSO2 schema. -/
def wso2 (config : Configuration) : Encoder σ where
  schema := .wso2
  supports _ := true
  encode category data := pure (Wso2.encode config category data)

/-- The encoder of the Continuous Access Evaluation Profile. -/
def caep : Encoder σ where
  schema := .caep
  supports := Caep.categories.contains
  encode category data := pure (Caep.encode category data)

/-- The encoder of Risk Incident Sharing and Coordination. -/
def risc : Encoder σ where
  schema := .risc
  supports := Risc.categories.contains
  encode category data := pure (Risc.encode category data)

/-- The encoder of a schema. -/
def standard (config : Configuration) : Schema → Encoder σ
  | .wso2 => wso2 config
  | .caep => caep
  | .risc => risc

end Encoder

/-- The encoders by schema and category. -/
structure EncoderRegistry (σ : Type) where
  encoders : Table (Schema × Category) (Encoder σ) := .empty

namespace EncoderRegistry

variable {σ : Type}

/-- The registry with one more encoder, which displaces others where it supports the category. -/
def register (r : EncoderRegistry σ) (e : Encoder σ) : EncoderRegistry σ :=
  ⟨(Category.all.filter e.supports).foldl (fun table c => table.put (e.schema, c) e) r.encoders⟩

/-- The registry of encoders registered one after the other. -/
def ofList (es : List (Encoder σ)) : EncoderRegistry σ :=
  es.foldl register {}

/-- The standard encoders. -/
def standard (config : Configuration) : EncoderRegistry σ :=
  ofList (Schema.all.map (Encoder.standard config))

/-- The encoder for a schema and a category. -/
def find? (r : EncoderRegistry σ) (schema : Schema) (category : Category) : Option (Encoder σ) :=
  r.encoders.get? (schema, category)

/-- An encoder displaces others where it supports the category, and nowhere else. -/
theorem find?_register (r : EncoderRegistry σ) (e : Encoder σ) (s : Schema) (c : Category) :
    (r.register e).find? s c = if s = e.schema ∧ e.supports c = true then some e else r.find? s c := by
  have h (cs : List Category) (table : Table (Schema × Category) (Encoder σ)) :
      (cs.foldl (fun table c => table.put (e.schema, c) e) table).get? (s, c) =
        if s = e.schema ∧ c ∈ cs then some e else table.get? (s, c) := by
    induction cs generalizing table with
    | nil => simp
    | cons d rest ih =>
      rw [List.foldl_cons, ih, Table.get?_put]
      grind
  simp only [find?, register, h, List.mem_filter, Category.mem_all, true_and]

/-- How many pairs of a schema and a category have an encoder. -/
def size (r : EncoderRegistry σ) : Nat :=
  r.encoders.size

/-- The pairs that have an encoder, in order. -/
def pairs (r : EncoderRegistry σ) : List (Schema × Category) :=
  (Schema.all.flatMap fun s => Category.all.map fun c => (s, c)).filter r.encoders.contains

/-- How a registry is described. -/
def description (r : EncoderRegistry σ) : String :=
  Text.braced "EncoderRegistry"
    [("entries", Text.bracketed (r.pairs.map fun (s, c) => "(" ++ s.label ++ ", " ++ c.label ++ ")"))]

end EncoderRegistry

end SecurityEvents
