import SecurityEvents.Text.Uppercase
set_option autoImplicit false

/-!
# Schemas

A schema is a language for announcements: how an event is named, addressed and described. A profile belongs
to the schema that its name spells, in upper or lower case.
-/

namespace SecurityEvents

/-- The schemas that announcements are written in. -/
inductive Schema where
  | wso2
  | caep
  | risc
  deriving DecidableEq, Repr, Inhabited

namespace Schema

/-- Every schema, in order. -/
def all : List Schema := [.wso2, .caep, .risc]

/-- The name of a schema in documents. -/
def name : Schema → String
  | .wso2 => "WSO2"
  | .caep => "CAEP"
  | .risc => "RISC"

/-- The name of a schema in descriptions. -/
def label : Schema → String
  | .wso2 => "Wso2"
  | .caep => "Caep"
  | .risc => "Risc"

/-- The schema of exactly this name. -/
def ofName? (s : String) : Option Schema :=
  all.find? (·.name == s)

/-- The schema that the name of a profile spells once it is in upper case. -/
def ofProfileName? (s : String) : Option Schema :=
  ofName? (Text.uppercase s)

/-- What is said of a name that spells no schema. -/
def unknownMessage (s : String) : String :=
  "Unknown event schema: " ++ s

@[simp] theorem ofName?_name (s : Schema) : ofName? s.name = some s := by cases s <;> decide

theorem mem_all (s : Schema) : s ∈ all := by cases s <;> decide

end Schema

end SecurityEvents
