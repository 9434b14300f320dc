import SecurityEvents.Payload.Basic
set_option autoImplicit false

/-!
# Subjects

Who an announcement is about, by an identifier in some format. An opaque identifier means something to its
issuer only.
-/

namespace SecurityEvents

/-- An identifier of a subject. -/
structure SubjectId where
  format : String
  id : String
  deriving DecidableEq, Repr

namespace SubjectId

/-- An opaque identifier. -/
def opaqueId (id : String) : SubjectId :=
  ⟨"opaque", id⟩

/-- The fields of an identifier in a document. -/
def layout : List Json.Field := [{ name := "format" }, { name := "id" }]

/-- An identifier in a document. -/
def reading : Json.Reading SubjectId :=
  Json.Reading.record layout fun fs => do
    let format ← fs.required "format" Json.Reading.text
    let id ← fs.required "id" Json.Reading.text
    some ⟨format, id⟩

/-- The document of an identifier. -/
def json (s : SubjectId) : Json :=
  Json.ofFields [("format", some (.string s.format)), ("id", some (.string s.id))]

theorem isKeyed_json (s : SubjectId) : s.json.isKeyed = true :=
  Json.isKeyed_ofFields (by simp) (by simp)

end SubjectId

end SecurityEvents
