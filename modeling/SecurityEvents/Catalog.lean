import SecurityEvents.Act
import SecurityEvents.Category
import SecurityEvents.Profile
import SecurityEvents.Schema
import SecurityEvents.Table
import SecurityEvents.Text.Quoted
set_option autoImplicit false

/-!
# Catalog

For each schema a manager knows where its profiles list an event. A catalog holds the managers, one for each
schema: the one that was registered last.
-/

namespace SecurityEvents

/-- Who knows where the profiles of a schema list an event, by its name and category. -/
structure Manager where
  schema : Schema
  locate : String → Category → Except Panic (Option EventMetadata)

/-- The managers by schema. -/
structure Catalog where
  managers : Table Schema Manager := .empty

namespace Catalog

/-- The catalog with one more manager, which displaces the one of its schema. -/
def register (c : Catalog) (m : Manager) : Catalog :=
  ⟨c.managers.put m.schema m⟩

/-- The catalog of managers registered one after the other. -/
def ofList (ms : List Manager) : Catalog :=
  ms.foldl register {}

/-- The schema of a profile, if it has a manager. -/
def schemaOf (c : Catalog) (p : Profile) : Option Schema :=
  (Schema.ofProfileName? p.name).filter c.managers.contains

/-- Where a profile lists an event. -/
def locate (c : Catalog) (p : Profile) (eventName : String) (category : Category) :
    Except Panic (Option EventMetadata) :=
  match (c.schemaOf p).bind c.managers.get? with
  | none => .ok none
  | some m => m.locate eventName category

/-- The schemas that have a manager. -/
def schemas (c : Catalog) : List Schema :=
  Schema.all.filter c.managers.contains

/-- How a catalog is described. -/
def description (c : Catalog) : String :=
  Text.braced "ProfileCatalog" [("schemas", Text.bracketed (c.schemas.map Schema.label))]

end Catalog

end SecurityEvents
