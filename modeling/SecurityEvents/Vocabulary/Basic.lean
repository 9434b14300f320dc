import SecurityEvents.Catalog
set_option autoImplicit false

/-!
# Vocabularies

A vocabulary lists the events of a schema by channel, each under a key and with the categories it stands
for. It is a profile in which every event has the URI `<channel>/event-type/<key>`, and the manager that
locates an event by its category alone.
-/

namespace SecurityEvents

/-- An event of a vocabulary. -/
structure VocabularyEvent where
  key : String
  categories : List Category
  deriving DecidableEq, Repr

/-- A channel of a vocabulary. -/
structure VocabularyChannel where
  name : String
  uri : String
  events : List VocabularyEvent
  deriving DecidableEq, Repr

/-- The events of a schema. -/
structure Vocabulary where
  schema : Schema
  version : String
  channels : List VocabularyChannel
  deriving DecidableEq, Repr

namespace Vocabulary

/-- What an event is announced under. -/
def eventUri (channelUri key : String) : String :=
  channelUri ++ "/event-type/" ++ key

/-- Whether some event of the vocabulary stands for the category. -/
def covers (v : Vocabulary) (category : Category) : Bool :=
  v.channels.any fun channel => channel.events.any fun event => event.categories.contains category

/-- The categories as the events list them. -/
def listed (v : Vocabulary) : List Category :=
  v.channels.flatMap fun channel => channel.events.flatMap (·.categories)

/-- Categories of which none is the same as the one before it. -/
def withoutRepeats : List Category → List Category
  | a :: b :: rest => if a = b then withoutRepeats (b :: rest) else a :: withoutRepeats (b :: rest)
  | few => few

/-- The categories that the events stand for, each once and in order. -/
def categories (v : Vocabulary) : List Category :=
  withoutRepeats (v.listed.mergeSort fun a b => a.index ≤ b.index)

/-- The first event of the first channel that stands for the category. -/
def locate (v : Vocabulary) (category : Category) : Option EventMetadata :=
  v.channels.findSome? fun channel =>
    (channel.events.find? (·.categories.contains category)).map fun event => ⟨channel.uri, event.key⟩

/-- The vocabulary as the manager of its schema. -/
def manager (v : Vocabulary) : Manager where
  schema := v.schema
  locate _ category := .ok (v.locate category)

/-- The vocabulary as a profile. -/
def profile (v : Vocabulary) : Profile where
  name := v.schema.name
  version := v.version
  channels := v.channels.map fun channel =>
    ⟨channel.name, channel.uri, channel.events.map fun event =>
      ⟨event.key, eventUri channel.uri event.key⟩⟩

theorem mem_withoutRepeats {c : Category} {cs : List Category} : c ∈ withoutRepeats cs ↔ c ∈ cs := by
  induction cs using withoutRepeats.induct with
  | case1 a rest ih => simp [withoutRepeats, ih]
  | case2 a b rest hne ih => simp [withoutRepeats, hne, ih]
  | case3 few hfew => rw [withoutRepeats.eq_2 few hfew]

theorem mem_categories {v : Vocabulary} {c : Category} : c ∈ v.categories ↔ v.covers c = true := by
  simp only [categories, mem_withoutRepeats, List.mem_mergeSort, listed, List.mem_flatMap, covers, List.any_eq_true,
    List.contains_iff_mem]

/-- An event is located exactly where some event of the vocabulary stands for its category. -/
theorem isSome_locate (v : Vocabulary) (c : Category) : (v.locate c).isSome = v.covers c := by
  rw [Bool.eq_iff_iff, locate, covers, List.findSome?_isSome_iff]
  simp

end Vocabulary

end SecurityEvents
