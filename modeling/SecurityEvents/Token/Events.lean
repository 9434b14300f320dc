import SecurityEvents.Payload.Basic
set_option autoImplicit false

/-!
# The events of a token

A token holds payloads by the URI of the event, in ascending order of the URIs. An URI that is put in again
takes the new payload.
-/

namespace SecurityEvents

/-- The entries with one put in at its place. -/
def insertEvent (uri : String) (payload : Payload) : List (String × Payload) → List (String × Payload)
  | [] => [(uri, payload)]
  | (u, p) :: rest =>
    if uri < u then (uri, payload) :: (u, p) :: rest
    else if u < uri then (u, p) :: insertEvent uri payload rest
    else (uri, payload) :: rest

theorem mem_insertEvent {uri : String} {payload : Payload} {es : List (String × Payload)}
    {e : String × Payload} (h : e ∈ insertEvent uri payload es) : e = (uri, payload) ∨ e ∈ es := by
  induction es with
  | nil =>
    simp only [insertEvent, List.mem_singleton] at h
    exact .inl h
  | cons f rest ih =>
    obtain ⟨u, p⟩ := f
    simp only [insertEvent] at h
    split at h
    · rcases List.mem_cons.1 h with h | h
      · exact .inl h
      · exact .inr h
    · split at h
      · rcases List.mem_cons.1 h with h | h
        · exact .inr (h ▸ List.mem_cons_self)
        · exact (ih h).imp id (List.mem_cons_of_mem _)
      · rcases List.mem_cons.1 h with h | h
        · exact .inl h
        · exact .inr (List.mem_cons_of_mem _ h)

theorem pairwise_insertEvent {uri : String} {payload : Payload} {es : List (String × Payload)}
    (h : es.Pairwise (·.1 < ·.1)) : (insertEvent uri payload es).Pairwise (·.1 < ·.1) := by
  induction es with
  | nil => simp [insertEvent]
  | cons f rest ih =>
    obtain ⟨u, p⟩ := f
    obtain ⟨hu, hrest⟩ := List.pairwise_cons.1 h
    simp only [insertEvent]
    split
    · rename_i hlt
      refine List.pairwise_cons.2 ⟨fun e he => ?_, h⟩
      rcases List.mem_cons.1 he with rfl | he
      · exact hlt
      · exact String.lt_trans hlt (hu e he)
    · rename_i hnot
      split
      · rename_i hlt
        refine List.pairwise_cons.2 ⟨fun e he => ?_, ih hrest⟩
        rcases mem_insertEvent he with heq | he
        · rw [heq]
          exact hlt
        · exact hu e he
      · rename_i hnot'
        have heq : u = uri := String.le_antisymm hnot hnot'
        exact List.pairwise_cons.2 ⟨fun e he => heq ▸ hu e he, hrest⟩

/-- Payloads by URI, in ascending order. -/
structure EventMap where
  entries : List (String × Payload)
  ascending : entries.Pairwise (·.1 < ·.1)
  deriving DecidableEq

namespace EventMap

/-- No events. -/
def empty : EventMap := ⟨[], List.Pairwise.nil⟩

/-- One event. -/
def single (uri : String) (payload : Payload) : EventMap :=
  ⟨[(uri, payload)], List.pairwise_singleton _ _⟩

/-- The events with one put in. -/
def insert (m : EventMap) (uri : String) (payload : Payload) : EventMap :=
  ⟨insertEvent uri payload m.entries, pairwise_insertEvent m.ascending⟩

/-- The events of a list; of several with one URI the last counts. -/
def ofList (es : List (String × Payload)) : EventMap :=
  es.foldl (fun m (uri, payload) => m.insert uri payload) empty

/-- How many events there are. -/
def size (m : EventMap) : Nat :=
  m.entries.length

/-- The first event. -/
def first? (m : EventMap) : Option (String × Payload) :=
  m.entries.head?

/-- Events in a document. -/
def reading : Json.Reading EventMap := fun budget t =>
  (Json.Reading.members Json.Reading.keyed budget t).map ofList

/-- The document of events. -/
def json (m : EventMap) : Json :=
  .object (m.entries.map fun (uri, payload) => (uri, payload.json))

end EventMap

end SecurityEvents
