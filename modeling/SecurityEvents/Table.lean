set_option autoImplicit false

/-!
# Tables

Values by key. A key that is put in again keeps its place and takes the new value, so a table holds every
key once and the value that was put last: `get?_put` says so.
-/

namespace SecurityEvents

/-- The entries with one put in: a key that is there keeps its place. -/
def putEntry {κ α : Type} [DecidableEq κ] (key : κ) (value : α) : List (κ × α) → List (κ × α)
  | [] => [(key, value)]
  | (k, v) :: rest => if k = key then (k, value) :: rest else (k, v) :: putEntry key value rest

theorem mem_keys_putEntry {κ α : Type} [DecidableEq κ] {key k : κ} {value : α} {es : List (κ × α)} :
    k ∈ (putEntry key value es).map (·.1) ↔ k = key ∨ k ∈ es.map (·.1) := by
  induction es with
  | nil => simp [putEntry]
  | cons e rest ih =>
    obtain ⟨l, v⟩ := e
    by_cases h : l = key
    · subst h
      simp [putEntry]
    · rw [putEntry, if_neg h, List.map_cons, List.map_cons, List.mem_cons, List.mem_cons, ih]
      exact or_left_comm

theorem nodup_keys_putEntry {κ α : Type} [DecidableEq κ] {key : κ} {value : α} {es : List (κ × α)}
    (h : (es.map (·.1)).Nodup) : ((putEntry key value es).map (·.1)).Nodup := by
  induction es with
  | nil => simp [putEntry]
  | cons e rest ih =>
    obtain ⟨l, v⟩ := e
    rw [List.map_cons, List.nodup_cons] at h
    by_cases hl : l = key
    · subst hl
      simpa [putEntry] using h
    · rw [putEntry, if_neg hl, List.map_cons, List.nodup_cons]
      refine ⟨fun hm => ?_, ih h.2⟩
      rcases mem_keys_putEntry.1 hm with heq | hm
      · exact hl heq
      · exact h.1 hm

/-- Values by key, in the order in which the keys came in. -/
structure Table (κ α : Type) where
  entries : List (κ × α)
  nodup_keys : (entries.map (·.1)).Nodup

namespace Table

variable {κ α : Type}

/-- The table without entries. -/
def empty : Table κ α := ⟨[], List.nodup_nil⟩

instance : Inhabited (Table κ α) := ⟨empty⟩

/-- The keys, each once. -/
def keys (t : Table κ α) : List κ :=
  t.entries.map (·.1)

/-- How many keys have a value. -/
def size (t : Table κ α) : Nat :=
  t.entries.length

variable [DecidableEq κ]

/-- The value of a key. -/
def get? (t : Table κ α) (key : κ) : Option α :=
  t.entries.lookup key

/-- Whether a key has a value. -/
def contains (t : Table κ α) (key : κ) : Bool :=
  (t.get? key).isSome

/-- The table in which a key has this value. -/
def put (t : Table κ α) (key : κ) (value : α) : Table κ α :=
  ⟨putEntry key value t.entries, nodup_keys_putEntry t.nodup_keys⟩

@[simp] theorem get?_empty (key : κ) : (empty : Table κ α).get? key = none := rfl

theorem mem_keys_iff {t : Table κ α} {key : κ} : key ∈ t.keys ↔ t.contains key = true := by
  simp [keys, contains, get?, List.lookup_isSome_iff]

theorem get?_put (t : Table κ α) (key k : κ) (value : α) :
    (t.put key value).get? k = if k = key then some value else t.get? k := by
  obtain ⟨es, h⟩ := t
  simp only [get?, put]
  clear h
  induction es with
  | nil =>
    by_cases hk : k = key
    · simp [putEntry, hk]
    · simp [putEntry, hk]
  | cons e rest ih =>
    obtain ⟨l, v⟩ := e
    by_cases hl : l = key
    · subst hl
      by_cases hk : k = l
      · simp [putEntry, hk]
      · have : (k == l) = false := by simpa using hk
        simp [putEntry, hk, List.lookup_cons, this]
    · by_cases hkl : k = l
      · subst hkl
        simp [putEntry, hl]
      · have : (k == l) = false := by simpa using hkl
        simp [putEntry, hl, List.lookup_cons, this, ih]

end Table

end SecurityEvents
