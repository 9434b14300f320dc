import SecurityEvents.Json.Record
import SecurityEvents.Proofs.Json.Spelling
set_option autoImplicit false

/-!
# What a value holds

Two things decide whether a value comes back from its text: how deep its arrays and objects nest, and which
floats stand in it. Both are known of a value when they are known of its parts. A `Plain` value nests to a known
depth and holds no float.
-/

namespace SecurityEvents.Json

/-! ## Nesting -/

theorem nesting_array_le {items : List Json} {depth : Nat} :
    (Json.array items).nesting ≤ depth + 1 ↔ ∀ v ∈ items, v.nesting ≤ depth := by
  rw [nesting, Nat.succ_le_succ_iff]
  induction items with
  | nil => simp [itemsNesting]
  | cons v rest ih => rw [itemsNesting, Nat.max_le, ih, List.forall_mem_cons]

theorem nesting_object_le {members : List (String × Json)} {depth : Nat} :
    (Json.object members).nesting ≤ depth + 1 ↔ ∀ m ∈ members, m.2.nesting ≤ depth := by
  rw [nesting, Nat.succ_le_succ_iff]
  induction members with
  | nil => simp [membersNesting]
  | cons m rest ih => rw [membersNesting, Nat.max_le, ih, List.forall_mem_cons]

/-! ## Floats -/

mutual

/-- The floats in a value. -/
def floats : Json → List Binary64
  | .number (.float x) => [x]
  | .array items => itemsFloats items
  | .object members => membersFloats members
  | _ => []

/-- The floats in the values of a list. -/
def itemsFloats : List Json → List Binary64
  | [] => []
  | v :: rest => v.floats ++ itemsFloats rest

/-- The floats in the values of the members. -/
def membersFloats : List (String × Json) → List Binary64
  | [] => []
  | (_, v) :: rest => v.floats ++ membersFloats rest

end

theorem mem_floats_array {x : Binary64} {items : List Json} :
    x ∈ (Json.array items).floats ↔ ∃ v ∈ items, x ∈ v.floats := by
  rw [floats]
  induction items with
  | nil => simp [itemsFloats]
  | cons v rest ih => simp only [itemsFloats, List.mem_append, ih, List.mem_cons, exists_eq_or_imp]

theorem mem_floats_object {x : Binary64} {members : List (String × Json)} :
    x ∈ (Json.object members).floats ↔ ∃ m ∈ members, x ∈ m.2.floats := by
  rw [floats]
  induction members with
  | nil => simp [membersFloats]
  | cons m rest ih => simp only [membersFloats, List.mem_append, ih, List.mem_cons, exists_eq_or_imp]

/-- The floats are the numbers of their own spellings. -/
def Legible (xs : List Binary64) : Prop :=
  ∀ x ∈ xs, (Number.float x).IsSpelt

theorem legible_append {xs ys : List Binary64} : Legible (xs ++ ys) ↔ Legible xs ∧ Legible ys :=
  List.forall_mem_append

theorem isSpelt_of_legible {n : Number} (h : Legible (Json.number n).floats) : n.IsSpelt := by
  cases n with
  | natural n => exact Number.isSpelt_natural n
  | negative k => exact Number.isSpelt_negative k
  | float x => exact h x (by simp [floats])

/-! ## Objects with some of their fields -/

/-- The members of an object of fields: those fields that there are. -/
def membersOf (fields : List (String × Option Json)) : List (String × Json) :=
  fields.filterMap fun (name, v) => v.map (name, ·)

theorem mem_of_mem_membersOf {fields : List (String × Option Json)} {m : String × Json}
    (h : m ∈ membersOf fields) : (m.1, some m.2) ∈ fields := by
  obtain ⟨⟨name, v⟩, hmem, hv⟩ := List.mem_filterMap.1 h
  obtain ⟨w, rfl, rfl⟩ := Option.map_eq_some_iff.1 hv
  exact hmem

theorem nesting_ofFields_le {fields : List (String × Option Json)} {depth : Nat}
    (h : ∀ f ∈ fields, ∀ v ∈ f.2, v.nesting ≤ depth) : (ofFields fields).nesting ≤ depth + 1 :=
  nesting_object_le.2 fun _ hm => h _ (mem_of_mem_membersOf hm) _ rfl

theorem exists_of_mem_floats_ofFields {fields : List (String × Option Json)} {x : Binary64}
    (h : x ∈ (ofFields fields).floats) : ∃ f ∈ fields, ∃ v ∈ f.2, x ∈ v.floats := by
  obtain ⟨m, hm, hx⟩ := mem_floats_object.1 h
  exact ⟨_, mem_of_mem_membersOf hm, m.2, rfl, hx⟩

theorem legible_ofFields {fields : List (String × Option Json)}
    (h : ∀ f ∈ fields, ∀ v ∈ f.2, Legible v.floats) : Legible (ofFields fields).floats := by
  intro x hx
  obtain ⟨f, hf, v, hv, hx⟩ := exists_of_mem_floats_ofFields hx
  exact h f hf v hv x hx

/-! ## Plain values -/

/-- A value that holds no float and nests to this depth at most. -/
structure Plain (depth : Nat) (v : Json) : Prop where
  nesting_le : v.nesting ≤ depth
  no_float : ∀ x, x ∉ v.floats

section Plain

variable {α : Type} {depth : Nat}

theorem Plain.legible {v : Json} (h : Plain depth v) : Legible v.floats :=
  fun x hx => (h.no_float x hx).elim

theorem Plain.mono {v : Json} {most : Nat} (h : Plain depth v) (hmost : depth ≤ most) : Plain most v :=
  ⟨Nat.le_trans h.nesting_le hmost, h.no_float⟩

theorem plain_string (s : String) : Plain depth (.string s) :=
  ⟨Nat.zero_le _, fun _ => by simp [floats]⟩

theorem plain_natural (n : UInt64) : Plain depth (.number (.natural n)) :=
  ⟨Nat.zero_le _, fun _ => by simp [floats]⟩

theorem plain_ofInt64 (i : Int64) : Plain depth (.number (.ofInt64 i)) := by
  rw [Number.ofInt64]
  split
  · exact ⟨Nat.zero_le _, fun _ => by simp [floats]⟩
  · exact plain_natural _

theorem plain_array {items : List Json} (h : ∀ v ∈ items, Plain depth v) : Plain (depth + 1) (.array items) where
  nesting_le := nesting_array_le.2 fun v hv => (h v hv).nesting_le
  no_float x hx := by
    obtain ⟨v, hv, hx⟩ := mem_floats_array.1 hx
    exact (h v hv).no_float x hx

theorem plain_object {members : List (String × Json)} (h : ∀ m ∈ members, Plain depth m.2) :
    Plain (depth + 1) (.object members) where
  nesting_le := nesting_object_le.2 fun m hm => (h m hm).nesting_le
  no_float x hx := by
    obtain ⟨m, hm, hx⟩ := mem_floats_object.1 hx
    exact (h m hm).no_float x hx

theorem plain_ofFields {fields : List (String × Option Json)} (h : ∀ f ∈ fields, ∀ v ∈ f.2, Plain depth v) :
    Plain (depth + 1) (ofFields fields) :=
  plain_object fun _ hm => h _ (mem_of_mem_membersOf hm) _ rfl

theorem plain_of_mem_map {write : α → Json} {o : Option α} {v : Json} (h : ∀ a, Plain depth (write a))
    (hv : v ∈ o.map write) : Plain depth v := by
  obtain ⟨a, -, rfl⟩ := Option.map_eq_some_iff.1 hv
  exact h a

theorem plain_of_mem_unlessEmpty {write : α → Json} {as : List α} {v : Json} (h : ∀ a, Plain depth (write a))
    (hv : v ∈ unlessEmpty write as) : Plain (depth + 1) v := by
  cases as with
  | nil => nomatch hv
  | cons a as =>
    cases hv
    exact plain_array fun w hw => by
      obtain ⟨b, -, rfl⟩ := List.mem_map.1 hw
      exact h b

end Plain

end SecurityEvents.Json
