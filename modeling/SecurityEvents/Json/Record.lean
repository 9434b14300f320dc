import SecurityEvents.Json.Reader
set_option autoImplicit false

/-!
# Reading documents

A document is a JSON text whose form is known beforehand. It is read from the tree of the text, so that what
it does not ask for is never turned into values.

A *record* has named fields. It is written as an object, whose unknown members are passed over and whose
known members stand at most once, or as an array of its fields in order, which may end early before fields
that have a default.

A reader takes the budget for nested arrays and objects that the surrounding text leaves it.
-/

namespace SecurityEvents.Json

/-- How a document of type `α` is read: a budget for nesting, a tree, and what it means. -/
abbrev Reading (α : Type) := Nat → Tree → Option α

/-- A field of a record. -/
structure Field where
  name : String
  /-- Other names that an object may use for it. -/
  others : List String := []
  /-- Whether an array may end before it. -/
  omissible : Bool := false
  deriving DecidableEq, Repr

namespace Field

/-- Whether an object means this field by a name. -/
def answersTo (f : Field) (name : String) : Bool :=
  f.name == name || f.others.contains name

end Field

/-- The fields that a document has, by name, and the budget left for them. -/
structure Fields where
  budget : Nat
  present : List (String × Tree)

namespace Fields

/-- The fields among the members of an object. -/
def ofMembers? (layout : List Field) :
    List (List (Option Char) × Tree) → Option (List (String × Tree))
  | [] => some []
  | (k, t) :: rest =>
    match Text.whole? k, ofMembers? layout rest with
    | some name, some found =>
      match layout.find? (·.answersTo name) with
      | none => some found
      | some f => if (found.lookup f.name).isSome then none else some ((f.name, t) :: found)
    | _, _ => none

/-- The fields in an array. -/
def ofItems? : List Field → List Tree → Option (List (String × Tree))
  | layout, [] => if layout.all (·.omissible) then some [] else none
  | [], _ :: _ => none
  | f :: layout, t :: rest => (ofItems? layout rest).map ((f.name, t) :: ·)

/-- A field that has to be there. -/
def required {α : Type} (fs : Fields) (name : String) (read : Reading α) : Option α :=
  (fs.present.lookup name).bind (read fs.budget)

/-- A field that may be missing. -/
def defaulted {α : Type} (fs : Fields) (name : String) (default : α) (read : Reading α) : Option α :=
  match fs.present.lookup name with
  | none => some default
  | some t => read fs.budget t

/-- A field that may be missing or null. -/
def optional {α : Type} (fs : Fields) (name : String) (read : Reading α) : Option (Option α) :=
  match fs.present.lookup name with
  | none | some .null => some none
  | some t => (read fs.budget t).map some

end Fields

namespace Reading

/-- A record with this layout. -/
def record {α : Type} (layout : List Field) (build : Fields → Option α) : Reading α
  | budget + 1, .object members =>
    (Fields.ofMembers? layout members).bind fun present => build ⟨budget, present⟩
  | budget + 1, .array items =>
    (Fields.ofItems? layout items).bind fun present => build ⟨budget, present⟩
  | _, _ => none

/-- Any value. -/
def value : Reading Json :=
  Tree.value?

/-- Any value, with the fact that it is keyed. -/
def keyed : Reading Keyed := fun budget t =>
  match h : t.value? budget with
  | some v => some ⟨v, Tree.isKeyed_of_value? h⟩
  | none => none

/-- A string. -/
def text : Reading String := fun _ t =>
  match t with
  | .string places => Text.whole? places
  | _ => none

/-- A truth value. -/
def flag : Reading Bool := fun _ t =>
  match t with
  | .bool b => some b
  | _ => none

/-- A number of a certain kind. -/
def number {α : Type} (convert : Number → Option α) : Reading α := fun _ t =>
  match t with
  | .number n => n.bind convert
  | _ => none

/-- Each item of an array. -/
def items? {α : Type} (read : Reading α) (budget : Nat) : List Tree → Option (List α)
  | [] => some []
  | t :: rest =>
    match read budget t with
    | none => none
    | some x => (items? read budget rest).map (x :: ·)

/-- An array of documents of one kind. -/
def list {α : Type} (read : Reading α) : Reading (List α)
  | budget + 1, .array items => items? read budget items
  | _, _ => none

/-- Each member of an object, in the order of the text and with its repetitions. -/
def members? {α : Type} (read : Reading α) (budget : Nat) :
    List (List (Option Char) × Tree) → Option (List (String × α))
  | [] => some []
  | (k, t) :: rest =>
    match Text.whole? k, read budget t with
    | some name, some x => (members? read budget rest).map ((name, x) :: ·)
    | _, _ => none

/-- An object whose members are documents of one kind. -/
def members {α : Type} (read : Reading α) : Reading (List (String × α))
  | budget + 1, .object ms => members? read budget ms
  | _, _ => none

/-- One of a list of names, as a string or as the only member of an object whose value is null. -/
def choice {α : Type} (ofName? : String → Option α) : Reading α := fun budget t =>
  match t with
  | .string places => (Text.whole? places).bind ofName?
  | .object [(k, .null)] => if budget = 0 then none else (Text.whole? k).bind ofName?
  | _ => none

/-- A document from a whole text. -/
def ofPlaces {α : Type} (read : Reading α) (places : List (Option Char)) : Option α :=
  (Tree.read? places).bind (read textBudget)

/-- A document from a value. What has been read already is not limited: its own nesting is enough. -/
def ofValue {α : Type} (read : Reading α) (v : Json) : Option α :=
  read v.nesting v.tree

end Reading

/-! ## Writing records -/

/-- An object with those of the named values that there are. -/
def ofFields (fields : List (String × Option Json)) : Json :=
  .object (fields.filterMap fun (name, v) => v.map (name, ·))

/-- A value, or null where there is none. -/
def orNull {α : Type} (write : α → Json) : Option α → Json
  | none => .null
  | some x => write x

/-- An array of the values, where there are any. -/
def unlessEmpty {α : Type} (write : α → Json) : List α → Option Json
  | [] => none
  | xs => some (.array (xs.map write))

/-- An object is keyed when its fields have different names and their values are keyed. -/
theorem isKeyed_ofFields {fields : List (String × Option Json)} (names : (fields.map (·.1)).Nodup)
    (values : ∀ f ∈ fields, ∀ v ∈ f.2, v.isKeyed = true) : (ofFields fields).isKeyed = true := by
  simp only [ofFields, isKeyed]
  induction fields with
  | nil => simp [membersKeyed]
  | cons f rest ih =>
    obtain ⟨name, v⟩ := f
    simp only [List.map_cons, List.nodup_cons] at names
    have hrest := ih names.2 fun f hf => values f (List.mem_cons_of_mem _ hf)
    cases v with
    | none => simpa using hrest
    | some v =>
      have hv : v.isKeyed = true := values (name, some v) List.mem_cons_self v rfl
      simp only [List.filterMap_cons, Option.map_some, membersKeyed, hv, hrest, Bool.and_true,
        Bool.not_eq_true']
      simp only [hasMember, List.any_eq_false, List.mem_filterMap, Prod.exists, beq_iff_eq]
      rintro ⟨k, w⟩ ⟨l, u, hmem, hw⟩ hk
      obtain ⟨x, hx, he⟩ := Option.map_eq_some_iff.1 hw
      simp only [Prod.mk.injEq] at he
      exact names.1 (List.mem_map.2 ⟨(l, u), hmem, by rw [← hk, ← he.1]⟩)

/-- An array is keyed when its items are. -/
theorem isKeyed_array {items : List Json} :
    (Json.array items).isKeyed = true ↔ ∀ v ∈ items, v.isKeyed = true := by
  simp only [isKeyed]
  induction items with
  | nil => simp [itemsKeyed]
  | cons v rest ih => simp [itemsKeyed, ih]

@[simp] theorem isKeyed_string (s : String) : (Json.string s).isKeyed = true := by
  simp [isKeyed]

@[simp] theorem isKeyed_number (n : Number) : (Json.number n).isKeyed = true := by
  simp [isKeyed]

/-- What is written of an optional thing is keyed when what is written of a thing is. -/
theorem isKeyed_of_mem_map {α : Type} {write : α → Json} {o : Option α} {v : Json}
    (h : ∀ x, (write x).isKeyed = true) (hv : v ∈ o.map write) : v.isKeyed = true := by
  obtain ⟨x, -, rfl⟩ := Option.map_eq_some_iff.1 hv
  exact h x

/-- What is written of a list is keyed when what is written of an item is. -/
theorem isKeyed_of_mem_unlessEmpty {α : Type} {write : α → Json} {xs : List α} {v : Json}
    (h : ∀ x, (write x).isKeyed = true) (hv : v ∈ unlessEmpty write xs) : v.isKeyed = true := by
  cases xs with
  | nil => simp [unlessEmpty] at hv
  | cons x xs =>
    simp only [unlessEmpty, Option.mem_def, Option.some.injEq] at hv
    rw [← hv, isKeyed_array]
    intro w hw
    obtain ⟨y, -, rfl⟩ := List.mem_map.1 hw
    exact h y

end SecurityEvents.Json
