import SecurityEvents.Proofs.Json.Record
import SecurityEvents.Proofs.Json.RoundTrip
set_option autoImplicit false

/-!
# Readers that give back what was written

A reader is `Faithful` to a writer if it reads what is written of a thing as the thing, whenever the budget allows for
the nesting. There is a rule for each way to put readers together, so a record is read faithfully if its fields are.
From the document to its text, the floats in it have to be legible besides: `Faithful.ofText`.
-/

namespace SecurityEvents.Json

/-- What is written of a thing is read as the thing, where the budget allows for the nesting. -/
def Faithful {α : Type} (read : Reading α) (write : α → Json) : Prop :=
  ∀ a budget, (write a).nesting ≤ budget → read budget (write a).tree = some a

variable {α : Type} {read : Reading α} {write : α → Json}

/-! ## Single values -/

theorem faithful_text : Faithful Reading.text string :=
  fun s budget _ => reading_text budget s

theorem faithful_number {convert : Number → Option α} {number : α → Number} (h : ∀ a, convert (number a) = some a) :
    Faithful (Reading.number convert) fun a => .number (number a) := by
  intro a _ _
  rw [tree]
  exact h a

theorem string_ne_null (s : String) : string s ≠ .null := by
  intro h
  cases h

theorem number_ne_null (n : Number) : number n ≠ .null := by
  intro h
  cases h

/-! ## Lists -/

theorem Faithful.items? (h : Faithful read write) {budget : Nat} {as : List α}
    (hnesting : ∀ a ∈ as, (write a).nesting ≤ budget) :
    Reading.items? read budget (itemTrees (as.map write)) = some as := by
  induction as with
  | nil => rfl
  | cons a as ih =>
    obtain ⟨hfirst, hrest⟩ := List.forall_mem_cons.1 hnesting
    rw [List.map_cons, itemTrees, Reading.items?, h a budget hfirst]
    dsimp only
    rw [ih hrest, Option.map_some]

theorem Faithful.list (h : Faithful read write) : Faithful (Reading.list read) fun as => .array (as.map write) := by
  intro as budget hnesting
  cases budget with
  | zero => exact (Nat.not_succ_le_zero _ hnesting).elim
  | succ budget =>
    rw [tree]
    exact h.items? fun a ha => nesting_array_le.1 hnesting _ (List.mem_map_of_mem ha)

/-! ## Records -/

theorem ofFields_ne_null (fields : List (String × Option Json)) : ofFields fields ≠ .null := by
  intro h
  cases h

/-- The fields of the document are these, and the budget is enough for each of them. -/
structure Fields.Fits (fs : Fields) (fields : List (String × Option Json)) : Prop where
  hold : fs.Hold fields
  room : ∀ name v, fields.lookup name = some (some v) → v.nesting ≤ fs.budget

theorem mem_membersOf {fields : List (String × Option Json)} {name : String} {v : Json}
    (h : fields.lookup name = some (some v)) : (name, v) ∈ membersOf fields := by
  obtain ⟨before, after, rfl, -⟩ := List.lookup_eq_some_iff.1 h
  exact List.mem_filterMap.2 ⟨_, List.mem_append_right before List.mem_cons_self, rfl⟩

/-- A record is read faithfully if it is made of what its fields say. -/
theorem Faithful.record {layout : List Field} {fields : α → List (String × Option Json)} {build : Fields → Option α}
    (names : ∀ a, ((fields a).map (·.1)).Nodup) (known : ∀ a, ∀ f ∈ fields a, Knows layout f.1)
    (h : ∀ a fs, fs.Fits (fields a) → build fs = some a) :
    Faithful (Reading.record layout build) fun a => ofFields (fields a) := by
  intro a budget hnesting
  cases budget with
  | zero => exact (Nat.not_succ_le_zero _ hnesting).elim
  | succ budget =>
    obtain ⟨fs, hbudget, hold, hrecord⟩ := exists_record_ofFields layout (fields a) (names a) (known a) build budget
    refine hrecord.trans (h a fs ⟨hold, fun name v hlookup => ?_⟩)
    rw [hbudget]
    exact nesting_object_le.1 hnesting _ (mem_membersOf hlookup)

namespace Fields.Fits

variable {fs : Fields} {fields : List (String × Option Json)} {name : String}

theorem required (h : fs.Fits fields) (hread : Faithful read write) {a : α}
    (hfield : fields.lookup name = some (some (write a))) : fs.required name read = some a :=
  h.hold.required_eq hfield (hread a _ (h.room _ _ hfield))

theorem optional (h : fs.Fits fields) (hread : Faithful read write) (hnull : ∀ a, write a ≠ .null) {o : Option α}
    (hfield : fields.lookup name = some (o.map write)) : fs.optional name read = some o := by
  refine h.hold.optional_eq hfield fun a ha => ⟨hnull a, hread a _ (h.room name _ ?_)⟩
  rw [hfield, Option.mem_def.1 ha, Option.map_some]

theorem defaulted (h : fs.Fits fields) (hread : Faithful read write) {default a : α}
    (hfield : fields.lookup name = some (some (write a))) : fs.defaulted name default read = some a := by
  rw [Fields.defaulted, h.hold name, hfield]
  exact hread a _ (h.room _ _ hfield)

/-- A list that is left out where it is empty is empty where it is missing. -/
theorem list (h : fs.Fits fields) (hread : Faithful read write) {as : List α}
    (hfield : fields.lookup name = some (unlessEmpty write as)) :
    fs.defaulted name [] (Reading.list read) = some as := by
  cases as with
  | nil =>
    rw [Fields.defaulted, h.hold name, hfield]
    rfl
  | cons a as => exact h.defaulted hread.list hfield

end Fields.Fits

/-! ## Whole texts -/

/-- What the text of a thing is read as. -/
def Reading.ofText (read : Reading α) (s : String) : Option α :=
  read.ofPlaces (Text.placesOf s)

theorem Faithful.ofText (h : Faithful read write) {a : α} (hlegible : Legible (write a).floats)
    (hnesting : (write a).nesting ≤ textBudget) : read.ofText (write a).text = some a := by
  rw [Reading.ofText, placesOf_text, Reading.ofPlaces, Tree.read?_chars hlegible, Option.bind_some]
  exact h a textBudget hnesting

theorem Faithful.ofText_of_plain (h : Faithful read write) {a : α} {depth : Nat} (hplain : Plain depth (write a))
    (hdepth : depth ≤ textBudget) : read.ofText (write a).text = some a :=
  h.ofText hplain.legible (Nat.le_trans hplain.nesting_le hdepth)

end SecurityEvents.Json
