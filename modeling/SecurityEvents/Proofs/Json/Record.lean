import SecurityEvents.Proofs.Json.Extent
set_option autoImplicit false

/-!
# Records are read back

The object that is written of named fields holds, for a reader that knows the names, those of the fields that
there are: `exists_record_ofFields`. What a reader then gets of a field depends on the field alone.
-/

namespace SecurityEvents.Json

/-- The fields of the document are these, as trees. -/
def Fields.Hold (fs : Fields) (fields : List (String × Option Json)) : Prop :=
  ∀ name, fs.present.lookup name = (fields.lookup name).join.map tree

/-- An object knows a field by its own name. -/
def Knows (layout : List Field) (name : String) : Prop :=
  ∃ f, layout.find? (·.answersTo name) = some f ∧ f.name = name

theorem lookup_eq_none_of_not_mem {α : Type} {fields : List (String × α)} {name : String}
    (h : name ∉ fields.map (·.1)) : fields.lookup name = none := by
  apply List.lookup_eq_none_iff.2
  intro f hf
  exact bne_iff_ne.2 fun heq => h (heq ▸ List.mem_map_of_mem (f := (·.1)) hf)

/-! ## The members of an object of fields -/

theorem names_membersOf_sublist (fields : List (String × Option Json)) :
    ((membersOf fields).map (·.1)).Sublist (fields.map (·.1)) := by
  induction fields with
  | nil => exact List.Sublist.slnil
  | cons f rest ih =>
    obtain ⟨k, v⟩ := f
    cases v with
    | none => exact ih.cons k
    | some v => exact ih.cons_cons k

theorem lookup_membersOf {fields : List (String × Option Json)} (names : (fields.map (·.1)).Nodup)
    (name : String) : (membersOf fields).lookup name = (fields.lookup name).join := by
  induction fields with
  | nil => rfl
  | cons f rest ih =>
    obtain ⟨k, v⟩ := f
    obtain ⟨hk, hrest⟩ := List.nodup_cons.1 names
    cases v with
    | none =>
      refine (ih hrest).trans ?_
      rw [List.lookup_cons]
      split
      · rename_i heq
        rw [beq_iff_eq.1 heq, lookup_eq_none_of_not_mem hk]
        rfl
      · rfl
    | some v =>
      change ((k, v) :: membersOf rest).lookup name = _
      rw [List.lookup_cons, List.lookup_cons]
      split
      · rfl
      · exact ih hrest

/-- A field that is written is the member of its name. -/
theorem member?_ofFields {fields : List (String × Option Json)} (names : (fields.map (·.1)).Nodup)
    (name : String) : (ofFields fields).member? name = (fields.lookup name).join :=
  lookup_membersOf names name

/-! ## Reading the members -/

theorem ofMembers?_memberTrees {layout : List Field} {ms : List (String × Json)}
    (names : (ms.map (·.1)).Nodup) (known : ∀ m ∈ ms, Knows layout m.1) :
    Fields.ofMembers? layout (memberTrees ms) = some (ms.map fun (name, v) => (name, v.tree)) := by
  induction ms with
  | nil => rfl
  | cons m rest ih =>
    obtain ⟨k, v⟩ := m
    obtain ⟨hk, hrest⟩ := List.nodup_cons.1 names
    obtain ⟨f, hfind, hname⟩ := known (k, v) List.mem_cons_self
    have hnew : (rest.map fun (name, v) => (name, v.tree)).lookup k = none := by
      apply lookup_eq_none_of_not_mem
      rw [List.map_map]
      exact hk
    have hrest := ih hrest fun m hm => known m (List.mem_cons_of_mem _ hm)
    rw [memberTrees, Fields.ofMembers?, Text.whole?_placesOf, hrest]
    dsimp only
    rw [hfind]
    dsimp only
    rw [hname, hnew]
    rfl

theorem lookup_map_tree (ms : List (String × Json)) (name : String) :
    (ms.map fun (name, v) => (name, v.tree)).lookup name = (ms.lookup name).map tree := by
  induction ms with
  | nil => rfl
  | cons m rest ih =>
    obtain ⟨k, v⟩ := m
    rw [List.map_cons, List.lookup_cons, List.lookup_cons]
    split
    · rfl
    · exact ih

/-- An object of fields is read as a record that holds them. -/
theorem exists_record_ofFields {α : Type} (layout : List Field) (fields : List (String × Option Json))
    (names : (fields.map (·.1)).Nodup) (known : ∀ f ∈ fields, Knows layout f.1) (build : Fields → Option α)
    (budget : Nat) :
    ∃ fs : Fields, fs.budget = budget ∧ fs.Hold fields
      ∧ Reading.record layout build (budget + 1) (ofFields fields).tree = build fs := by
  have hpresent := ofMembers?_memberTrees (names.sublist (names_membersOf_sublist fields))
    fun m hm => known _ (mem_of_mem_membersOf hm)
  refine ⟨⟨budget, (membersOf fields).map fun (name, v) => (name, v.tree)⟩, rfl, fun name => ?_, ?_⟩
  · rw [lookup_map_tree, lookup_membersOf names]
  · change (Fields.ofMembers? layout (memberTrees (membersOf fields))).bind _ = _
    rw [hpresent]
    rfl

/-- A record is made of fields that it has one unit less of the budget for. -/
theorem exists_of_record_eq_some {α : Type} {layout : List Field} {build : Fields → Option α} {budget : Nat}
    {t : Tree} {a : α} (h : Reading.record layout build budget t = some a) :
    ∃ fs : Fields, fs.budget + 1 = budget ∧ build fs = some a := by
  unfold Reading.record at h
  split at h
  · obtain ⟨present, -, hbuild⟩ := Option.bind_eq_some_iff.1 h
    exact ⟨_, rfl, hbuild⟩
  · obtain ⟨present, -, hbuild⟩ := Option.bind_eq_some_iff.1 h
    exact ⟨_, rfl, hbuild⟩
  · cases h

theorem Fields.exists_of_required_eq_some {α : Type} {fs : Fields} {name : String} {read : Reading α} {a : α}
    (h : fs.required name read = some a) : ∃ t, read fs.budget t = some a :=
  (Option.bind_eq_some_iff.1 h).imp fun _ ht => ht.2

namespace Fields.Hold

variable {α : Type} {fs : Fields} {fields : List (String × Option Json)} {name : String} {read : Reading α}

theorem required_eq (h : fs.Hold fields) {v : Json} (hfield : fields.lookup name = some (some v)) {a : α}
    (hread : read fs.budget v.tree = some a) : fs.required name read = some a := by
  rw [Fields.required, h name, hfield]
  exact hread

theorem optional_eq (h : fs.Hold fields) {write : α → Json} {o : Option α}
    (hfield : fields.lookup name = some (o.map write))
    (hread : ∀ a ∈ o, write a ≠ .null ∧ read fs.budget (write a).tree = some a) :
    fs.optional name read = some o := by
  rw [Fields.optional, h name, hfield]
  cases o with
  | none => rfl
  | some a =>
    obtain ⟨hnull, hread⟩ := hread a rfl
    have htree : (write a).tree ≠ .null := by
      cases hwritten : write a with
      | null => exact (hnull hwritten).elim
      | _ => simp [tree]
    rw [Option.map_some, Option.join_some, Option.map_some]
    split
    · rename_i heq
      cases heq
    · rename_i heq
      exact (htree (Option.some.inj heq)).elim
    · rename_i heq
      rw [← Option.some.inj heq, hread]
      rfl

end Fields.Hold

theorem reading_text (budget : Nat) (s : String) : Reading.text budget (Json.string s).tree = some s :=
  Text.whole?_placesOf s

end SecurityEvents.Json
