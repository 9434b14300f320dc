import SecurityEvents.Encoder
import SecurityEvents.Proofs.Dispatch.Routing
set_option autoImplicit false

/-!
# What was registered last

Registries keep no history, but what they hold follows from it: for a schema and a category the last encoder that was
registered for the schema and supports the category, and for a schema the last manager. Both put one thing over
another under certain keys, which is all that `read_foldl_eq_some_iff` asks for. An encoder is put under every
category that it supports, so it displaces others there and nowhere else; a manager displaces the one before it
as a whole, whatever the two of them cover.
-/

namespace SecurityEvents

/-! ## The last of a list -/

/-- The last of the items that pass a test. -/
def IsLast {α : Type} (test : α → Prop) (xs : List α) (x : α) : Prop :=
  test x ∧ ∃ before after, xs = before ++ x :: after ∧ ∀ y ∈ after, ¬ test y

section Last

variable {α : Type} {test : α → Prop} {xs ys : List α} {x y : α}

theorem IsLast.mem (h : IsLast test xs x) : x ∈ xs := by
  obtain ⟨_, before, after, rfl, _⟩ := h
  exact List.mem_append_right before List.mem_cons_self

theorem not_isLast_nil (test : α → Prop) (x : α) : ¬ IsLast test [] x :=
  fun h => List.not_mem_nil h.mem

theorem isLast_cons_iff :
    IsLast test (y :: xs) x ↔ IsLast test xs x ∨ (x = y ∧ test y ∧ ∀ z ∈ xs, ¬ test z) := by
  constructor
  · rintro ⟨htest, before, after, hxs, hafter⟩
    cases before with
    | nil =>
      obtain ⟨rfl, rfl⟩ := List.cons.inj hxs
      exact .inr ⟨rfl, htest, hafter⟩
    | cons z before =>
      obtain ⟨rfl, rfl⟩ := List.cons.inj hxs
      exact .inl ⟨htest, before, after, rfl, hafter⟩
  · rintro (⟨htest, before, after, rfl, hafter⟩ | ⟨rfl, htest, hafter⟩)
    · exact ⟨htest, y :: before, after, rfl, hafter⟩
    · exact ⟨htest, [], xs, rfl, hafter⟩

/-- Where no two items pass the test, the order does not matter. -/
theorem isLast_iff_of_pairwise (h : xs.Pairwise fun a b => ¬ (test a ∧ test b)) :
    IsLast test xs x ↔ x ∈ xs ∧ test x := by
  refine ⟨fun hlast => ⟨hlast.mem, hlast.1⟩, fun ⟨hmem, htest⟩ => ?_⟩
  obtain ⟨before, after, rfl⟩ := List.append_of_mem hmem
  have hafter := (List.pairwise_cons.1 (List.pairwise_append.1 h).2.1).1
  exact ⟨htest, before, after, rfl, fun y hy htest' => hafter y hy ⟨htest, htest'⟩⟩

theorem isLast_append_iff :
    IsLast test (xs ++ ys) x ↔ IsLast test ys x ∨ ((∀ y ∈ ys, ¬ test y) ∧ IsLast test xs x) := by
  induction xs with
  | nil => simp [not_isLast_nil]
  | cons z rest ih =>
    rw [List.cons_append, isLast_cons_iff, ih, isLast_cons_iff, List.forall_mem_append]
    grind

theorem exists_isLast (h : ∃ x ∈ xs, test x) : ∃ x, IsLast test xs x := by
  induction xs with
  | nil => simp at h
  | cons y rest ih =>
    by_cases hrest : ∃ x ∈ rest, test x
    · exact (ih hrest).imp fun x hx => isLast_cons_iff.2 (.inl hx)
    · obtain ⟨x, hx, htest⟩ := h
      have hnone : ∀ z ∈ rest, ¬ test z := fun z hz hz' => hrest ⟨z, hz, hz'⟩
      rcases List.mem_cons.1 hx with rfl | hx
      · exact ⟨x, isLast_cons_iff.2 (.inr ⟨rfl, htest, hnone⟩)⟩
      · exact (hnone x hx htest).elim

variable [DecidablePred test] {ρ : Type} {put : ρ → α → ρ}

/-- If every item that passes the test is put over what was there, then after many of them the last one is there. -/
theorem read_foldl_eq_some_iff (read : ρ → Option α)
    (hput : ∀ r x, read (put r x) = if test x then some x else read r) (r : ρ) :
    read (xs.foldl put r) = some x ↔ IsLast test xs x ∨ ((∀ y ∈ xs, ¬ test y) ∧ read r = some x) := by
  induction xs generalizing r with
  | nil => simp [not_isLast_nil]
  | cons y rest ih =>
    rw [List.foldl_cons, ih, hput, isLast_cons_iff, List.forall_mem_cons]
    grind

theorem read_foldl_eq_none_iff (read : ρ → Option α)
    (hput : ∀ r x, read (put r x) = if test x then some x else read r) (r : ρ) :
    read (xs.foldl put r) = none ↔ (∀ y ∈ xs, ¬ test y) ∧ read r = none := by
  induction xs generalizing r with
  | nil => simp
  | cons y rest ih =>
    rw [List.foldl_cons, ih, hput, List.forall_mem_cons]
    grind

end Last

/-! ## Encoders -/

namespace Encoder

variable {σ : Type}

/-- The encoder makes the payloads of the schema for the category. -/
def Covers (e : Encoder σ) (schema : Schema) (category : Category) : Prop :=
  schema = e.schema ∧ e.supports category = true

instance (e : Encoder σ) (schema : Schema) (category : Category) : Decidable (e.Covers schema category) :=
  inferInstanceAs (Decidable (_ ∧ _))

/-- The encoders have no schema and category in common. -/
def Apart (e f : Encoder σ) : Prop :=
  ∀ schema category, ¬ (e.Covers schema category ∧ f.Covers schema category)

theorem Apart.symm {e f : Encoder σ} (h : e.Apart f) : f.Apart e :=
  fun schema category hboth => h schema category hboth.symm

/-- The encoders of different schemas have nothing in common. -/
theorem pairwise_apart_standard (config : Configuration) :
    (Schema.all.map (standard config : Schema → Encoder σ)).Pairwise Apart := by
  have hschema (s : Schema) : (standard config s : Encoder σ).schema = s := by cases s <;> rfl
  have hdistinct : Schema.all.Pairwise (· ≠ ·) := by decide
  refine List.pairwise_map.2 (hdistinct.imp fun {s t} hne schema category hboth => hne ?_)
  exact (hschema s).symm.trans (hboth.1.1.symm.trans (hboth.2.1.trans (hschema t)))

end Encoder

namespace EncoderRegistry

variable {σ : Type} {es fs gs : List (Encoder σ)} {schema : Schema} {category : Category} {e : Encoder σ}

theorem find?_register_of_covers (r : EncoderRegistry σ) (e : Encoder σ) :
    (r.register e).find? schema category = if e.Covers schema category then some e else r.find? schema category :=
  r.find?_register e schema category

/-- What a registry finds is the last encoder that was registered for it. -/
theorem find?_ofList_eq_some_iff :
    (ofList es).find? schema category = some e ↔ IsLast (·.Covers schema category) es e :=
  (read_foldl_eq_some_iff (find? · schema category) find?_register_of_covers {}).trans
    (or_iff_left fun h => nomatch h.2)

theorem find?_ofList_eq_none_iff :
    (ofList es).find? schema category = none ↔ ∀ e ∈ es, ¬ e.Covers schema category :=
  (read_foldl_eq_none_iff (find? · schema category) find?_register_of_covers {}).trans
    (and_iff_left rfl)

/-- An encoder that is found was registered. -/
theorem mem_of_find?_ofList (h : (ofList es).find? schema category = some e) : e ∈ es :=
  (find?_ofList_eq_some_iff.1 h).mem

/-! ### Pairs that have an encoder -/

theorem mem_pairs_iff {r : EncoderRegistry σ} :
    (schema, category) ∈ r.pairs ↔ (r.find? schema category).isSome = true := by
  simp [pairs, find?, Table.contains, Schema.mem_all, Category.mem_all]

theorem nodup_pairs (r : EncoderRegistry σ) : r.pairs.Nodup := by
  have hall : (Schema.all.flatMap fun s => Category.all.map fun c => (s, c)).Nodup := by decide
  exact hall.filter _

/-- A registry counts the pairs that have an encoder, each once. -/
theorem size_eq_length_pairs (r : EncoderRegistry σ) : r.size = r.pairs.length := by
  have hperm : r.encoders.keys.Perm r.pairs := by
    refine (List.perm_ext_iff_of_nodup r.encoders.nodup_keys r.nodup_pairs).2 fun (schema, category) => ?_
    rw [mem_pairs_iff]
    exact Table.mem_keys_iff
  rw [← hperm.length_eq, Table.keys, List.length_map]
  rfl

theorem mem_pairs_ofList_iff : (schema, category) ∈ (ofList es).pairs ↔ ∃ e ∈ es, e.Covers schema category := by
  rw [mem_pairs_iff, Option.isSome_iff_ne_none, ne_eq, find?_ofList_eq_none_iff]
  simp

/-- All categories of one schema, three of another and five of the third. -/
example : (standard {} : EncoderRegistry Unit).size = 22 := by decide

/-! ### Registrations that commute -/

/-- Nothing tells the registries apart. -/
structure Same (r q : EncoderRegistry σ) : Prop where
  find?_eq : ∀ schema category, r.find? schema category = q.find? schema category
  size_eq : r.size = q.size
  pairs_eq : r.pairs = q.pairs
  description_eq : r.description = q.description

theorem Same.of_find?_eq {r q : EncoderRegistry σ}
    (h : ∀ schema category, r.find? schema category = q.find? schema category) : r.Same q := by
  have hcontains : r.encoders.contains = q.encoders.contains :=
    funext fun (schema, category) => congrArg Option.isSome (h schema category)
  have hpairs : r.pairs = q.pairs := by rw [pairs, pairs, hcontains]
  refine ⟨h, ?_, hpairs, ?_⟩
  · rw [size_eq_length_pairs, size_eq_length_pairs, hpairs]
  · rw [description, description, hpairs]

/-- Registries are the same if the last encoder is the same for each schema and category. -/
theorem same_ofList (h : ∀ schema category e,
      IsLast (·.Covers schema category) es e ↔ IsLast (·.Covers schema category) fs e) :
    (ofList es).Same (ofList fs) := by
  refine .of_find?_eq fun schema category => Option.ext fun e => ?_
  rw [find?_ofList_eq_some_iff, find?_ofList_eq_some_iff, h]

/-- Encoders that have nothing in common may be registered in any order, whatever is registered before and after. -/
theorem same_of_perm (h : fs.Perm gs) (hapart : fs.Pairwise Encoder.Apart) (before after : List (Encoder σ)) :
    (ofList (before ++ (fs ++ after))).Same (ofList (before ++ (gs ++ after))) := by
  refine same_ofList fun schema category e => ?_
  have hgs : gs.Pairwise Encoder.Apart := (h.pairwise_iff Encoder.Apart.symm).1 hapart
  have hnone : (∀ f ∈ fs, ¬ f.Covers schema category) ↔ ∀ f ∈ gs, ¬ f.Covers schema category :=
    forall_congr' fun f => by rw [h.mem_iff]
  have hlast : IsLast (·.Covers schema category) fs e ↔ IsLast (·.Covers schema category) gs e := by
    rw [isLast_iff_of_pairwise (hapart.imp fun hef => hef schema category),
      isLast_iff_of_pairwise (hgs.imp fun hef => hef schema category), h.mem_iff]
  simp only [isLast_append_iff, List.forall_mem_append, hlast, hnone]

/-- The standard encoders may be registered in any order. -/
theorem same_standard_of_perm {config : Configuration}
    (h : fs.Perm (Schema.all.map (Encoder.standard config))) : (ofList fs).Same (standard config) := by
  have hapart := (h.pairwise_iff Encoder.Apart.symm).2 (Encoder.pairwise_apart_standard config)
  have hsame := same_of_perm h hapart [] []
  rwa [List.append_nil, List.append_nil] at hsame

end EncoderRegistry

/-! ## Managers -/

namespace Catalog

variable {ms : List Manager} {p : Profile} {schema : Schema} {m : Manager}

theorem get?_register (c : Catalog) (m : Manager) :
    (c.register m).managers.get? schema = if m.schema = schema then some m else c.managers.get? schema := by
  simp only [register, Table.get?_put, eq_comm]

/-- The manager of a schema is the last one that was registered for it. -/
theorem get?_ofList_eq_some_iff : (ofList ms).managers.get? schema = some m ↔ IsLast (·.schema = schema) ms m :=
  (read_foldl_eq_some_iff (fun c : Catalog => c.managers.get? schema) get?_register {}).trans
    (or_iff_left fun h => nomatch h.2)

theorem manages_ofList_iff : (ofList ms).Manages p schema m
    ↔ Schema.ofProfileName? p.name = some schema ∧ IsLast (·.schema = schema) ms m := by
  rw [← get?_ofList_eq_some_iff]
  exact ⟨fun h => ⟨h.spelled, h.registered⟩, fun h => ⟨h.1, h.2⟩⟩

theorem schemaOf_ofList_eq_some_iff : (ofList ms).schemaOf p = some schema
    ↔ Schema.ofProfileName? p.name = some schema ∧ ∃ m ∈ ms, m.schema = schema := by
  constructor
  · intro h
    obtain ⟨m, hmanages⟩ := exists_manages_of_schemaOf h
    obtain ⟨hspelled, hlast⟩ := manages_ofList_iff.1 hmanages
    exact ⟨hspelled, m, hlast.mem, hlast.1⟩
  · rintro ⟨hspelled, hregistered⟩
    obtain ⟨m, hlast⟩ := exists_isLast hregistered
    exact (manages_ofList_iff.2 ⟨hspelled, hlast⟩).schemaOf_eq

/-- What a catalog says of an event is what the last manager for the schema of the profile says. -/
theorem locate_ofList_eq_iff {eventName : String} {category : Category}
    {answer : Except Panic (Option EventMetadata)} :
    (ofList ms).locate p eventName category = answer
      ↔ (∃ schema m, Schema.ofProfileName? p.name = some schema ∧ IsLast (·.schema = schema) ms m
          ∧ m.locate eventName category = answer)
        ∨ ((ofList ms).schemaOf p = none ∧ answer = .ok none) := by
  cases hschema : (ofList ms).schemaOf p with
  | none =>
    have hnobody : ∀ schema m, Schema.ofProfileName? p.name = some schema → ¬ IsLast (·.schema = schema) ms m := by
      intro schema m hspelled hlast
      rw [(manages_ofList_iff.2 ⟨hspelled, hlast⟩).schemaOf_eq] at hschema
      cases hschema
    have hlocate : (ofList ms).locate p eventName category = .ok none := by rw [locate, hschema, Option.bind_none]
    rw [hlocate]
    constructor
    · rintro rfl
      exact .inr ⟨rfl, rfl⟩
    · rintro (⟨schema, m, hspelled, hlast, _⟩ | ⟨_, rfl⟩)
      · exact (hnobody schema m hspelled hlast).elim
      · rfl
  | some schema =>
    obtain ⟨m, hmanages⟩ := exists_manages_of_schemaOf hschema
    obtain ⟨hspelled, hlast⟩ := manages_ofList_iff.1 hmanages
    constructor
    · rintro rfl
      exact .inl ⟨schema, m, hspelled, hlast, hmanages.locate_eq.symm⟩
    · rintro (⟨schema', m', hspelled', hlast', rfl⟩ | ⟨hnone, _⟩)
      · exact (manages_ofList_iff.2 ⟨hspelled', hlast'⟩).locate_eq
      · cases hnone

end Catalog

/-- Registries hold what was registered last, whatever was registered. A registry of encoders finds the last one for
each schema and category, so that another encoder displaces it only where it makes payloads itself; it counts
the pairs that have an encoder, each once; and encoders that have nothing in common may be registered in any order.
A catalog knows the schema of a profile if a manager was registered for it, and asks the last one, also if that
one has nothing to say of the event. -/
theorem registries_hold_last :
    (∀ {σ : Type} (es : List (Encoder σ)),
      (∀ schema category e, (EncoderRegistry.ofList es).find? schema category = some e
        ↔ IsLast (·.Covers schema category) es e)
      ∧ (∀ schema category, (EncoderRegistry.ofList es).find? schema category = none
        ↔ ∀ e ∈ es, ¬ e.Covers schema category)
      ∧ (∀ (later : Encoder σ) schema category, (EncoderRegistry.ofList (es ++ [later])).find? schema category
        = if later.Covers schema category then some later else (EncoderRegistry.ofList es).find? schema category)
      ∧ (∃ pairs : List (Schema × Category), (EncoderRegistry.ofList es).size = pairs.length ∧ pairs.Nodup
        ∧ ∀ schema category, (schema, category) ∈ pairs ↔ ∃ e ∈ es, e.Covers schema category)
      ∧ ∀ fs gs later : List (Encoder σ), fs.Perm gs → fs.Pairwise Encoder.Apart →
        (EncoderRegistry.ofList (es ++ (fs ++ later))).Same (EncoderRegistry.ofList (es ++ (gs ++ later))))
    ∧ ∀ (ms : List Manager) (p : Profile),
      (∀ schema, (Catalog.ofList ms).schemaOf p = some schema
        ↔ Schema.ofProfileName? p.name = some schema ∧ ∃ m ∈ ms, m.schema = schema)
      ∧ ∀ eventName category answer, (Catalog.ofList ms).locate p eventName category = answer
        ↔ (∃ schema m, Schema.ofProfileName? p.name = some schema ∧ IsLast (·.schema = schema) ms m
            ∧ m.locate eventName category = answer)
          ∨ ((Catalog.ofList ms).schemaOf p = none ∧ answer = .ok none) := by
  refine ⟨fun {σ} es => ⟨?_, ?_, ?_, ?_, ?_⟩, fun ms p => ⟨?_, ?_⟩⟩
  · exact fun schema category e => EncoderRegistry.find?_ofList_eq_some_iff
  · exact fun schema category => EncoderRegistry.find?_ofList_eq_none_iff
  · intro later schema category
    rw [EncoderRegistry.ofList, List.foldl_append]
    exact EncoderRegistry.find?_register_of_covers _ later
  · exact ⟨_, EncoderRegistry.size_eq_length_pairs _, EncoderRegistry.nodup_pairs _,
      fun schema category => EncoderRegistry.mem_pairs_ofList_iff⟩
  · exact fun fs gs later hperm hapart => EncoderRegistry.same_of_perm hperm hapart es later
  · exact fun schema => Catalog.schemaOf_ofList_eq_some_iff
  · exact fun eventName category answer => Catalog.locate_ofList_eq_iff

end SecurityEvents
