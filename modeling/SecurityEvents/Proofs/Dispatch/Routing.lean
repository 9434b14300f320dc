import SecurityEvents.Dispatch.Route
set_option autoImplicit false

/-!
# Where an event goes in a profile

`Catalog.Routing` says which route an event takes into a profile, or what there is none for, by what stands in
the catalog and in the profile: the first channel of an URI, the first event of a key in it. It says so without
looking anything up, and `routing_iff` is that the look-ups come to the same.
-/

namespace SecurityEvents

/-- The first of the items that pass a test. -/
def IsFirst {α : Type} (test : α → Prop) (xs : List α) (x : α) : Prop :=
  test x ∧ ∃ before after, xs = before ++ x :: after ∧ ∀ y ∈ before, ¬ test y

theorem find?_eq_some_iff_isFirst {α : Type} {label : α → String} {xs : List α} {text : String} {x : α} :
    xs.find? (label · == text) = some x ↔ IsFirst (label · = text) xs x := by
  simp only [List.find?_eq_some_iff_append, IsFirst, beq_iff_eq, Bool.not_eq_true',
    beq_eq_false_iff_ne, ne_eq]

theorem find?_eq_none_iff_forall_ne {α : Type} {label : α → String} {xs : List α} {text : String} :
    xs.find? (label · == text) = none ↔ ∀ x ∈ xs, label x ≠ text := by
  simp only [List.find?_eq_none, beq_iff_eq, ne_eq]

theorem IsFirst.map {α β : Type} {test : β → Prop} {f : α → β} {xs : List α} {x : α}
    (h : IsFirst (fun a => test (f a)) xs x) : IsFirst test (xs.map f) (f x) := by
  obtain ⟨hx, before, after, rfl, hbefore⟩ := h
  refine ⟨hx, before.map f, after.map f, List.map_append, ?_⟩
  intro y hy
  obtain ⟨a, ha, rfl⟩ := List.mem_map.1 hy
  exact hbefore a ha

theorem IsFirst.mem {α : Type} {test : α → Prop} {xs : List α} {x : α} (h : IsFirst test xs x) : x ∈ xs := by
  obtain ⟨_, before, after, rfl, _⟩ := h
  exact List.mem_append_right before List.mem_cons_self

/-- There is one first item with a label. -/
theorem IsFirst.unique {α : Type} {label : α → String} {xs : List α} {text : String} {x y : α}
    (hx : IsFirst (label · = text) xs x) (hy : IsFirst (label · = text) xs y) : x = y :=
  Option.some.inj ((find?_eq_some_iff_isFirst.2 hx).symm.trans (find?_eq_some_iff_isFirst.2 hy))

/-- An item with a label that no other has is the first with that label. -/
theorem isFirst_of_nodup {α : Type} (label : α → String) {xs : List α} {x : α} (h : (xs.map label).Nodup)
    (hx : x ∈ xs) : IsFirst (label · = label x) xs x := by
  obtain ⟨before, after, rfl⟩ := List.append_of_mem hx
  refine ⟨rfl, before, after, rfl, fun y hy heq => ?_⟩
  rw [List.map_append] at h
  obtain ⟨_, _, hdisjoint⟩ := List.nodup_append.1 h
  exact hdisjoint (label y) (List.mem_map_of_mem hy) (label x) (List.mem_map_of_mem List.mem_cons_self) heq

/-- Where a label occurs there is a first item with it. -/
theorem exists_isFirst {α : Type} (label : α → String) {xs : List α} {x : α} (hx : x ∈ xs) :
    ∃ y, IsFirst (label · = label x) xs y := by
  have hsome : (xs.find? (label · == label x)).isSome = true :=
    List.find?_isSome.2 ⟨x, hx, beq_iff_eq.2 rfl⟩
  obtain ⟨y, hy⟩ := Option.isSome_iff_exists.1 hsome
  exact ⟨y, find?_eq_some_iff_isFirst.1 hy⟩

theorem Profile.channel?_eq_some_iff {p : Profile} {uri : String} {channel : Channel} :
    p.channel? uri = some channel ↔ IsFirst (·.uri = uri) p.channels channel :=
  find?_eq_some_iff_isFirst

theorem Profile.channel?_eq_none_iff {p : Profile} {uri : String} :
    p.channel? uri = none ↔ ∀ channel ∈ p.channels, channel.uri ≠ uri :=
  find?_eq_none_iff_forall_ne

theorem Channel.eventUri?_eq_some_iff {channel : Channel} {key uri : String} :
    channel.eventUri? key = some uri ↔
      ∃ event, IsFirst (·.key = key) channel.events event ∧ event.uri = uri := by
  simp only [eventUri?, Option.map_eq_some_iff, find?_eq_some_iff_isFirst]

theorem Channel.eventUri?_eq_none_iff {channel : Channel} {key : String} :
    channel.eventUri? key = none ↔ ∀ event ∈ channel.events, event.key ≠ key := by
  simp only [eventUri?, Option.map_eq_none_iff, find?_eq_none_iff_forall_ne]

namespace Catalog

/-- The schema that the name of the profile spells has this manager. -/
structure Manages (c : Catalog) (p : Profile) (schema : Schema) (m : Manager) : Prop where
  spelled : Schema.ofProfileName? p.name = some schema
  registered : c.managers.get? schema = some m

/-- What there is for an event in a profile, by the first thing that is missing on the way. -/
inductive Routing (c : Catalog) (eventName : String) (category : Category) (p : Profile) :
    Except Panic (Except SkipReason Route) → Prop where
  | unsupportedSchema (h : ∀ schema m, ¬ c.Manages p schema m) :
    Routing c eventName category p (.ok (.error .unsupportedSchema))
  | panic {schema : Schema} {m : Manager} {panic : Panic} (hmanages : c.Manages p schema m)
    (hlocate : m.locate eventName category = .error panic) :
    Routing c eventName category p (.error panic)
  | noEventMetadata {schema : Schema} {m : Manager} (hmanages : c.Manages p schema m)
    (hlocate : m.locate eventName category = .ok none) :
    Routing c eventName category p (.ok (.error .noEventMetadata))
  | noChannel {schema : Schema} {m : Manager} {uri key : String} (hmanages : c.Manages p schema m)
    (hlocate : m.locate eventName category = .ok (some ⟨uri, key⟩))
    (h : ∀ channel ∈ p.channels, channel.uri ≠ uri) :
    Routing c eventName category p (.ok (.error (.noChannel uri)))
  | noEventUri {schema : Schema} {m : Manager} {uri key : String} {channel : Channel}
    (hmanages : c.Manages p schema m) (hlocate : m.locate eventName category = .ok (some ⟨uri, key⟩))
    (hchannel : IsFirst (·.uri = uri) p.channels channel) (h : ∀ event ∈ channel.events, event.key ≠ key)
    (hlogin : category.isLogin = true) :
    Routing c eventName category p (.ok (.error (.noEventUri key)))
  | byChannel {schema : Schema} {m : Manager} {uri key : String} {channel : Channel}
    (hmanages : c.Manages p schema m) (hlocate : m.locate eventName category = .ok (some ⟨uri, key⟩))
    (hchannel : IsFirst (·.uri = uri) p.channels channel) (h : ∀ event ∈ channel.events, event.key ≠ key)
    (hlogin : category.isLogin = false) :
    Routing c eventName category p (.ok (.ok ⟨schema, channel, channel.uri⟩))
  | byEvent {schema : Schema} {m : Manager} {uri key : String} {channel : Channel} {event : ChannelEvent}
    (hmanages : c.Manages p schema m) (hlocate : m.locate eventName category = .ok (some ⟨uri, key⟩))
    (hchannel : IsFirst (·.uri = uri) p.channels channel)
    (hevent : IsFirst (·.key = key) channel.events event) :
    Routing c eventName category p (.ok (.ok ⟨schema, channel, event.uri⟩))

variable {c : Catalog} {eventName : String} {category : Category} {p : Profile}

/-! ## The manager of a profile -/

theorem Manages.schemaOf_eq {schema : Schema} {m : Manager} (h : c.Manages p schema m) :
    c.schemaOf p = some schema := by
  have hcontains : c.managers.contains schema = true := by
    rw [Table.contains, h.registered]
    rfl
  rw [schemaOf, h.spelled, Option.filter_some, if_pos hcontains]

theorem Manages.locate_eq {schema : Schema} {m : Manager} (h : c.Manages p schema m) :
    c.locate p eventName category = m.locate eventName category := by
  rw [locate, h.schemaOf_eq, Option.bind_some, h.registered]

theorem exists_manages_of_schemaOf {schema : Schema} (h : c.schemaOf p = some schema) :
    ∃ m, c.Manages p schema m := by
  obtain ⟨hspelled, hcontains⟩ := Option.filter_eq_some_iff.1 h
  obtain ⟨m, hm⟩ := Option.isSome_iff_exists.1 hcontains
  exact ⟨m, hspelled, hm⟩

/-- The schema of a route is the one that the name of the profile spells. -/
theorem Routing.schema_eq {route : Route} (h : c.Routing eventName category p (.ok (.ok route))) :
    Schema.ofProfileName? p.name = some route.schema := by
  cases h with
  | byChannel hmanages | byEvent hmanages => exact hmanages.spelled

/-! ## The look-ups -/

theorem routing_ofMetadata {schema : Schema} {m : Manager} {found : EventMetadata}
    (hmanages : c.Manages p schema m) (hlocate : m.locate eventName category = .ok (some found)) :
    c.Routing eventName category p (.ok (Route.ofMetadata p schema category.addressRule found)) := by
  obtain ⟨uri, key⟩ := found
  rw [Route.ofMetadata]
  cases hfind : p.channel? uri with
  | none => exact .noChannel hmanages hlocate (Profile.channel?_eq_none_iff.1 hfind)
  | some channel =>
    have hchannel := Profile.channel?_eq_some_iff.1 hfind
    simp only [Route.eventUri?, Category.addressRule]
    cases hevents : channel.eventUri? key with
    | some eventUri =>
      obtain ⟨event, hevent, rfl⟩ := Channel.eventUri?_eq_some_iff.1 hevents
      exact .byEvent hmanages hlocate hchannel hevent
    | none =>
      have hnone := Channel.eventUri?_eq_none_iff.1 hevents
      cases hlogin : category.isLogin with
      | true => exact .noEventUri hmanages hlocate hchannel hnone hlogin
      | false => exact .byChannel hmanages hlocate hchannel hnone hlogin

/-- The look-ups find the route. -/
theorem routing_route (c : Catalog) (eventName : String) (category : Category) (p : Profile) :
    c.Routing eventName category p (c.route eventName category p) := by
  unfold route
  cases hschema : c.schemaOf p with
  | none =>
    refine .unsupportedSchema fun schema m hmanages => ?_
    rw [hmanages.schemaOf_eq] at hschema
    cases hschema
  | some schema =>
    obtain ⟨m, hmanages⟩ := exists_manages_of_schemaOf hschema
    have hlocate : c.locate p eventName category = m.locate eventName category := hmanages.locate_eq
    cases hresult : c.locate p eventName category with
    | error panic => exact .panic hmanages (hlocate ▸ hresult)
    | ok found =>
      cases found with
      | none => exact .noEventMetadata hmanages (hlocate ▸ hresult)
      | some found => exact routing_ofMetadata hmanages (hlocate ▸ hresult)

/-- The route is what the look-ups find. -/
theorem routing_iff {x : Except Panic (Except SkipReason Route)} :
    c.Routing eventName category p x ↔ c.route eventName category p = x := by
  refine ⟨fun h => ?_, fun h => h ▸ routing_route c eventName category p⟩
  cases h with
  | unsupportedSchema h =>
    cases hschema : c.schemaOf p with
    | none => rw [route, hschema]
    | some schema =>
      obtain ⟨m, hmanages⟩ := exists_manages_of_schemaOf hschema
      exact absurd hmanages (h schema m)
  | panic hmanages hlocate | noEventMetadata hmanages hlocate =>
    simp only [route, hmanages.schemaOf_eq, hmanages.locate_eq, hlocate]
  | noChannel hmanages hlocate h =>
    have hfind := Profile.channel?_eq_none_iff.2 h
    simp only [route, hmanages.schemaOf_eq, hmanages.locate_eq, hlocate, Route.ofMetadata, hfind]
  | noEventUri hmanages hlocate hchannel h hlogin | byChannel hmanages hlocate hchannel h hlogin =>
    have hfind := Profile.channel?_eq_some_iff.2 hchannel
    have hevents := Channel.eventUri?_eq_none_iff.2 h
    simp only [route, hmanages.schemaOf_eq, hmanages.locate_eq, hlocate, Route.ofMetadata, hfind,
      Route.eventUri?, hevents, Category.addressRule, hlogin]
    rfl
  | byEvent hmanages hlocate hchannel hevent =>
    have hfind := Profile.channel?_eq_some_iff.2 hchannel
    have hevents := Channel.eventUri?_eq_some_iff.2 ⟨_, hevent, rfl⟩
    simp only [route, hmanages.schemaOf_eq, hmanages.locate_eq, hlocate, Route.ofMetadata, hfind,
      Route.eventUri?, hevents]

end Catalog

end SecurityEvents
