import SecurityEvents.Proofs.Dispatch.Listing
set_option autoImplicit false

/-!
# Dispatchers that keep a log

What a dispatcher hands to its publisher is not kept anywhere by itself. A log beside its services keeps it, and
nothing else changes: `Dispatcher.logged` is such a dispatcher. Its log books the tokens, whatever the publisher is
(`Dispatcher.books_logged`), and it dispatches as the other does (`Dispatcher.mirrors_dispatch`). So what is assumed of
a view that books tokens is no restriction on the services.
-/

namespace SecurityEvents

/-! ## A log beside the services -/

/-- The services beside a log. -/
def Part.unlogged (σ : Type) : Part (σ × List Published) σ where
  get s := s.1
  set services s := (services, s.2)

/-- What the services see of a scene with a log. -/
def Scene.withoutLog {σ : Type} (s : Scene (σ × List Published)) : Scene σ :=
  ⟨s.state.1, s.notices⟩

/-- The publisher, and a log of the tokens that it is handed, if its answer is `noted`. -/
def Publisher.logged {σ : Type} (publisher : Publisher σ)
    (noted : Except Panic (Except PublishError Unit) → Bool) : Publisher (σ × List Published) where
  accepts context := (publisher.accepts context).on (.unlogged σ)
  publish token context := do
    let answer ← ((publisher.publish token context).on (.unlogged σ)).caught
    let s ← Act.state
    Act.setState (s.1, s.2 ++ if noted answer then [⟨token, context⟩] else [])
    Act.ofExcept answer

namespace Act

variable {σ α : Type}

theorem answer_on_unlogged (act : Act σ α) (s : Scene (σ × List Published)) :
    (act.on (.unlogged σ)).answer s = act.answer s.withoutLog :=
  answer_on (.unlogged σ) act s

theorem after_on_unlogged (act : Act σ α) (s : Scene (σ × List Published)) :
    (act.on (.unlogged σ)).after s
      = ⟨((act.after s.withoutLog).state, s.state.2), (act.after s.withoutLog).notices⟩ :=
  after_on (.unlogged σ) act s

/-- A service that knows nothing of the log keeps it. -/
theorem keeps_on_unlogged (act : Act σ α) : (act.on (.unlogged σ)).Keeps Prod.snd := by
  intro s
  rw [after_on_unlogged]

end Act

/-- The publisher with a log answers as the publisher, and does the same besides the log. -/
theorem Publisher.publish_logged {σ : Type} (publisher : Publisher σ)
    (noted : Except Panic (Except PublishError Unit) → Bool) (token : Token) (context : PublishContext)
    (s : Scene (σ × List Published)) :
    ((publisher.logged noted).publish token context).answer s = (publisher.publish token context).answer s.withoutLog
    ∧ ((publisher.logged noted).publish token context).after s
      = ⟨(((publisher.publish token context).after s.withoutLog).state,
          s.state.2 ++ if noted ((publisher.publish token context).answer s.withoutLog) then [⟨token, context⟩]
            else []),
        ((publisher.publish token context).after s.withoutLog).notices⟩ := by
  have hanswer := Act.answer_caught ((publisher.publish token context).on (.unlogged σ)) s
  rw [Act.answer_on_unlogged] at hanswer
  simp only [logged]
  constructor
  · rw [Act.answer_bind_of_ok _ hanswer]
    exact Act.answer_ofExcept _ _
  · rw [Act.after_bind_of_ok _ hanswer, Act.after_caught, Act.after_on_unlogged]
    exact Act.after_ofExcept _ _

/-- The gate of services beside which there is something else. -/
def Gate.on {σ τ : Type} (part : Part σ τ) (gate : Gate τ) : Gate σ where
  name := gate.name
  check input := (gate.check input).on part

/-- The encoder of services beside which there is something else. -/
def Encoder.on {σ τ : Type} (part : Part σ τ) (encoder : Encoder τ) : Encoder σ where
  schema := encoder.schema
  supports := encoder.supports
  encode category data := (encoder.encode category data).on part

/-- The table with other values. -/
def Table.map {κ α β : Type} (t : Table κ α) (f : α → β) : Table κ β where
  entries := t.entries.map fun e => (e.1, f e.2)
  nodup_keys := by
    rw [List.map_map]
    exact t.nodup_keys

theorem Table.get?_map {κ α β : Type} [DecidableEq κ] (t : Table κ α) (f : α → β) (key : κ) :
    (t.map f).get? key = (t.get? key).map f := by
  simp only [get?, map]
  induction t.entries with
  | nil => rfl
  | cons e rest ih =>
    obtain ⟨k, a⟩ := e
    simp only [List.map_cons, List.lookup_cons, ih]
    cases key == k <;> rfl

namespace Dispatcher

variable {σ : Type}

/-- The dispatcher, and a log of the tokens that its publisher is handed, if the answer is `noted`. -/
def logged (d : Dispatcher σ) (noted : Except Panic (Except PublishError Unit) → Bool) :
    Dispatcher (σ × List Published) where
  config := d.config
  provider := d.provider.on (.unlogged σ)
  catalog := d.catalog
  encoders := ⟨d.encoders.encoders.map (Encoder.on (.unlogged σ))⟩
  gates := d.gates.map (Gate.on (.unlogged σ))
  publisher := d.publisher.logged noted

variable {d : Dispatcher σ} {noted : Except Panic (Except PublishError Unit) → Bool}

theorem find?_logged (d : Dispatcher σ) (noted : Except Panic (Except PublishError Unit) → Bool) (schema : Schema)
    (category : Category) :
    (d.logged noted).encoders.find? schema category
      = (d.encoders.find? schema category).map (Encoder.on (.unlogged σ)) :=
  Table.get?_map ..

/-- The log books the tokens, whoever the services are. -/
theorem books_logged (d : Dispatcher σ) (noted : Except Panic (Except PublishError Unit) → Bool) :
    (d.logged noted).Books Prod.snd noted where
  gate gate hgate input := by
    obtain ⟨inner, _, rfl⟩ := List.mem_map.1 hgate
    exact Act.keeps_on_unlogged (inner.check input)
  encoder schema category encoder hfind data := by
    rw [find?_logged] at hfind
    obtain ⟨inner, _, rfl⟩ := Option.map_eq_some_iff.1 hfind
    exact Act.keeps_on_unlogged (inner.encode category data)
  publisher token context s := by
    obtain ⟨hanswer, hafter⟩ := d.publisher.publish_logged noted token context s
    simp only [logged, hanswer, hafter]

theorem keeps_list_logged (d : Dispatcher σ) (noted : Except Panic (Except PublishError Unit) → Bool) :
    (d.logged noted).provider.list.Keeps Prod.snd :=
  Act.keeps_on_unlogged d.provider.list

end Dispatcher

/-! ## The same without the log -/

/-- What issuing sees of a scene with a log. -/
def Scene.unlogged {σ : Type} (s : Scene (Issuing (σ × List Published))) : Scene (Issuing σ) :=
  ⟨⟨s.state.stamper, s.state.services.1⟩, s.notices⟩

/-- An act with a log answers as another does without it, and besides the log it does the same. -/
structure Act.Mirrors {σ α : Type} (act : Act (Issuing (σ × List Published)) α) (other : Act (Issuing σ) α) : Prop where
  answer_eq : ∀ s, act.answer s = other.answer s.unlogged
  after_eq : ∀ s, (act.after s).unlogged = other.after s.unlogged

namespace Act

variable {σ α β : Type}

theorem mirrors_pure (a : α) : (pure a : Act (Issuing (σ × List Published)) α).Mirrors (pure a : Act (Issuing σ) α) :=
  ⟨fun _ => rfl, fun _ => rfl⟩

theorem mirrors_note (n : Notice) :
    (note n : Act (Issuing (σ × List Published)) Unit).Mirrors (note n : Act (Issuing σ) Unit) :=
  ⟨fun _ => rfl, fun _ => rfl⟩

theorem mirrors_stamp : (stamp : Act (Issuing (σ × List Published)) Stamp).Mirrors (stamp : Act (Issuing σ) Stamp) :=
  ⟨fun _ => rfl, fun _ => rfl⟩

theorem mirrors_ofExcept (answer : Except Panic α) :
    (ofExcept answer : Act (Issuing (σ × List Published)) α).Mirrors (ofExcept answer : Act (Issuing σ) α) := by
  cases answer <;> exact ⟨fun _ => rfl, fun _ => rfl⟩

theorem Mirrors.bind {act : Act (Issuing (σ × List Published)) α} {other : Act (Issuing σ) α}
    {next : α → Act (Issuing (σ × List Published)) β} {next' : α → Act (Issuing σ) β} (h : act.Mirrors other)
    (hnext : ∀ a, (next a).Mirrors (next' a)) : (act >>= next).Mirrors (other >>= next') := by
  constructor
  · intro s
    have hanswer := h.answer_eq s
    cases ha : act.answer s with
    | error p =>
      rw [ha] at hanswer
      rw [answer_bind_of_error _ ha, answer_bind_of_error _ hanswer.symm]
    | ok a =>
      rw [ha] at hanswer
      rw [answer_bind_of_ok _ ha, answer_bind_of_ok _ hanswer.symm, (hnext a).answer_eq, h.after_eq]
  · intro s
    have hanswer := h.answer_eq s
    cases ha : act.answer s with
    | error p =>
      rw [ha] at hanswer
      rw [after_bind_of_error _ ha, after_bind_of_error _ hanswer.symm, h.after_eq]
    | ok a =>
      rw [ha] at hanswer
      rw [after_bind_of_ok _ ha, after_bind_of_ok _ hanswer.symm, (hnext a).after_eq, h.after_eq]

theorem Mirrors.caught {act : Act (Issuing (σ × List Published)) α} {other : Act (Issuing σ) α}
    (h : act.Mirrors other) : act.caught.Mirrors other.caught := by
  constructor
  · intro s
    rw [answer_caught, answer_caught, h.answer_eq]
  · intro s
    rw [after_caught, after_caught, h.after_eq]

/-- A service is the same beside a log. -/
theorem mirrors_on_unlogged (act : Act σ α) : ((act.on (.unlogged σ)).ofServices).Mirrors act.ofServices := by
  constructor
  · intro s
    rw [answer_ofServices, answer_ofServices]
    exact answer_on_unlogged act s.services
  · intro s
    rw [after_ofServices, after_ofServices, after_on_unlogged]
    rfl

end Act

namespace Dispatcher

variable {σ : Type} (d : Dispatcher σ) (noted : Except Panic (Except PublishError Unit) → Bool) (o : Occurrence)
  (p : Profile)

theorem mirrors_consult (gates : List (Gate σ)) (route : Route) :
    (consult (gates.map (Gate.on (.unlogged σ))) o p route).Mirrors (consult gates o p route) := by
  have hevaluate : (Gate.evaluate (gates.map (Gate.on (.unlogged σ))) (gateInput o p route)).ofServices.Mirrors
      (Gate.evaluate gates (gateInput o p route)).ofServices := by
    induction gates with
    | nil => exact Act.mirrors_pure _
    | cons gate rest ih =>
      rw [List.map_cons, Gate.evaluate, Gate.evaluate, Act.ofServices_bind, Act.ofServices_bind]
      apply (Act.mirrors_on_unlogged (gate.check (gateInput o p route))).bind
      intro decision
      cases decision with
      | allow => exact ih
      | deny reason => exact Act.mirrors_pure _
  apply hevaluate.bind
  intro answer
  cases answer <;> exact Act.mirrors_pure _

theorem mirrors_issue (route : Route) : ((d.logged noted).issue o p route).Mirrors (d.issue o p route) := by
  have hencode : ((d.logged noted).encode o route.schema).Mirrors (d.encode o route.schema) := by
    unfold encode
    rw [find?_logged]
    cases d.encoders.find? route.schema o.category with
    | none => exact Act.mirrors_pure _
    | some encoder =>
      apply (Act.mirrors_on_unlogged (encoder.encode o.category o.data)).bind
      intro answer
      cases answer <;> exact Act.mirrors_pure _
  apply hencode.bind
  intro encoded
  cases encoded with
  | error stop => exact Act.mirrors_pure _
  | ok payload => exact Act.mirrors_stamp.bind fun stamp => Act.mirrors_pure _

theorem mirrors_publish (route : Route) (token : Token) :
    ((d.logged noted).publish o p route token).Mirrors (d.publish o p route token) := by
  have hpublish : ((d.logged noted).publisher.publish token (context o p route)).ofServices.Mirrors
      (d.publisher.publish token (context o p route)).ofServices := by
    constructor
    · intro s
      rw [Act.answer_ofServices, Act.answer_ofServices]
      exact (d.publisher.publish_logged noted token (context o p route) s.services).1
    · intro s
      rw [Act.after_ofServices, Act.after_ofServices]
      unfold logged
      rw [(d.publisher.publish_logged noted token (context o p route) s.services).2]
      rfl
  apply hpublish.bind
  intro answer
  cases answer <;> exact Act.mirrors_pure _

theorem mirrors_serveAll (ps : List Profile) : ((d.logged noted).serveAll o ps).Mirrors (d.serveAll o ps) := by
  have hattempt (p : Profile) : ((d.logged noted).attempt o p).Mirrors (d.attempt o p) := by
    apply (Act.mirrors_ofExcept (d.catalog.route o.eventName o.category p)).bind
    intro routed
    cases routed with
    | error reason => exact Act.mirrors_pure _
    | ok route =>
      apply (mirrors_consult o p d.gates route).bind
      intro admitted
      cases admitted with
      | error stop => exact Act.mirrors_pure _
      | ok allowed =>
        apply (mirrors_issue d noted o p route).bind
        intro issued
        cases issued with
        | error stop => exact Act.mirrors_pure _
        | ok token => exact mirrors_publish d noted o p route token
  induction ps with
  | nil => exact Act.mirrors_pure _
  | cons p rest ih =>
    have hserve : ((d.logged noted).serve o p).Mirrors (d.serve o p) := by
      apply (hattempt p).caught.bind
      intro result
      exact (Act.mirrors_note _).bind fun _ => Act.mirrors_pure _
    exact hserve.bind fun report => ih.bind fun reports => Act.mirrors_pure _

/-- A dispatcher that keeps a log dispatches as it does without. -/
theorem mirrors_dispatch (event : Event) (category : Category) :
    ((d.logged noted).dispatch event category).Mirrors (d.dispatch event category) := by
  unfold dispatch
  cases EventData.ofEvent event with
  | error error => exact Act.mirrors_pure _
  | ok data =>
    apply (Act.mirrors_on_unlogged d.provider.list).bind
    intro listed
    cases listed with
    | error error => exact Act.mirrors_pure _
    | ok ps =>
      have hserved := (mirrors_serveAll d noted ⟨event.name, category, data⟩ ps).bind fun reports =>
        Act.mirrors_pure (.ok ⟨event.name, category, reports⟩ : Except Error Report)
      dsimp only
      split
      · exact (Act.mirrors_note _).bind fun _ => hserved
      · exact hserved

end Dispatcher

end SecurityEvents
