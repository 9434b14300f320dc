import SecurityEvents.Proofs.Dispatch.Announcing
import SecurityEvents.Proofs.Dispatch.Traffic
set_option autoImplicit false

/-!
# What is recorded over a run

A dispatcher serves one event with several profiles at a time, one caller with one event after the other, or several
callers at a time. Whichever it is, all that is recorded over the run announces an event that was handed in
(`Run.exists_recorded`), as long as what others do to the services leaves the record alone.
-/

namespace SecurityEvents

/-- What happens with a dispatcher. -/
inductive Run (σ : Type) where
  /-- One event is taken to several profiles at a time. -/
  | fanOut (event : Event) (category : Category) (moves : List (Move σ))
  /-- One caller hands in one event after the other. -/
  | caller (errands : List (Errand σ))
  /-- Several callers hand in events and are served at the same time. -/
  | callers (turns : List (Turn σ))

namespace Run

variable {σ : Type}

/-- The scene after a run. -/
def after (d : Dispatcher σ) (s : Scene (Issuing σ)) : Run σ → Scene (Issuing σ)
  | .fanOut event category moves => (d.fanOut event category moves).after s
  | .caller errands => (d.performAll errands).after s
  | .callers turns => (Traffic.playAll d turns {}).after s

/-- The event is handed in, as one of the category. -/
def Asks (event : Event) (category : Category) : Run σ → Prop
  | .fanOut event' category' _ => event = event' ∧ category = category'
  | .caller errands => .dispatch event category ∈ errands
  | .callers turns => .ask event category ∈ turns

/-- Somebody else acts so on the services. -/
def Disturbs (act : Act σ Unit) : Run σ → Prop
  | .fanOut _ _ moves => .disturb act ∈ moves
  | .caller errands => .disturb act ∈ errands
  | .callers turns => .disturb act ∈ turns

end Run

/-- The occurrence is the event, as one of the category. -/
def Occurrence.IsOf (o : Occurrence) (event : Event) (category : Category) : Prop :=
  ∃ data, EventData.ofEvent event = .ok data ∧ o = ⟨event.name, category, data⟩

namespace Dispatcher

variable {σ : Type} {d : Dispatcher σ} {record : σ → List Published}
  {noted : Except Panic (Except PublishError Unit) → Bool} {fit : Published → Prop} {o : Occurrence} {p : Profile}

/-! ## Turns of a pipeline -/

/-- A pipeline among others is on its way if it would be alone, and what was encoded is for its route. -/
def OnItsWay (d : Dispatcher σ) (o : Occurrence) (p : Profile) : Phase σ → Prop
  | .reached progress => d.OnTheWay o p progress
  | .encoded route payload =>
    d.catalog.Routing o.eventName o.category p (.ok (.ok route)) ∧ d.Encodes o route.schema payload
  | .reported _ => True

theorem records_step (hb : d.Books record noted) {phase : Phase σ} (h : d.OnItsWay o p phase) :
    (d.step o p phase).Records record (d.Announces o p) (d.OnItsWay o p) := by
  have hadvance {progress : Progress σ} (hprogress : d.OnTheWay o p progress) :
      (do return Phase.reached (← d.advance o p progress) : Act (Issuing σ) (Phase σ)).Records record
        (d.Announces o p) (d.OnItsWay o p) :=
    (records_advance hb hprogress).bind fun _ hnext => Act.records_pure hnext
  cases phase with
  | reported report => exact Act.records_pure trivial
  | encoded route payload =>
    have hkeeps : (Act.stamp : Act (Issuing σ) Stamp).Keeps fun i => record i.services := fun _ => rfl
    apply hkeeps.records.bind
    intro stamp _
    exact Act.records_pure ⟨route, payload, stamp, h.1, h.2, rfl⟩
  | reached progress =>
    cases progress with
    | ended result => exact (Act.records_note _).bind fun _ _ => Act.records_pure trivial
    | entered | tokenReady => exact hadvance h
    | routed route gates =>
      cases gates with
      | cons gate rest => exact hadvance h
      | nil =>
        apply (records_encode hb o route.schema).caught.bind
        intro encoded hencoded
        rcases encoded with panic | stop | payload
        · exact Act.records_pure trivial
        · exact Act.records_pure trivial
        · exact Act.records_pure ⟨h.1, hencoded _ rfl payload rfl⟩

/-- To hand in an event records nothing, and begins pipelines of the event only. -/
theorem records_enter (hlist : d.provider.list.Keeps record) (event : Event) (category : Category) :
    (d.enter event category).Records record fit fun answer => ∀ strands, answer = .ok strands →
      ∀ x ∈ strands, x.occurrence.IsOf event category ∧ x.phase = .reached .entered := by
  refine (keeps_enter hlist.ofServices event category).records.imp (fun _ hv => hv) ?_
  rintro answer ⟨s, s', hanswer⟩ strands rfl x hx
  rw [enter_eq_afterListing] at hanswer
  rcases fails_or_panics_or_lists d event s with
    ⟨error, t, hfails⟩ | ⟨data, panic, t, hdata, hlisted⟩ | ⟨data, ps, t, hdata, hlisted⟩
  · rw [hfails.afterListing_eq] at hanswer
    cases hanswer
  · rw [afterListing_of_panic _ hdata hlisted] at hanswer
    cases hanswer
  · obtain ⟨s₁, _, heq⟩ := exists_afterListing_eq hdata hlisted
    rw [heq] at hanswer
    cases hanswer
    obtain ⟨p, _, rfl⟩ := List.mem_map.1 hx
    exact ⟨⟨data, hdata, rfl⟩, rfl⟩

/-! ## Several events -/

/-- The token announces an event that was asked about. -/
def AnnouncesAsked (d : Dispatcher σ) (asked : Event → Category → Prop) (v : Published) : Prop :=
  ∃ event category, asked event category ∧ d.AnnouncesEvent event category v

theorem records_performAll (hb : d.Books record noted) (hlist : d.provider.list.Keeps record)
    {asked : Event → Category → Prop} {errands : List (Errand σ)}
    (hasked : ∀ event category, .dispatch event category ∈ errands → asked event category)
    (hkeeps : ∀ act, .disturb act ∈ errands → act.Keeps record) :
    (d.performAll errands).Records record (d.AnnouncesAsked asked) fun _ => True := by
  induction errands with
  | nil => exact Act.records_pure trivial
  | cons errand rest ih =>
    have hrest := ih (fun event category hmem => hasked event category (List.mem_cons_of_mem errand hmem))
      fun act hmem => hkeeps act (List.mem_cons_of_mem errand hmem)
    cases errand with
    | dispatch event category =>
      apply ((records_dispatch hb hlist event category).caught.imp
        (fun v hv => ⟨event, category, hasked event category List.mem_cons_self, hv⟩) fun _ h => h).bind
      exact fun _ _ => hrest
    | disturb act =>
      exact (hkeeps act List.mem_cons_self).records_ofServices.caught.bind fun _ _ => hrest

end Dispatcher

namespace Traffic

variable {σ : Type} {d : Dispatcher σ} {record : σ → List Published}
  {noted : Except Panic (Except PublishError Unit) → Bool} {asked : Event → Category → Prop} {t : Traffic σ}

/-- Every pipeline is of an event that was asked about, and is on its way. -/
def OnItsWay (d : Dispatcher σ) (asked : Event → Category → Prop) (t : Traffic σ) : Prop :=
  ∀ x ∈ t.strands, (∃ event category, asked event category ∧ x.occurrence.IsOf event category)
    ∧ d.OnItsWay x.occurrence x.profile x.phase

theorem records_play (hb : d.Books record noted) (hlist : d.provider.list.Keeps record) (turn : Turn σ)
    (hasked : ∀ event category, turn = .ask event category → asked event category)
    (hkeeps : ∀ act, turn = .disturb act → act.Keeps record) (h : t.OnItsWay d asked) :
    (t.play d turn).Records record (d.AnnouncesAsked asked) (OnItsWay d asked) := by
  cases turn with
  | ask event category =>
    apply (Dispatcher.records_enter hlist event category).caught.bind
    intro answer hanswer
    rcases answer with panic | error | strands
    · exact Act.records_pure h
    · exact Act.records_pure h
    · apply Act.records_pure
      intro x hx
      rcases List.mem_append.1 hx with hx | hx
      · exact h x hx
      · obtain ⟨hof, hphase⟩ := hanswer _ rfl strands rfl x hx
        refine ⟨⟨event, category, hasked event category rfl, hof⟩, ?_⟩
        rw [hphase]
        trivial
  | advance place =>
    rw [play]
    cases hplace : t.strands[place]? with
    | none => exact Act.records_pure h
    | some x =>
      obtain ⟨o, p, phase⟩ := x
      obtain ⟨⟨event, category, hasked, data, hdata, rfl⟩, hphase⟩ := h _ (List.mem_of_getElem? hplace)
      apply ((Dispatcher.records_step hb hphase).imp
        (fun v hv => ⟨event, category, hasked, data, p, hdata, hv⟩) fun _ h => h).bind
      intro phase' hphase'
      apply Act.records_pure
      intro x hx
      rcases List.mem_or_eq_of_mem_set hx with hx | rfl
      · exact h x hx
      · exact ⟨⟨event, category, hasked, data, hdata, rfl⟩, hphase'⟩
  | disturb act =>
    exact (hkeeps act rfl).records_ofServices.caught.bind fun _ _ => Act.records_pure h

theorem records_playAll (hb : d.Books record noted) (hlist : d.provider.list.Keeps record) {turns : List (Turn σ)}
    (hasked : ∀ event category, .ask event category ∈ turns → asked event category)
    (hkeeps : ∀ act, .disturb act ∈ turns → act.Keeps record) (h : t.OnItsWay d asked) :
    (playAll d turns t).Records record (d.AnnouncesAsked asked) fun _ => True := by
  -- Every turn leaves all pipelines on their way, also those that began in it.
  induction turns generalizing t with
  | nil => exact Act.records_pure trivial
  | cons turn rest ih =>
    have hplay := records_play hb hlist turn
      (fun event category hturn => hasked event category (hturn ▸ List.mem_cons_self))
      (fun act hturn => hkeeps act (hturn ▸ List.mem_cons_self)) h
    apply hplay.bind
    intro t' ht'
    exact ih (fun event category hmem => hasked event category (List.mem_cons_of_mem turn hmem))
      (fun act hmem => hkeeps act (List.mem_cons_of_mem turn hmem)) ht'

end Traffic

/-- All that is recorded over a run announces an event that was handed in. -/
theorem Run.exists_recorded {σ : Type} {d : Dispatcher σ} {record : σ → List Published}
    {noted : Except Panic (Except PublishError Unit) → Bool} (hb : d.Books record noted)
    (hlist : d.provider.list.Keeps record) (run : Run σ) (hrun : ∀ act, run.Disturbs act → act.Keeps record)
    (s : Scene (Issuing σ)) :
    ∃ new, record (run.after d s).state.services = record s.state.services ++ new
      ∧ ∀ v ∈ new, d.AnnouncesAsked (fun event category => run.Asks event category) v := by
  cases run with
  | fanOut event category moves =>
    obtain ⟨new, hnew, hall⟩ :=
      (Dispatcher.records_fanOut hb hlist event category fun act hact => hrun act hact).record_after s
    exact ⟨new, hnew, fun v hv => ⟨event, category, ⟨rfl, rfl⟩, hall v hv⟩⟩
  | caller errands =>
    exact (Dispatcher.records_performAll hb hlist (fun _ _ h => h) fun act hact => hrun act hact).record_after s
  | callers turns =>
    have hnone : Traffic.OnItsWay d (fun event category => .ask event category ∈ turns) {} :=
      fun _ hx => (List.not_mem_nil hx).elim
    exact (Traffic.records_playAll hb hlist (fun _ _ h => h) (fun act hact => hrun act hact) hnone).record_after s

end SecurityEvents
