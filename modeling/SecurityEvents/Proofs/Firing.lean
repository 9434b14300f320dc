import Mathlib.Logic.Relation
import SecurityEvents.Firing
import SecurityEvents.Proofs.Dispatch.Completion
import SecurityEvents.Proofs.Handling
set_option autoImplicit false

/-!
# How an event is fired

Whatever the moves, a firing is in one of two situations (`Firing.Reached`): some handlers have answered and the others
wait, or moreover one of them has a dispatch under way. Each move leads from one of these to one of these
(`Firing.exists_play_reached`), hence so do any moves. The handlers that have answered did so one after the other
(`Handled`), and what each of them answers is what its dispatch comes to, in the scene that it finds when it begins.
-/

namespace SecurityEvents

namespace Dispatcher

variable {σ : Type} {d : Dispatcher σ} {event : Event} {category : Category} {s : Scene (Issuing σ)}

/-! ## How a dispatch begins -/

/-- An event is dropped where its data cannot be extracted, or the provider fails or panics. -/
def Drops (d : Dispatcher σ) (event : Event) (s : Scene (Issuing σ)) : Prop :=
  (∃ error, EventData.ofEvent event = .error error)
  ∨ (∃ error, d.provider.list.answer s.services = .ok (.error error))
  ∨ ∃ panic, d.provider.list.answer s.services = .error panic

theorem FailsWhole.drops {error : Error} {s' : Scene (Issuing σ)} (h : d.FailsWhole event s error s') :
    d.Drops event s := by
  cases h with
  | notExtracted hdata => exact .inl ⟨error, hdata⟩
  | notListed _ hlist => exact .inr (.inl ⟨error, (Act.eq_ok_iff.1 hlist).1⟩)

theorem not_drops {data : EventData} {ps : List Profile} {t : Scene σ}
    (hdata : EventData.ofEvent event = .ok data) (hlist : d.provider.list s.services = .ok (.ok ps) t) :
    ¬ d.Drops event s := by
  have hanswer := (Act.eq_ok_iff.1 hlist).1
  rintro (⟨error, herror⟩ | ⟨error, herror⟩ | ⟨panic, hpanic⟩)
  · cases hdata.symm.trans herror
  · cases hanswer.symm.trans herror
  · cases hanswer.symm.trans hpanic

/-- A dispatch begins with profiles to go on with, or the event is dropped and they do not matter. -/
theorem begins_or_drops (d : Dispatcher σ) (event : Event) (s : Scene (Issuing σ)) :
    (∃ data ps s₁, EventData.ofEvent event = .ok data ∧ ¬ d.Drops event s
      ∧ ∀ {α : Type} (next : EventData → List Profile → Act (Issuing σ) (Except Error α)),
        d.afterListing event next s = next data ps s₁)
    ∨ d.Drops event s ∧ ((∃ error s₁, ∀ {α : Type} (next : EventData → List Profile → Act (Issuing σ) (Except Error α)),
        d.afterListing event next s = .ok (.error error) s₁)
      ∨ ∃ panic s₁, ∀ {α : Type} (next : EventData → List Profile → Act (Issuing σ) (Except Error α)),
        d.afterListing event next s = .error panic s₁) := by
  rcases fails_or_panics_or_lists d event s with
    ⟨error, s', hfails⟩ | ⟨data, panic, t, hdata, hlist⟩ | ⟨data, ps, t, hdata, hlist⟩
  · exact .inr ⟨hfails.drops, .inl ⟨error, s', fun next => hfails.afterListing_eq next⟩⟩
  · exact .inr ⟨.inr (.inr ⟨panic, (Act.eq_error_iff.1 hlist).1⟩),
      .inr ⟨panic, _, fun next => afterListing_of_panic next hdata hlist⟩⟩
  · obtain ⟨s₁, _, hnext⟩ := exists_afterListing_eq hdata hlist
    exact .inl ⟨data, ps, s₁, hdata, not_drops hdata hlist, hnext⟩

theorem opened_eq_afterListing (d : Dispatcher σ) (event : Event) (category : Category) :
    d.opened event category = d.afterListing event fun data profiles =>
      pure (.ok (⟨event.name, category, data⟩, { waiting := profiles })) := rfl

/-- With these moves all profiles are served, and this is the report. -/
def Finishes (d : Dispatcher σ) (event : Event) (category : Category) (moves : List (Move σ)) (s : Scene (Issuing σ))
    (report : Report) : Prop :=
  ∃ f, (d.fanOut event category moves).answer s = .ok (.ok f) ∧ f.isDone = true
    ∧ report = ⟨event.name, category, f.reports⟩

/-- An event that is dropped is not taken to any profile. -/
theorem Drops.answer_fanOut_ne (h : d.Drops event s) (category : Category) (moves : List (Move σ)) (f : FanOut σ) :
    (d.fanOut event category moves).answer s ≠ .ok (.ok f) := by
  intro hf
  rcases d.begins_or_drops event s with
    ⟨_, _, _, _, hkept, _⟩ | ⟨_, ⟨error, s₁, hnext⟩ | ⟨panic, s₁, hnext⟩⟩
  · exact hkept h
  · cases (Act.eq_ok_iff.1 (hnext _)).1.symm.trans hf
  · cases (Act.eq_error_iff.1 (hnext _)).1.symm.trans hf

/-- A fan-out goes on with one more move. -/
theorem fanOut_concat {data : EventData} (hdata : EventData.ofEvent event = .ok data) {moves : List (Move σ)}
    {move : Move σ} {f f' : FanOut σ} {s' s'' : Scene (Issuing σ)}
    (hfanOut : d.fanOut event category moves s = .ok (.ok f) s')
    (hplay : f.play d ⟨event.name, category, data⟩ move s' = .ok f' s'') :
    d.fanOut event category (moves ++ [move]) s = .ok (.ok f') s'' := by
  rcases d.begins_or_drops event s with ⟨_, ps, s₁, hsame, _, hnext⟩ | ⟨hdrops, _⟩
  · cases hdata.symm.trans hsame
    rw [fanOut_eq_afterListing, hnext] at hfanOut ⊢
    obtain ⟨g, s₂, hmoves, hend⟩ := Act.bind_eq_ok_iff.1 hfanOut
    cases hend
    rw [FanOut.playAll_append, bind_assoc, Act.bind_of_ok _ hmoves, FanOut.playAll, bind_assoc, Act.bind_of_ok _ hplay]
    rfl
  · exact (hdrops.answer_fanOut_ne category moves f (Act.eq_ok_iff.1 hfanOut).1).elim

end Dispatcher

/-! ## How a handler begins -/

namespace Handler

variable {σ : Type} {c : Classifier} {event : Event}

/-- A handler that takes an event opens a dispatch. If the event is dropped it has its answer at once, which is that of
a handler that serves one profile after the other. -/
theorem exists_enter_eq {category : Category} (h : c.classify event = .ok (some category)) (d : Dispatcher σ)
    (s : Scene (Issuing σ)) :
    (∃ data ps s₁, EventData.ofEvent event = .ok data
      ∧ enter c d event s = .ok (Handling.underWay ⟨event.name, category, data⟩ { waiting := ps }).settled s₁
      ∧ ∀ {α : Type} (next : EventData → List Profile → Act (Issuing σ) (Except Error α)),
        d.afterListing event next s = next data ps s₁)
    ∨ d.Drops event s ∧ ∃ s₁, enter c d event s = .ok (.answered none) s₁
      ∧ (dispatching c d).handle event s = .ok none s₁
      ∧ s₁.state = ((d.fanOut event category []).after s).state := by
  simp only [enter, dispatching, classified, h, pure_bind, Dispatcher.opened_eq_afterListing,
    Dispatcher.dispatch_eq_afterListing, Dispatcher.fanOut_eq_afterListing]
  rcases d.begins_or_drops event s with
    ⟨data, ps, s₁, hdata, _, hnext⟩ | ⟨hdrops, ⟨error, s₁, hnext⟩ | ⟨panic, s₁, hnext⟩⟩
  · refine .inl ⟨data, ps, s₁, hdata, ?_, hnext⟩
    rw [Act.bind_of_ok _ (Act.caught_of_ok (hnext _))]
    rfl
  · refine .inr ⟨hdrops, (Act.note (.dropped c.name)).after s₁, ?_, ?_, ?_⟩
    · rw [Act.bind_of_ok _ (Act.caught_of_ok (hnext _))]
      rfl
    · rw [Act.bind_of_ok _ (Act.caught_of_ok (hnext _))]
      rfl
    · rw [(Act.eq_ok_iff.1 (hnext _)).2]
      rfl
  · refine .inr ⟨hdrops, (Act.note (.dispatchPanicked c.name)).after s₁, ?_, ?_, ?_⟩
    · rw [Act.bind_of_ok _ (Act.caught_of_error (hnext _))]
      rfl
    · rw [Act.bind_of_ok _ (Act.caught_of_error (hnext _))]
      rfl
    · rw [(Act.eq_error_iff.1 (hnext _)).2]
      rfl

end Handler

/-! ## Handlers that have answered -/

section Handled

variable {σ : Type}

/-- Others have acted on the services. -/
def Meanwhile (others : Act σ Unit → Prop) : Scene (Issuing σ) → Scene (Issuing σ) → Prop :=
  Relation.ReflTransGen fun s t => ∃ act, others act ∧ act.ofServices.after s = t

/-- Handlers, each a classifier with its dispatcher, have handled an event one after the other, while others acted on
the services. Each of them has a category for the event and one entry in the results. In the scene in which it began it
has nothing to answer if the event is dropped, and otherwise it answers what its dispatch came to. -/
inductive Handled (event : Event) (others : Act σ Unit → Prop) (s : Scene (Issuing σ)) :
    List (Classifier × Dispatcher σ) → List (String × Option Report) → Scene (Issuing σ) → Prop where
  | nil : Handled event others s [] [] s
  | snoc {hooks : List (Classifier × Dispatcher σ)} {results : List (String × Option Report)} {c : Classifier}
    {d : Dispatcher σ} {category : Category} {moves : List (Move σ)} {entry : Option Report}
    {s₁ s₂ s₃ : Scene (Issuing σ)}
    (hbefore : Handled event others s hooks results s₁)
    (hmeanwhile : Meanwhile others s₁ s₂)
    (hcategory : c.classify event = .ok (some category))
    (hmoves : ∀ act, .disturb act ∈ moves → others act)
    (hdropped : entry = none ↔ d.Drops event s₂)
    (hreported : ∀ report, entry = some report ↔ d.Finishes event category moves s₂ report)
    (hstate : s₃.state = ((d.fanOut event category moves).after s₂).state) :
    Handled event others s (hooks ++ [(c, d)]) (results ++ [(c.name, entry)]) s₃

variable {event : Event} {others : Act σ Unit → Prop} {s s' : Scene (Issuing σ)}
  {hooks : List (Classifier × Dispatcher σ)} {results : List (String × Option Report)}

/-- The entries are those of the handlers, in their order. -/
theorem Handled.map_fst_eq (h : Handled event others s hooks results s') :
    results.map (·.1) = hooks.map (·.1.name) := by
  induction h with
  | nil => rfl
  | snoc _ _ _ _ _ _ _ ih =>
    rw [List.map_append, List.map_append, ih]
    rfl

end Handled

namespace Firing

variable {σ : Type} {event : Event} {others : Act σ Unit → Prop} {hooks : List (Classifier × Dispatcher σ)}
  {s s' : Scene (Issuing σ)} {f : Firing σ}

/-! ## What is reached -/

/-- How far a firing has come: some handlers have answered and the others wait, or moreover one of them has a dispatch
under way. -/
inductive Reached (event : Event) (others : Act σ Unit → Prop) (hooks : List (Classifier × Dispatcher σ))
    (s : Scene (Issuing σ)) : Firing σ → Scene (Issuing σ) → Prop where
  | between {handled waiting : List (Classifier × Dispatcher σ)} {results : List (String × Option Report)}
    {s₁ s' : Scene (Issuing σ)}
    (hhooks : hooks = handled ++ waiting) (hhandled : Handled event others s handled results s₁)
    (hmeanwhile : Meanwhile others s₁ s') : Reached event others hooks s ⟨waiting, none, results⟩ s'
  | within {handled waiting : List (Classifier × Dispatcher σ)} {results : List (String × Option Report)}
    {c : Classifier} {d : Dispatcher σ} {category : Category} {data : EventData} {moves : List (Move σ)}
    {fanOut : FanOut σ} {s₁ s₂ s' : Scene (Issuing σ)}
    (hhooks : hooks = handled ++ (c, d) :: waiting) (hhandled : Handled event others s handled results s₁)
    (hmeanwhile : Meanwhile others s₁ s₂) (hcategory : c.classify event = .ok (some category))
    (hdata : EventData.ofEvent event = .ok data) (hmoves : ∀ act, .disturb act ∈ moves → others act)
    (hfanOut : d.fanOut event category moves s₂ = .ok (.ok fanOut) s') (hbusy : fanOut.isDone = false) :
    Reached event others hooks s ⟨waiting, some ⟨c, d, ⟨event.name, category, data⟩, fanOut⟩, results⟩ s'

/-- Where a dispatch has come to, its handler has answered or is under way. -/
theorem reached_of_fanOut {handled waiting : List (Classifier × Dispatcher σ)}
    {results : List (String × Option Report)} {c : Classifier} {d : Dispatcher σ} {category : Category}
    {data : EventData} {moves : List (Move σ)} {fanOut : FanOut σ} {s₁ s₂ : Scene (Issuing σ)} (task : Option (Task σ))
    (hhooks : hooks = handled ++ (c, d) :: waiting) (hhandled : Handled event others s handled results s₁)
    (hmeanwhile : Meanwhile others s₁ s₂) (hcategory : c.classify event = .ok (some category))
    (hdata : EventData.ofEvent event = .ok data) (hmoves : ∀ act, .disturb act ∈ moves → others act)
    (hfanOut : d.fanOut event category moves s₂ = .ok (.ok fanOut) s') :
    Reached event others hooks s (Firing.reach ⟨waiting, task, results⟩ c d
      (Handling.underWay ⟨event.name, category, data⟩ fanOut).settled) s' := by
  cases hdone : fanOut.isDone with
  | false =>
    rw [Handling.settled, hdone]
    exact .within hhooks hhandled hmeanwhile hcategory hdata hmoves hfanOut hdone
  | true =>
    obtain ⟨hanswer, hafter⟩ := Act.eq_ok_iff.1 hfanOut
    have hkept : ¬ d.Drops event s₂ := fun hdrops => hdrops.answer_fanOut_ne category moves fanOut hanswer
    have hhandled' : Handled event others s (handled ++ [(c, d)])
        (results ++ [(c.name, some ⟨event.name, category, fanOut.reports⟩)]) s' := by
      refine .snoc hhandled hmeanwhile hcategory hmoves (iff_of_false nofun hkept) (fun report => ?_) ?_
      · rw [Option.some.injEq]
        constructor
        · rintro rfl
          exact ⟨fanOut, hanswer, hdone, rfl⟩
        · rintro ⟨other, hother, _, rfl⟩
          cases hanswer.symm.trans hother
          rfl
      · rw [hafter]
    rw [Handling.settled, hdone]
    exact .between (hhooks.trans (List.append_cons handled (c, d) waiting)) hhandled' .refl

/-- A move leads on. -/
theorem exists_play_reached (haccept : ∀ h ∈ hooks, h.1.accepts event = true) (h : Reached event others hooks s f s')
    {move : Move σ} (hmove : ∀ act, move = .disturb act → others act) :
    ∃ f' s'', f.play event move s' = .ok f' s'' ∧ Reached event others hooks s f' s'' := by
  have hnone : ∀ act : Act σ Unit, .disturb act ∈ ([] : List (Move σ)) → others act :=
    fun _ hact => (List.not_mem_nil hact).elim
  cases h with
  | @between handled waiting results s₁ _ hhooks hhandled hmeanwhile =>
    cases move with
    | advance place => exact ⟨_, s', rfl, .between hhooks hhandled hmeanwhile⟩
    | disturb act =>
      obtain ⟨answer, s₂, hcaught⟩ := Act.exists_caught_eq_ok act.ofServices s'
      refine ⟨_, s₂, Act.bind_of_ok _ hcaught, .between hhooks hhandled (hmeanwhile.tail ⟨act, hmove act rfl, ?_⟩)⟩
      rw [← Act.after_caught, (Act.eq_ok_iff.1 hcaught).2]
    | start =>
      cases waiting with
      | nil => exact ⟨_, s', rfl, .between hhooks hhandled hmeanwhile⟩
      | cons h waiting =>
        obtain ⟨c, d⟩ := h
        have hmem : (c, d) ∈ hooks := by
          rw [hhooks]
          exact List.mem_append_cons_self
        obtain ⟨category, hcategory⟩ := Area.accepts_iff.1 (haccept _ hmem)
        rcases Handler.exists_enter_eq hcategory d s' with
          ⟨data, ps, s₂, hdata, henter, hnext⟩ | ⟨hdrops, s₂, henter, _, hstate⟩
        · exact ⟨_, s₂, Act.bind_of_ok _ henter,
            reached_of_fanOut none hhooks hhandled hmeanwhile hcategory hdata hnone (hnext _)⟩
        · have hhandled' : Handled event others s (handled ++ [(c, d)]) (results ++ [(c.name, none)]) s₂ :=
            .snoc hhandled hmeanwhile hcategory hnone (iff_of_true rfl hdrops)
              (fun report => iff_of_false nofun fun ⟨f, hf, _⟩ => hdrops.answer_fanOut_ne category [] f hf) hstate
          exact ⟨_, s₂, Act.bind_of_ok _ henter,
            .between (hhooks.trans (List.append_cons handled (c, d) waiting)) hhandled' .refl⟩
  | @within handled waiting results c d category data moves fanOut s₁ s₂ _ hhooks hhandled hmeanwhile hcategory hdata
      hmoves hfanOut hbusy =>
    obtain ⟨fanOut', s₃, hplay, _⟩ := FanOut.exists_play_nearer d ⟨event.name, category, data⟩ fanOut move s'
    refine ⟨_, s₃, Act.bind_of_ok _ hplay, reached_of_fanOut _ hhooks hhandled hmeanwhile hcategory hdata
      (fun act hact => ?_) (Dispatcher.fanOut_concat hdata hfanOut hplay)⟩
    rcases List.mem_append.1 hact with hact | hact
    · exact hmoves act hact
    · exact hmove act (List.mem_singleton.1 hact).symm

/-- Moves lead on. -/
theorem exists_playAll_reached (haccept : ∀ h ∈ hooks, h.1.accepts event = true)
    (h : Reached event others hooks s f s') {moves : List (Move σ)}
    (hmoves : ∀ act, .disturb act ∈ moves → others act) :
    ∃ f' s'', playAll event moves f s' = .ok f' s'' ∧ Reached event others hooks s f' s'' := by
  induction moves generalizing f s' with
  | nil => exact ⟨f, s', rfl, h⟩
  | cons move rest ih =>
    obtain ⟨f₁, s₁, hplay, hreached⟩ :=
      exists_play_reached haccept h fun act hact => hmoves act (hact ▸ List.mem_cons_self)
    obtain ⟨f₂, s₂, hrest, hend⟩ := ih hreached fun act hact => hmoves act (List.mem_cons_of_mem move hact)
    exact ⟨f₂, s₂, (Act.bind_of_ok _ hplay).trans hrest, hend⟩

/-- Nobody has a dispatch under way that has served all profiles. -/
theorem Reached.isDone_eq_false (h : Reached event others hooks s f s') {task : Task σ} (htask : f.task = some task) :
    task.fanOut.isDone = false := by
  cases h with
  | between _ _ _ => cases htask
  | within _ _ _ _ _ _ _ hbusy =>
    cases htask
    exact hbusy

/-- When it is done, all handlers have answered. -/
theorem Reached.exists_handled (h : Reached event others hooks s f s') (hdone : f.isDone = true) :
    ∃ s₁, Handled event others s hooks f.results s₁ ∧ Meanwhile others s₁ s' := by
  rw [isDone, Bool.and_eq_true, List.isEmpty_iff] at hdone
  cases h with
  | @between handled waiting results s₁ _ hhooks hhandled hmeanwhile =>
    obtain rfl : waiting = [] := hdone.1
    rw [hhooks, List.append_nil]
    exact ⟨s₁, hhandled, hmeanwhile⟩
  | within => cases hdone.2

/-- At the beginning no handler has answered. -/
theorem reached_waiting (event : Event) (others : Act σ Unit → Prop) (hooks : List (Classifier × Dispatcher σ))
    (s : Scene (Issuing σ)) : Reached event others hooks s { waiting := hooks } s :=
  .between rfl .nil .refl

/-- First the handlers are asked, and then those that take the event handle it. -/
theorem exists_run_reached (event : Event) (hooks : List (Classifier × Dispatcher σ)) (s : Scene (Issuing σ)) :
    ∃ s₁ : Scene (Issuing σ), s₁.state = s.state ∧ ∀ moves, ∃ f s', run event hooks moves s = .ok f s'
      ∧ Reached event (fun act => .disturb act ∈ moves) (hooks.filter fun h => h.1.accepts event) s₁ f s' := by
  refine ⟨⟨s.state, s.notices ++ Classifier.declined event (hooks.map (·.1))⟩, rfl, fun moves => ?_⟩
  obtain ⟨f, s', hplay, hreached⟩ :=
    exists_playAll_reached (fun h hh => (List.mem_filter.1 hh).2) (reached_waiting event _ _ _) fun _ hact => hact
  exact ⟨f, s', (Act.bind_of_ok _ (takers_eq event hooks s)).trans hplay, hreached⟩

end Firing

end SecurityEvents
