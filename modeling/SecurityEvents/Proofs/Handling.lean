import SecurityEvents.Firing
import SecurityEvents.Proofs.Classification
import SecurityEvents.Proofs.Dispatch.Decision
set_option autoImplicit false

/-!
# How an event is handled

The handlers of a table that take an event are those whose classifiers accept it, in the order of the table:
`takers_dispatching` says so for handlers that dispatch, and what is noted meanwhile. Those handle the event one after
the other (`fire_dispatching`), and none of them panics.
-/

namespace SecurityEvents

/-- What is noted when classifiers are asked about an event. -/
def Classifier.declined (event : Event) (cs : List Classifier) : List Notice :=
  cs.filterMap fun c =>
    match c.classify event with
    | .ok _ => none
    | .error _ => some (.unclassified c.name)

namespace Handler

variable {σ : Type} {event : Event}

/-- A classifier is asked, and nothing else happens but a notice. -/
theorem takes_dispatching (c : Classifier) (d : Dispatcher σ) (event : Event) (s : Scene (Issuing σ)) :
    (dispatching c d).takes event s
      = .ok (c.accepts event) { s with notices := s.notices ++ Classifier.declined event [c] } := by
  simp only [dispatching, classified, Classifier.accepts, Classifier.declined, List.filterMap_cons,
    List.filterMap_nil]
  cases c.classify event with
  | error cause => rfl
  | ok category =>
    have hnone : s.notices ++ [] = s.notices := List.append_nil _
    cases category <;> simp only [hnone] <;> rfl

/-- What a handler answers for what a dispatch came to. -/
def entry : Except Panic (Except Error Report) → Option Report
  | .ok (.ok report) => some report
  | _ => none

/-- A handler dispatches what it takes, and whatever comes of it, it answers. -/
theorem exists_handle_eq {c : Classifier} {event : Event} {category : Category}
    (h : c.classify event = .ok (some category)) (d : Dispatcher σ) (s : Scene (Issuing σ)) :
    ∃ s', (dispatching c d).handle event s = .ok (entry ((d.dispatch event category).answer s)) s'
      ∧ s'.state = ((d.dispatch event category).after s).state := by
  have hcaught := Act.eq_ok_iff.2 ⟨Act.answer_caught (d.dispatch event category) s, rfl⟩
  simp only [dispatching, classified, h, pure_bind]
  rw [Act.bind_of_ok _ hcaught, Act.after_caught]
  cases (d.dispatch event category).answer s with
  | error panic => exact ⟨_, rfl, rfl⟩
  | ok result => cases result <;> exact ⟨_, rfl, rfl⟩

/-- A handler that does not take an event answers nothing, and at once. Its dispatcher does not matter, nor does any
service. -/
theorem exists_decline_eq {c : Classifier} (h : c.accepts event = false) :
    ∃ notice, ∀ (d : Dispatcher σ) (s : Scene (Issuing σ)),
      (dispatching c d).handle event s = .ok none ⟨s.state, s.notices ++ [notice]⟩
      ∧ enter c d event s = .ok (.answered none) ⟨s.state, s.notices ++ [notice]⟩ := by
  unfold Classifier.accepts at h
  simp only [dispatching, enter, classified]
  cases hclassify : c.classify event with
  | error cause => exact ⟨.unclassified c.name, fun _ _ => ⟨rfl, rfl⟩⟩
  | ok answer =>
    cases answer with
    | none => exact ⟨.notHandled c.name, fun _ _ => ⟨rfl, rfl⟩⟩
    | some category =>
      rw [hclassify] at h
      cases h

/-- A handler that dispatches does not panic. -/
theorem exists_answer_dispatching (c : Classifier) (d : Dispatcher σ) (event : Event) (s : Scene (Issuing σ)) :
    ∃ report, ((dispatching c d).handle event).answer s = .ok report := by
  cases haccepts : c.accepts event with
  | true =>
    obtain ⟨category, hcategory⟩ := Area.accepts_iff.1 haccepts
    obtain ⟨s', hhandle, _⟩ := exists_handle_eq hcategory d s
    exact ⟨_, (Act.eq_ok_iff.1 hhandle).1⟩
  | false =>
    obtain ⟨notice, hhandle⟩ := exists_decline_eq haccepts
    exact ⟨none, (Act.eq_ok_iff.1 (hhandle d s).1).1⟩

end Handler

/-- Those handlers take an event whose classifiers accept it. They are asked in their order, and nothing else happens
but notices. -/
theorem Firing.takers_eq {σ : Type} (event : Event) (hooks : List (Classifier × Dispatcher σ)) (s : Scene (Issuing σ)) :
    Firing.takers event hooks s = .ok (hooks.filter fun h => h.1.accepts event)
      { s with notices := s.notices ++ Classifier.declined event (hooks.map (·.1)) } := by
  induction hooks generalizing s with
  | nil =>
    have hnotices : s.notices ++ Classifier.declined event [] = s.notices := List.append_nil _
    simp only [List.map_nil, List.filter_nil, hnotices]
    rfl
  | cons h rest ih =>
    have hnotices : Classifier.declined event (h.1 :: rest.map (·.1))
        = Classifier.declined event [h.1] ++ Classifier.declined event (rest.map (·.1)) :=
      List.filterMap_append (l := [h.1])
    rw [takers, Act.bind_of_ok _ (Handler.takes_dispatching h.1 h.2 event s), Act.bind_of_ok _ (ih _), List.map_cons,
      hnotices, List.append_assoc, List.filter_cons]
    cases h.1.accepts event <;> rfl

namespace HandlerTable

variable {σ : Type}

theorem takers_map (event : Event) (hooks : List (Classifier × Dispatcher σ)) :
    takers event (hooks.map fun h => Handler.dispatching h.1 h.2)
      = (List.map fun h => Handler.dispatching h.1 h.2) <$> Firing.takers event hooks := by
  induction hooks with
  | nil => rfl
  | cons h rest ih =>
    simp only [List.map_cons, takers, ih, Firing.takers, map_eq_pure_bind, bind_assoc, pure_bind]
    refine bind_congr fun taken => bind_congr fun others => ?_
    cases taken <;> rfl

/-- Those handlers take an event whose classifiers accept it. -/
theorem takers_dispatching (event : Event) (hooks : List (Classifier × Dispatcher σ))
    (s : Scene (Issuing σ)) :
    takers event (hooks.map fun h => Handler.dispatching h.1 h.2) s
      = .ok ((hooks.filter fun h => h.1.accepts event).map fun h => Handler.dispatching h.1 h.2)
          { s with notices := s.notices ++ Classifier.declined event (hooks.map (·.1)) } := by
  rw [takers_map]
  exact Act.map_of_ok _ (Firing.takers_eq event hooks s)

/-- To fire an event is to have it handled by those that take it. -/
theorem fire_dispatching (event : Event) (hooks : List (Classifier × Dispatcher σ))
    (s : Scene (Issuing σ)) :
    (HandlerTable.mk (hooks.map fun h => Handler.dispatching h.1 h.2)).fire event s
      = handleAll event
          ((hooks.filter fun h => h.1.accepts event).map fun h => Handler.dispatching h.1 h.2)
          { s with notices := s.notices ++ Classifier.declined event (hooks.map (·.1)) } := by
  rw [fire, handlersFor, Act.bind_of_ok _ (takers_dispatching event hooks s)]

end HandlerTable

end SecurityEvents
