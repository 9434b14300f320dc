import Mathlib.Data.List.Forall2
import SecurityEvents.Proofs.Dispatch.Services
set_option autoImplicit false

/-!
# Twins

Two acts are twins if they cannot be told apart but by what is counted as like: from settled scenes, whichever each of
them starts in, they come to the same panic or to answers that are like, they leave settled scenes behind, and what they
add to the record fits, item by item. Acts that are put together of twins are twins, so that two runs of a program are
compared step by step.
-/

namespace SecurityEvents

/-- What two acts come to is like, in these scenes. -/
structure Act.Meet {σ α : Type} (settled : σ → Prop) (record : σ → List Published)
    (fit : Published → Published → Prop) (like : α → α → Prop) (act other : Act (Issuing σ) α)
    (s t : Scene (Issuing σ)) : Prop where
  answers : Alike like (act.answer s) (other.answer t)
  settled_left : settled (act.after s).state.services
  settled_right : settled (other.after t).state.services
  records : ∃ new more, record (act.after s).state.services = record s.state.services ++ new
    ∧ record (other.after t).state.services = record t.state.services ++ more ∧ List.Forall₂ fit new more

/-- From settled scenes, what the acts come to is like. -/
def Act.Twins {σ α : Type} (settled : σ → Prop) (record : σ → List Published)
    (fit : Published → Published → Prop) (like : α → α → Prop) (act other : Act (Issuing σ) α) : Prop :=
  ∀ s t, settled s.state.services → settled t.state.services → act.Meet settled record fit like other s t

namespace Act

variable {σ α β : Type} {settled : σ → Prop} {record : σ → List Published} {fit : Published → Published → Prop}
  {like : α → α → Prop}

/-- Where neither act adds to the record, there is nothing to compare. -/
theorem meet_of_keeps {act other : Act (Issuing σ) α} {s t : Scene (Issuing σ)}
    (hanswers : Alike like (act.answer s) (other.answer t)) (hs : settled (act.after s).state.services)
    (ht : settled (other.after t).state.services)
    (hact : record (act.after s).state.services = record s.state.services)
    (hother : record (other.after t).state.services = record t.state.services) :
    act.Meet settled record fit like other s t :=
  ⟨hanswers, hs, ht, [], [], hact.trans (List.append_nil _).symm, hother.trans (List.append_nil _).symm, .nil⟩

theorem twins_pure {a b : α} (h : like a b) :
    Twins settled record fit like (pure a : Act (Issuing σ) α) (pure b) :=
  fun _ _ hs ht => meet_of_keeps (alike_ok h) hs ht rfl rfl

theorem twins_note (n : Notice) : Twins settled record fit (· = ·) (note n : Act (Issuing σ) Unit) (note n) :=
  fun _ _ hs ht => meet_of_keeps (alike_refl _) hs ht rfl rfl

theorem twins_ofExcept (answer : Except Panic α) :
    Twins settled record fit (fun a b => answer = .ok a ∧ a = b) (ofExcept answer : Act (Issuing σ) α)
      (ofExcept answer) := by
  cases answer with
  | error panic => exact fun _ _ hs ht => meet_of_keeps (alike_error panic) hs ht rfl rfl
  | ok a => exact twins_pure ⟨rfl, rfl⟩

/-- Two stamps need not have anything in common. -/
theorem twins_stamp : Twins settled record fit (fun _ _ => True) (Act.stamp : Act (Issuing σ) Stamp) Act.stamp :=
  fun _ _ hs ht => meet_of_keeps (alike_ok trivial) hs ht rfl rfl

/-- A steady service that leaves the record alone is its own twin. -/
theorem SteadyOn.twins_ofServices {act : Act σ α} (h : act.SteadyOn settled) (hrecord : act.Keeps record) :
    Twins settled record fit (· = ·) act.ofServices act.ofServices := by
  intro s t hs ht
  have hsettled (r : Scene (Issuing σ)) (hr : settled r.state.services) :
      settled (act.ofServices.after r).state.services := by
    rw [after_ofServices]
    exact h.settled_after r.services hr
  refine meet_of_keeps ?_ (hsettled s hs) (hsettled t ht) (hrecord.ofServices s) (hrecord.ofServices t)
  rw [answer_ofServices, answer_ofServices, h.answer_eq s.services t.services hs ht]
  exact alike_refl _

/-- After acts that meet, twins meet. -/
theorem Meet.bind {act other : Act (Issuing σ) α} {next next' : α → Act (Issuing σ) β} {fine : β → β → Prop}
    {s t : Scene (Issuing σ)} (h : act.Meet settled record fit like other s t)
    (hnext : ∀ a b, like a b → (next a).Twins settled record fit fine (next' b)) :
    (act >>= next).Meet settled record fit fine (other >>= next') s t := by
  obtain ⟨hanswers, hs', ht', new, more, hnew, hmore, hfit⟩ := h
  rcases hanswers with ⟨panic, hact, hother⟩ | ⟨a, b, hact, hother, hlike⟩
  · rw [← after_bind_of_error next hact] at hs' hnew
    rw [← after_bind_of_error next' hother] at ht' hmore
    have hpanics : Alike fine ((act >>= next).answer s) ((other >>= next').answer t) :=
      .inl ⟨panic, answer_bind_of_error next hact, answer_bind_of_error next' hother⟩
    exact ⟨hpanics, hs', ht', new, more, hnew, hmore, hfit⟩
  · obtain ⟨hanswers, hs'', ht'', new', more', hnew', hmore', hfit'⟩ := hnext a b hlike _ _ hs' ht'
    rw [← answer_bind_of_ok next hact, ← answer_bind_of_ok next' hother] at hanswers
    rw [← after_bind_of_ok next hact] at hs'' hnew'
    rw [← after_bind_of_ok next' hother] at ht'' hmore'
    refine ⟨hanswers, hs'', ht'', new ++ new', more ++ more', ?_, ?_, List.rel_append hfit hfit'⟩
    · rw [hnew', hnew, List.append_assoc]
    · rw [hmore', hmore, List.append_assoc]

theorem Twins.bind {act other : Act (Issuing σ) α} {next next' : α → Act (Issuing σ) β} {fine : β → β → Prop}
    (h : act.Twins settled record fit like other)
    (hnext : ∀ a b, like a b → (next a).Twins settled record fit fine (next' b)) :
    (act >>= next).Twins settled record fit fine (other >>= next') :=
  fun s t hs ht => (h s t hs ht).bind hnext

theorem Twins.caught {act other : Act (Issuing σ) α} (h : act.Twins settled record fit like other) :
    act.caught.Twins settled record fit (Alike like) other.caught := by
  intro s t hs ht
  obtain ⟨hanswers, hs', ht', hrecords⟩ := h s t hs ht
  rw [← after_caught] at hs' hrecords
  rw [← after_caught other] at ht' hrecords
  refine ⟨?_, hs', ht', hrecords⟩
  rw [answer_caught, answer_caught]
  exact alike_ok hanswers

end Act

end SecurityEvents
