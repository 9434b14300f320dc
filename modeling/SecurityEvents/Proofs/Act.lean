import SecurityEvents.Dispatch.Dispatcher
set_option autoImplicit false

/-!
# Answers of acts

An act that is run in a scene has an answer, which may be a panic, and leaves a scene behind. Both are
functions of the scene: `Act.answer` and `Act.after`. The lemmas here say what they are for acts that are put
together, so that later proofs never look into the monad.

Two things are said of an act as a whole: that it keeps a view of the state (`Act.Keeps`), and that its answer
does not depend on the scene, as long as the state is settled (`Act.SteadyOn`). The answers of two acts are compared by
`Alike`: they are the same panic, or both go well.
-/

namespace SecurityEvents

namespace Act

variable {σ α β : Type}

/-- The answer of an act in a scene, a panic included. -/
def answer (act : Act σ α) (s : Scene σ) : Except Panic α :=
  match act s with
  | .ok a _ => .ok a
  | .error p _ => .error p

/-- The scene after an act, also after one that panicked. -/
def after (act : Act σ α) (s : Scene σ) : Scene σ :=
  match act s with
  | .ok _ s' => s'
  | .error _ s' => s'

theorem eq_ok_iff {act : Act σ α} {s s' : Scene σ} {a : α} :
    act s = .ok a s' ↔ act.answer s = .ok a ∧ act.after s = s' := by
  unfold answer after
  cases act s <;> simp

theorem eq_error_iff {act : Act σ α} {s s' : Scene σ} {p : Panic} :
    act s = .error p s' ↔ act.answer s = .error p ∧ act.after s = s' := by
  unfold answer after
  cases act s <;> simp

/-! ## Acts that are put together -/

@[simp] theorem answer_pure (a : α) (s : Scene σ) : (pure a : Act σ α).answer s = .ok a := rfl

@[simp] theorem after_pure (a : α) (s : Scene σ) : (pure a : Act σ α).after s = s := rfl

@[simp] theorem answer_panic (p : Panic) (s : Scene σ) : (panic p : Act σ α).answer s = .error p := rfl

@[simp] theorem after_panic (p : Panic) (s : Scene σ) : (panic p : Act σ α).after s = s := rfl

@[simp] theorem answer_note (n : Notice) (s : Scene σ) : (note n : Act σ Unit).answer s = .ok () := rfl

@[simp] theorem after_note (n : Notice) (s : Scene σ) :
    (note n : Act σ Unit).after s = { s with notices := s.notices ++ [n] } := rfl

@[simp] theorem answer_ofExcept (answer : Except Panic α) (s : Scene σ) :
    (ofExcept answer).answer s = answer := by
  cases answer <;> rfl

@[simp] theorem after_ofExcept (answer : Except Panic α) (s : Scene σ) :
    (ofExcept answer).after s = s := by
  cases answer <;> rfl

@[simp] theorem answer_caught (act : Act σ α) (s : Scene σ) :
    act.caught.answer s = .ok (act.answer s) := by
  simp only [answer, caught]
  cases act s <;> rfl

@[simp] theorem after_caught (act : Act σ α) (s : Scene σ) : act.caught.after s = act.after s := by
  simp only [after, caught]
  cases act s <;> rfl

theorem caught_of_ok {act : Act σ α} {s s' : Scene σ} {a : α} (h : act s = .ok a s') :
    act.caught s = .ok (.ok a) s' := by
  simp only [caught, h]

theorem caught_of_error {act : Act σ α} {s s' : Scene σ} {p : Panic} (h : act s = .error p s') :
    act.caught s = .ok (.error p) s' := by
  simp only [caught, h]

theorem bind_of_ok {act : Act σ α} {s s' : Scene σ} {a : α} (next : α → Act σ β)
    (h : act s = .ok a s') : (act >>= next) s = next a s' := by
  simp only [bind, EStateM.bind, h]

theorem bind_of_error {act : Act σ α} {s s' : Scene σ} {p : Panic} (next : α → Act σ β)
    (h : act s = .error p s') : (act >>= next) s = .error p s' := by
  simp only [bind, EStateM.bind, h]

/-- Two acts in a row answer exactly if the first one does, and then the second one where the first has left off. -/
theorem bind_eq_ok_iff {act : Act σ α} {next : α → Act σ β} {s s' : Scene σ} {b : β} :
    (act >>= next) s = .ok b s' ↔ ∃ a s₁, act s = .ok a s₁ ∧ next a s₁ = .ok b s' := by
  cases h : act s with
  | ok a s₁ =>
    rw [bind_of_ok next h]
    exact ⟨fun hnext => ⟨a, s₁, rfl, hnext⟩, by rintro ⟨_, _, ⟨⟩, hnext⟩; exact hnext⟩
  | error p s₁ =>
    rw [bind_of_error next h]
    exact ⟨by rintro ⟨⟩, by rintro ⟨_, _, ⟨⟩, _⟩⟩

theorem map_of_ok {act : Act σ α} {s s' : Scene σ} {a : α} (f : α → β) (h : act s = .ok a s') :
    (f <$> act) s = .ok (f a) s' := by
  simp only [Functor.map, EStateM.map, h]

theorem answer_map (f : α → β) (act : Act σ α) (s : Scene σ) : (f <$> act).answer s = f <$> act.answer s := by
  simp only [answer, Functor.map, EStateM.map]
  cases act s <;> rfl

theorem after_map (f : α → β) (act : Act σ α) (s : Scene σ) : (f <$> act).after s = act.after s := by
  simp only [after, Functor.map, EStateM.map]
  cases act s <;> rfl

theorem map_eq_of_eq {act act' : Act σ α} {s s' : Scene σ} (f : α → β) (h : act s = act' s') :
    (f <$> act) s = (f <$> act') s' := by
  simp only [Functor.map, EStateM.map, h]

theorem answer_bind_of_ok {act : Act σ α} {s : Scene σ} {a : α} (next : α → Act σ β)
    (h : act.answer s = .ok a) : (act >>= next).answer s = (next a).answer (act.after s) := by
  obtain ⟨s', hs⟩ : ∃ s', act s = .ok a s' := ⟨_, eq_ok_iff.2 ⟨h, rfl⟩⟩
  simp only [answer, after, bind, EStateM.bind, hs]

theorem after_bind_of_ok {act : Act σ α} {s : Scene σ} {a : α} (next : α → Act σ β)
    (h : act.answer s = .ok a) : (act >>= next).after s = (next a).after (act.after s) := by
  obtain ⟨s', hs⟩ : ∃ s', act s = .ok a s' := ⟨_, eq_ok_iff.2 ⟨h, rfl⟩⟩
  simp only [after, bind, EStateM.bind, hs]

theorem answer_bind_of_error {act : Act σ α} {s : Scene σ} {p : Panic} (next : α → Act σ β)
    (h : act.answer s = .error p) : (act >>= next).answer s = .error p := by
  obtain ⟨s', hs⟩ : ∃ s', act s = .error p s' := ⟨_, eq_error_iff.2 ⟨h, rfl⟩⟩
  simp only [answer, bind, EStateM.bind, hs]

theorem after_bind_of_error {act : Act σ α} {s : Scene σ} {p : Panic} (next : α → Act σ β)
    (h : act.answer s = .error p) : (act >>= next).after s = act.after s := by
  obtain ⟨s', hs⟩ : ∃ s', act s = .error p s' := ⟨_, eq_error_iff.2 ⟨h, rfl⟩⟩
  simp only [after, bind, EStateM.bind, hs]

/-! ## Acts on a part of the state -/

theorem on_of_ok {τ : Type} {part : Part σ τ} {act : Act τ α} {s : Scene σ} {t : Scene τ} {a : α}
    (h : act ⟨part.get s.state, s.notices⟩ = .ok a t) :
    act.on part s = .ok a ⟨part.set t.state s.state, t.notices⟩ := by
  simp only [on, h]

theorem answer_on {τ : Type} (part : Part σ τ) (act : Act τ α) (s : Scene σ) :
    (act.on part).answer s = act.answer ⟨part.get s.state, s.notices⟩ := by
  simp only [answer, on]
  cases act ⟨part.get s.state, s.notices⟩ <;> rfl

theorem after_on {τ : Type} (part : Part σ τ) (act : Act τ α) (s : Scene σ) :
    (act.on part).after s =
      ⟨part.set (act.after ⟨part.get s.state, s.notices⟩).state s.state,
        (act.after ⟨part.get s.state, s.notices⟩).notices⟩ := by
  simp only [after, on]
  cases act ⟨part.get s.state, s.notices⟩ <;> rfl

/-! ## What is said of an act as a whole -/

/-- The act leaves a view of the state as it is, even if it panics. -/
def Keeps {κ : Type} (view : σ → κ) (act : Act σ α) : Prop :=
  ∀ s, view (act.after s).state = view s.state

theorem Keeps.of_eq_ok {κ : Type} {view : σ → κ} {act : Act σ α} (h : act.Keeps view) {s s' : Scene σ}
    {a : α} (hs : act s = .ok a s') : view s'.state = view s.state := by
  obtain ⟨_, rfl⟩ := eq_ok_iff.1 hs
  exact h s

theorem Keeps.of_eq_error {κ : Type} {view : σ → κ} {act : Act σ α} (h : act.Keeps view)
    {s s' : Scene σ} {p : Panic} (hs : act s = .error p s') : view s'.state = view s.state := by
  obtain ⟨_, rfl⟩ := eq_error_iff.1 hs
  exact h s

theorem Keeps.caught {κ : Type} {view : σ → κ} {act : Act σ α} (h : act.Keeps view) :
    act.caught.Keeps view := by
  intro s
  rw [after_caught]
  exact h s

/-- On settled states the act always gives the same answer, and it leaves them settled. -/
structure SteadyOn (settled : σ → Prop) (act : Act σ α) : Prop where
  answer_eq : ∀ s t, settled s.state → settled t.state → act.answer s = act.answer t
  settled_after : ∀ s, settled s.state → settled (act.after s).state

theorem keeps_pure {κ : Type} (view : σ → κ) (a : α) : (pure a : Act σ α).Keeps view := fun _ => rfl

theorem keeps_note {κ : Type} (view : σ → κ) (n : Notice) : (note n : Act σ Unit).Keeps view := fun _ => rfl

theorem keeps_ofExcept {κ : Type} (view : σ → κ) (answer : Except Panic α) : (ofExcept answer).Keeps view := by
  intro s
  rw [after_ofExcept]

theorem Keeps.bind {κ : Type} {view : σ → κ} {act : Act σ α} {next : α → Act σ β}
    (h : act.Keeps view) (hnext : ∀ a, (next a).Keeps view) : (act >>= next).Keeps view := by
  intro s
  cases ha : act.answer s with
  | error p => rw [after_bind_of_error next ha, h s]
  | ok a => rw [after_bind_of_ok next ha, hnext a, h s]

theorem steadyOn_pure (settled : σ → Prop) (a : α) : (pure a : Act σ α).SteadyOn settled :=
  ⟨fun _ _ _ _ => rfl, fun _ h => h⟩

theorem SteadyOn.bind {settled : σ → Prop} {act : Act σ α} {next : α → Act σ β}
    (h : act.SteadyOn settled) (hnext : ∀ a, (next a).SteadyOn settled) :
    (act >>= next).SteadyOn settled := by
  constructor
  · intro s t hs ht
    have hst : act.answer s = act.answer t := h.answer_eq s t hs ht
    cases ha : act.answer t with
    | error p => rw [answer_bind_of_error next (hst.trans ha), answer_bind_of_error next ha]
    | ok a =>
      rw [answer_bind_of_ok next (hst.trans ha), answer_bind_of_ok next ha]
      exact (hnext a).answer_eq _ _ (h.settled_after s hs) (h.settled_after t ht)
  · intro s hs
    cases ha : act.answer s with
    | error p =>
      rw [after_bind_of_error next ha]
      exact h.settled_after s hs
    | ok a =>
      rw [after_bind_of_ok next ha]
      exact (hnext a).settled_after _ (h.settled_after s hs)

end Act

/-! ## Results that are alike -/

/-- Two results are the same error, or values that are like. -/
def Alike {ε α : Type} (like : α → α → Prop) (x y : Except ε α) : Prop :=
  (∃ e, x = .error e ∧ y = .error e) ∨ ∃ a b, x = .ok a ∧ y = .ok b ∧ like a b

theorem alike_error {ε α : Type} {like : α → α → Prop} (e : ε) : Alike like (.error e) (.error e) :=
  .inl ⟨e, rfl, rfl⟩

theorem alike_ok {ε α : Type} {like : α → α → Prop} {a b : α} (h : like a b) :
    Alike like (.ok a : Except ε α) (.ok b) :=
  .inr ⟨a, b, rfl, rfl, h⟩

theorem alike_refl {ε α : Type} (x : Except ε α) : Alike (· = ·) x x := by
  cases x with
  | error e => exact alike_error e
  | ok a => exact alike_ok rfl

theorem Alike.imp {ε α : Type} {like fine : α → α → Prop} {x y : Except ε α} (h : Alike like x y)
    (hfine : ∀ a b, like a b → fine a b) : Alike fine x y :=
  h.imp_right fun ⟨a, b, hx, hy, hlike⟩ => ⟨a, b, hx, hy, hfine a b hlike⟩

theorem Alike.eq {ε α : Type} {x y : Except ε α} (h : Alike (· = ·) x y) : x = y := by
  rcases h with ⟨e, rfl, rfl⟩ | ⟨a, b, rfl, rfl, rfl⟩ <;> rfl

/-- Alike results go wrong together. -/
theorem Alike.eq_error_iff {ε α : Type} {like : α → α → Prop} {x y : Except ε α} (h : Alike like x y) (e : ε) :
    x = .error e ↔ y = .error e := by
  rcases h with ⟨e', rfl, rfl⟩ | ⟨a, b, rfl, rfl, _⟩
  · exact Iff.rfl
  · exact iff_of_false (fun h => nomatch h) fun h => nomatch h

theorem Alike.mapError {ε δ α : Type} {like : α → α → Prop} {x y : Except ε α} (h : Alike like x y) (f : ε → δ) :
    Alike like (x.mapError f) (y.mapError f) := by
  rcases h with ⟨e, rfl, rfl⟩ | ⟨a, b, rfl, rfl, hlike⟩
  · exact alike_error (f e)
  · exact alike_ok hlike

/-- Results that are mapped to the same are alike. -/
theorem alike_of_map_eq_map {ε α β : Type} {f : α → β} {x y : Except ε α} (h : f <$> x = f <$> y) :
    Alike (fun a b => f a = f b) x y := by
  cases x with
  | error e =>
    cases y with
    | error e' =>
      obtain rfl := Except.error.inj h
      exact alike_error e
    | ok b => cases h
  | ok a =>
    cases y with
    | error e => cases h
    | ok b => exact alike_ok (Except.ok.inj h)

/-! ## Services and stamps -/

/-- What the services see of a scene. -/
def Scene.services {σ : Type} (s : Scene (Issuing σ)) : Scene σ :=
  ⟨s.state.services, s.notices⟩

/-- The scene in which the services came to another scene. -/
def Scene.withServices {σ : Type} (s : Scene (Issuing σ)) (t : Scene σ) : Scene (Issuing σ) :=
  ⟨{ s.state with services := t.state }, t.notices⟩

@[simp] theorem Scene.services_withServices {σ : Type} (s : Scene (Issuing σ)) (t : Scene σ) :
    (s.withServices t).services = t := rfl

namespace Act

variable {σ α : Type}

theorem ofServices_of_ok {act : Act σ α} {s : Scene (Issuing σ)} {t : Scene σ} {a : α}
    (h : act s.services = .ok a t) : act.ofServices s = .ok a (s.withServices t) := by
  change (match act s.services with
    | .ok a t => EStateM.Result.ok a (s.withServices t)
    | .error p t => .error p (s.withServices t)) = _
  rw [h]

theorem ofServices_of_error {act : Act σ α} {s : Scene (Issuing σ)} {t : Scene σ} {p : Panic}
    (h : act s.services = .error p t) : act.ofServices s = .error p (s.withServices t) := by
  change (match act s.services with
    | .ok a t => EStateM.Result.ok a (s.withServices t)
    | .error p t => .error p (s.withServices t)) = _
  rw [h]

@[simp] theorem answer_ofServices (act : Act σ α) (s : Scene (Issuing σ)) :
    act.ofServices.answer s = act.answer s.services :=
  answer_on (Issuing.part σ) act s

theorem after_ofServices (act : Act σ α) (s : Scene (Issuing σ)) :
    act.ofServices.after s =
      ⟨{ s.state with services := (act.after s.services).state }, (act.after s.services).notices⟩ :=
  after_on (Issuing.part σ) act s

/-- A service that keeps a view of the services keeps it of all that issuing needs. -/
theorem Keeps.ofServices {κ : Type} {view : σ → κ} {act : Act σ α} (h : act.Keeps view) :
    act.ofServices.Keeps fun i => view i.services := by
  intro s
  rw [after_ofServices]
  exact h s.services

@[simp] theorem answer_stamp (s : Scene (Issuing σ)) :
    (Act.stamp : Act (Issuing σ) Stamp).answer s = .ok s.state.stamper.next := rfl

end Act

end SecurityEvents
