import SecurityEvents.Dispatch.Dispatcher
set_option autoImplicit false

/-!
# Pipelines

A profile is served in steps: the route is looked for, the gates are asked one by one, the token is made, and
the token is handed over. Between two steps others may act on the services. Where nobody does, the steps come
to the same as serving the profile at once: `advanceBy_entered` says so.
-/

namespace SecurityEvents

/-- How far the serving of a profile has come. -/
inductive Progress (σ : Type) where
  | entered
  /-- There is a route, and these gates are still to be asked. -/
  | routed (route : Route) (gates : List (Gate σ))
  /-- The token is ready to be handed over. -/
  | tokenReady (route : Route) (token : Token)
  | ended (result : Except Panic (Except Stop String))

namespace Dispatcher

variable {σ : Type}

/-- The next step towards serving a profile. -/
def proceed (d : Dispatcher σ) (o : Occurrence) (p : Profile) :
    Progress σ → Act (Issuing σ) (Progress σ)
  | .entered => do
    match ← Act.ofExcept (d.catalog.route o.eventName o.category p) with
    | .error reason => return .ended (.ok (.error (.skip reason)))
    | .ok route => return .routed route d.gates
  | .routed route (gate :: rest) => do
    match ← (gate.check (gateInput o p route)).ofServices with
    | .deny reason => return .ended (.ok (.error (.skip (.ineligible ⟨gate.name, reason⟩))))
    | .allow => return .routed route rest
  | .routed route [] => do
    match ← d.issue o p route with
    | .error stop => return .ended (.ok (.error stop))
    | .ok token => return .tokenReady route token
  | .tokenReady route token => do
    return .ended (.ok (← d.publish o p route token))
  | .ended result => return .ended result

/-- The next step towards serving a profile; a panic ends it. -/
def advance (d : Dispatcher σ) (o : Occurrence) (p : Profile) (progress : Progress σ) :
    Act (Issuing σ) (Progress σ) := do
  match ← (d.proceed o p progress).caught with
  | .ok progress => return progress
  | .error panic => return .ended (.error panic)

/-- Several steps towards serving a profile. -/
def advanceBy (d : Dispatcher σ) (o : Occurrence) (p : Profile) :
    Nat → Progress σ → Act (Issuing σ) (Progress σ)
  | 0, progress => pure progress
  | n + 1, progress => do d.advanceBy o p n (← d.advance o p progress)

/-! ## The steps together -/

theorem advanceBy_ended (d : Dispatcher σ) (o : Occurrence) (p : Profile) (n : Nat)
    (result : Except Panic (Except Stop String)) :
    d.advanceBy o p n (.ended result) = pure (.ended result) := by
  induction n with
  | zero => rfl
  | succ n ih => exact ih

theorem advanceBy_succ (d : Dispatcher σ) (o : Occurrence) (p : Profile) (n : Nat)
    (progress : Progress σ) :
    d.advanceBy o p (n + 1) progress = (do
      match ← (d.proceed o p progress).caught with
      | .ok progress => d.advanceBy o p n progress
      | .error panic => pure (.ended (.error panic))) := by
  rw [advanceBy, advance, bind_assoc]
  refine bind_congr fun answer => ?_
  cases answer with
  | ok progress => rw [pure_bind]
  | error panic => rw [pure_bind, advanceBy_ended]

theorem advanceBy_tokenReady (d : Dispatcher σ) (o : Occurrence) (p : Profile) (route : Route)
    (token : Token) :
    d.advanceBy o p 1 (.tokenReady route token) = .ended <$> (d.publish o p route token).caught := by
  simp only [advanceBy_succ, proceed, Act.caught_bind, bind_assoc, map_eq_pure_bind]
  refine bind_congr fun answer => ?_
  cases answer <;> rfl

theorem advanceBy_routed_nil (d : Dispatcher σ) (o : Occurrence) (p : Profile) (route : Route) :
    d.advanceBy o p 2 (.routed route []) = .ended <$> (d.throughGates o p route []).caught := by
  rw [advanceBy_succ]
  simp only [throughGates, consult, Gate.evaluate, Act.ofServices_pure, pure_bind, proceed,
    Act.caught_bind, bind_assoc, map_eq_pure_bind]
  refine bind_congr fun answer => ?_
  rcases answer with panic | stop | token
  · rfl
  · rfl
  · exact advanceBy_tokenReady d o p route token

theorem advanceBy_routed (d : Dispatcher σ) (o : Occurrence) (p : Profile) (route : Route)
    (gates : List (Gate σ)) :
    d.advanceBy o p (gates.length + 2) (.routed route gates)
      = .ended <$> (d.throughGates o p route gates).caught := by
  induction gates with
  | nil => exact advanceBy_routed_nil d o p route
  | cons gate rest ih =>
    rw [List.length_cons, Nat.add_right_comm, advanceBy_succ]
    simp only [throughGates, consult, Gate.evaluate, Act.ofServices_bind, proceed, Act.caught_bind,
      bind_assoc, map_eq_pure_bind]
    refine bind_congr fun answer => ?_
    rcases answer with panic | ⟨_ | reason⟩
    · rfl
    · refine ih.trans ?_
      simp only [throughGates, consult, Act.caught_bind, bind_assoc, map_eq_pure_bind]
    · exact advanceBy_ended d o p _ _

/-- As many steps as there are gates, and three more, serve the profile. -/
theorem advanceBy_entered (d : Dispatcher σ) (o : Occurrence) (p : Profile) :
    d.advanceBy o p (d.gates.length + 3) .entered = .ended <$> (d.attempt o p).caught := by
  rw [advanceBy_succ]
  simp only [attempt, proceed, Act.caught_bind, bind_assoc, map_eq_pure_bind]
  refine bind_congr fun answer => ?_
  rcases answer with panic | reason | route
  · rfl
  · exact advanceBy_ended d o p _ _
  · exact (advanceBy_routed d o p route d.gates).trans (map_eq_pure_bind _ _)

end Dispatcher

end SecurityEvents
