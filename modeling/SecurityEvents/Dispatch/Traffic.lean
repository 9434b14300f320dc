import SecurityEvents.Dispatch.FanOut
set_option autoImplicit false

/-!
# Traffic

Any number of callers may dispatch through one dispatcher at the same time, each with several profiles at a time.
They have the services in common, and the source of the stamps. A list of turns says who acts when; between two
turns of theirs somebody else may act on the services. A turn that is not possible changes nothing.

The profiles of a call are all there once they are listed, and a pipeline that is not begun takes its first step
later: a limit on how many are served at a time only rules out some lists of turns. A step of a pipeline is one
turn, except that the payload is encoded in one turn and the stamp drawn in the next, since others may draw stamps
in between. Where nobody does, the turns of a pipeline come to serving the profile: `stepBy_entered` says so.
-/

namespace SecurityEvents

/-- How far a pipeline among others has come. -/
inductive Phase (σ : Type) where
  | reached (progress : Progress σ)
  /-- There is a payload, for which no stamp was drawn yet. -/
  | encoded (route : Route) (payload : Payload)
  /-- It was said what came of the profile. -/
  | reported (report : ProfileReport)

namespace Phase

variable {σ : Type}

/-- The token that was made on the way from a phase to the next. -/
def made? : Phase σ → Phase σ → Option Token
  | .encoded _ _, .reached (.tokenReady _ token) => some token
  | _, _ => none

/-- What was said of the profile. -/
def report? : Phase σ → Option ProfileReport
  | .reported report => some report
  | _ => none

end Phase

/-- A pipeline of some caller. -/
structure Strand (σ : Type) where
  occurrence : Occurrence
  profile : Profile
  phase : Phase σ

/-- All pipelines, in the order of their calls, and the tokens that were made for them so far, in the order of
their stamps. -/
structure Traffic (σ : Type) where
  strands : List (Strand σ) := []
  issued : List Token := []

/-- What happens next among several callers. -/
inductive Turn (σ : Type) where
  /-- A caller hands in an event. -/
  | ask (event : Event) (category : Category)
  /-- The pipeline at this place takes its next step. -/
  | advance (place : Nat)
  /-- Somebody else acts on the services. -/
  | disturb (act : Act σ Unit)

namespace Dispatcher

variable {σ : Type}

/-- The pipelines that a call begins with: one for every active profile. -/
def enter (d : Dispatcher σ) (event : Event) (category : Category) :
    Act (Issuing σ) (Except Error (List (Strand σ))) := do
  match EventData.ofEvent event with
  | .error error => return .error error
  | .ok data =>
    match ← d.provider.list.ofServices with
    | .error error => return .error error
    | .ok profiles =>
      if profiles.isEmpty then Act.note .noProfiles
      return .ok (profiles.map fun p => ⟨⟨event.name, category, data⟩, p, .reached .entered⟩)

/-- The step of a pipeline that is one turn. -/
def step (d : Dispatcher σ) (o : Occurrence) (p : Profile) : Phase σ → Act (Issuing σ) (Phase σ)
  | .reached (.routed route []) => do
    match ← (d.encode o route.schema).caught with
    | .error panic => return .reached (.ended (.error panic))
    | .ok (.error stop) => return .reached (.ended (.ok (.error stop)))
    | .ok (.ok payload) => return .encoded route payload
  | .encoded route payload => do
    let envelope := d.envelope o (context o p route).tenantDomain
    return .reached (.tokenReady route (envelope.token (← Act.stamp) payload route.eventUri))
  | .reached (.ended result) => do
    Act.note (notice p result)
    return .reported ⟨p.name, p.version, outcome p result⟩
  | .reached progress => do return .reached (← d.advance o p progress)
  | .reported report => pure (.reported report)

/-- Several turns of a pipeline. -/
def stepBy (d : Dispatcher σ) (o : Occurrence) (p : Profile) : Nat → Phase σ → Act (Issuing σ) (Phase σ)
  | 0, phase => pure phase
  | n + 1, phase => do d.stepBy o p n (← d.step o p phase)

end Dispatcher

namespace Traffic

variable {σ : Type}

/-- What was said of the profiles, in the order of the calls. -/
def reports (t : Traffic σ) : List ProfileReport :=
  t.strands.filterMap (·.phase.report?)

/-- The traffic after a turn. -/
def play (d : Dispatcher σ) (t : Traffic σ) : Turn σ → Act (Issuing σ) (Traffic σ)
  | .ask event category => do
    match ← (d.enter event category).caught with
    | .ok (.ok strands) => return { t with strands := t.strands ++ strands }
    | _ => return t
  | .advance place =>
    match t.strands[place]? with
    | none => pure t
    | some ⟨o, p, phase⟩ => do
      let phase' ← d.step o p phase
      return { strands := t.strands.set place ⟨o, p, phase'⟩
               issued := t.issued ++ (phase.made? phase').toList }
  | .disturb act => do
    let _ ← act.ofServices.caught
    return t

/-- The traffic after turns. -/
def playAll (d : Dispatcher σ) : List (Turn σ) → Traffic σ → Act (Issuing σ) (Traffic σ)
  | [], t => pure t
  | turn :: rest, t => do playAll d rest (← t.play d turn)

/-- The turns that serve a number of profiles one after the other, from a place on. -/
def inTurn (d : Dispatcher σ) : Nat → Nat → List (Turn σ)
  | _, 0 => []
  | place, n + 1 => List.replicate (d.gates.length + 5) (.advance place) ++ inTurn d (place + 1) n

end Traffic

/-! ## The turns of a pipeline together -/

namespace Dispatcher

variable {σ : Type}

theorem stepBy_reported (d : Dispatcher σ) (o : Occurrence) (p : Profile) (n : Nat)
    (report : ProfileReport) : d.stepBy o p n (.reported report) = pure (.reported report) := by
  induction n with
  | zero => rfl
  | succ n ih => exact ih

/-- What is done once a pipeline has ended. -/
def conclude (p : Profile) (result : Except Panic (Except Stop String)) : Act (Issuing σ) (Phase σ) := do
  Act.note (notice p result)
  return .reported ⟨p.name, p.version, outcome p result⟩

theorem stepBy_ended (d : Dispatcher σ) (o : Occurrence) (p : Profile) (n : Nat)
    (result : Except Panic (Except Stop String)) :
    d.stepBy o p (n + 1) (.reached (.ended result)) = conclude p result := by
  rw [stepBy, step, bind_assoc]
  exact bind_congr fun _ => stepBy_reported d o p n _

/-- Where a step of a pipeline is a turn, a panic or an end in it concludes the pipeline. -/
theorem stepBy_advance (d : Dispatcher σ) (o : Occurrence) (p : Profile) (n : Nat) {progress : Progress σ}
    (h : d.step o p (.reached progress) = (do return .reached (← d.advance o p progress))) :
    d.stepBy o p (n + 2) (.reached progress) = (do
      match ← (d.proceed o p progress).caught with
      | .ok progress => d.stepBy o p (n + 1) (.reached progress)
      | .error panic => conclude p (.error panic)) := by
  rw [stepBy, h, advance]
  simp only [bind_assoc, pure_bind]
  refine bind_congr fun answer => ?_
  cases answer with
  | ok progress => rfl
  | error panic => exact stepBy_ended d o p n _

theorem stepBy_tokenReady (d : Dispatcher σ) (o : Occurrence) (p : Profile) (route : Route)
    (token : Token) :
    d.stepBy o p 2 (.reached (.tokenReady route token))
      = (d.publish o p route token).caught >>= conclude p := by
  rw [stepBy_advance d o p 0 rfl, proceed, Act.caught_bind, bind_assoc]
  refine bind_congr fun answer => ?_
  cases answer with
  | ok answer => exact stepBy_ended d o p 0 _
  | error panic => rfl

theorem stepBy_encoded (d : Dispatcher σ) (o : Occurrence) (p : Profile) (route : Route) (payload : Payload) :
    d.stepBy o p 3 (.encoded route payload) = (do
      let token := (d.envelope o (context o p route).tenantDomain).token (← Act.stamp) payload route.eventUri
      (d.publish o p route token).caught >>= conclude p) := by
  rw [stepBy, step]
  simp only [bind_assoc, pure_bind]
  exact bind_congr fun stamp => stepBy_tokenReady d o p route _

theorem stepBy_routed_nil (d : Dispatcher σ) (o : Occurrence) (p : Profile) (route : Route) :
    d.stepBy o p 4 (.reached (.routed route []))
      = (d.throughGates o p route []).caught >>= conclude p := by
  rw [stepBy, step]
  simp only [throughGates, consult, Gate.evaluate, Act.ofServices_pure, pure_bind, issue, Act.caught_bind,
    bind_assoc]
  refine bind_congr fun answer => ?_
  rcases answer with panic | stop | payload
  · exact stepBy_ended d o p 2 _
  · exact stepBy_ended d o p 2 _
  · exact stepBy_encoded d o p route payload

theorem stepBy_routed (d : Dispatcher σ) (o : Occurrence) (p : Profile) (route : Route)
    (gates : List (Gate σ)) :
    d.stepBy o p (gates.length + 4) (.reached (.routed route gates))
      = (d.throughGates o p route gates).caught >>= conclude p := by
  induction gates with
  | nil => exact stepBy_routed_nil d o p route
  | cons gate rest ih =>
    rw [List.length_cons, Nat.add_right_comm, stepBy_advance d o p (rest.length + 3) rfl]
    simp only [throughGates, consult, Gate.evaluate, Act.ofServices_bind, proceed, Act.caught_bind,
      bind_assoc]
    refine bind_congr fun answer => ?_
    rcases answer with panic | ⟨_ | reason⟩
    · rfl
    · refine ih.trans ?_
      simp only [throughGates, consult, Act.caught_bind, bind_assoc]
    · exact stepBy_ended d o p _ _

/-- As many turns as there are gates, and five more, serve the profile. -/
theorem stepBy_entered (d : Dispatcher σ) (o : Occurrence) (p : Profile) :
    d.stepBy o p (d.gates.length + 5) (.reached .entered) = .reported <$> d.serve o p := by
  rw [stepBy_advance d o p (d.gates.length + 3) rfl]
  simp only [serve, attempt, proceed, Act.caught_bind, bind_assoc, map_eq_pure_bind, pure_bind]
  refine bind_congr fun answer => ?_
  rcases answer with panic | reason | route
  · rfl
  · exact stepBy_ended d o p _ _
  · exact stepBy_routed d o p route d.gates

end Dispatcher

/-! ## One caller -/

/-- What happens next where there is one caller, who waits for an answer before the next event. -/
inductive Errand (σ : Type) where
  | dispatch (event : Event) (category : Category)
  /-- Somebody else acts on the services. -/
  | disturb (act : Act σ Unit)

namespace Dispatcher

variable {σ : Type}

/-- Does one thing after the other, whatever comes of it. -/
def performAll (d : Dispatcher σ) : List (Errand σ) → Act (Issuing σ) Unit
  | [] => pure ()
  | .dispatch event category :: rest => do
    let _ ← (d.dispatch event category).caught
    d.performAll rest
  | .disturb act :: rest => do
    let _ ← act.ofServices.caught
    d.performAll rest

end Dispatcher

end SecurityEvents
