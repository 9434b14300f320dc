import SecurityEvents.Proofs.Dispatch.Failure
import SecurityEvents.Proofs.Dispatch.Traffic
import SecurityEvents.Proofs.Publication.Broadcast
import SecurityEvents.Proofs.Rehearsal
set_option autoImplicit false

/-!
# Switches over a run

Callers dispatch through a dispatcher with the standard gates, which publishes by a broadcast. Meanwhile the policy of
the broadcast is updated and replaced, and receivers come, take what was sent and go. What happens is a list of
`Happening`s, each of which is a turn among the callers or done with the broadcast.

`Dispatcher.Stepped` says all that a step of a pipeline can do to the pipeline and to the broadcast. From it follows
what is true at every point of a run (`Chronicle`): which updates the policy in force has had, and that a pipeline with
no gate left was let through by the last gate while the policy had its context enabled. A token is sent in the last step
of such a pipeline.
-/

namespace SecurityEvents

/-! ## The services -/

/-- A dispatcher with the standard gates, which publishes by a broadcast that its other services leave alone. -/
structure Dispatcher.Broadcasts {σ : Type} (d : Dispatcher σ) (part : Part σ Broadcast) : Prop where
  get_set : ∀ b s, part.get (part.set b s) = b
  publisher : d.publisher = Broadcast.publisher.on part
  gates : d.gates = Gate.standard d.config d.publisher
  provider : d.provider.list.Keeps part.get
  encoder : ∀ schema category encoder, d.encoders.find? schema category = some encoder →
    ∀ data, (encoder.encode category data).Keeps part.get

/-! ## A step of a pipeline -/

namespace Dispatcher

variable {σ : Type}

/-- All that a step of a pipeline can do, with the broadcast before and after it. -/
inductive Stepped (d : Dispatcher σ) (o : Occurrence) (p : Profile) :
    Phase σ → Broadcast → Phase σ → Broadcast → Prop
  | routed {route : Route} {b : Broadcast} :
      d.Stepped o p (.reached .entered) b (.reached (.routed route d.gates)) b
  /-- The last gate lets pass what the policy has enabled. -/
  | passed {route : Route} {gate : Gate σ} {rest : List (Gate σ)} {b : Broadcast}
      (h : rest = [] → b.policy.isEnabled (context o p route) = true) :
      d.Stepped o p (.reached (.routed route (gate :: rest))) b (.reached (.routed route rest)) b
  | encoded {route : Route} {payload : Payload} {b : Broadcast} :
      d.Stepped o p (.reached (.routed route [])) b (.encoded route payload) b
  | issued {route : Route} {payload : Payload} {stamp : Stamp} {b : Broadcast} :
      d.Stepped o p (.encoded route payload) b
        (.reached (.tokenReady route
          ((d.envelope o (context o p route).tenantDomain).token stamp payload route.eventUri))) b
  | sent {route : Route} {token : Token} {result : Except Panic (Except Stop String)} {b : Broadcast} :
      d.Stepped o p (.reached (.tokenReady route token)) b (.reached (.ended result))
        (b.send ⟨token, context o p route⟩)
  | ended {phase : Phase σ} {result : Except Panic (Except Stop String)} {b : Broadcast} :
      d.Stepped o p phase b (.reached (.ended result)) b
  | reported {phase : Phase σ} {report : ProfileReport} {b : Broadcast} :
      d.Stepped o p phase b (.reported report) b

variable {d : Dispatcher σ} {part : Part σ Broadcast} {o : Occurrence} {p : Profile} {route : Route}

theorem advance_of_ok {progress progress' : Progress σ} {s s' : Scene (Issuing σ)}
    (h : d.proceed o p progress s = .ok progress' s') : d.advance o p progress s = .ok progress' s' :=
  Act.bind_of_ok _ (Act.caught_of_ok h)

theorem advance_of_panic {progress : Progress σ} {panic : Panic} {s s' : Scene (Issuing σ)}
    (h : d.proceed o p progress s = .error panic s') :
    d.advance o p progress s = .ok (.ended (.error panic)) s' :=
  Act.bind_of_ok _ (Act.caught_of_error h)

/-- The last gate asks the publisher, who asks the policy. -/
theorem Broadcasts.isEnabled_of_allow (hd : d.Broadcasts part) {input : GateInput} {s : Scene σ}
    (h : ((Gate.publishEnabled d.publisher).check input).answer s = .ok .allow) :
    (part.get s.state).policy.isEnabled input.context = true := by
  have haccepts : (d.publisher.accepts input.context).answer s
      = .ok ((part.get s.state).policy.isEnabled input.context) := by
    rw [hd.publisher]
    exact Act.answer_on part (Broadcast.publisher.accepts input.context) s
  rw [Gate.publishEnabled, Act.answer_bind_of_ok _ haccepts] at h
  cases henabled : (part.get s.state).policy.isEnabled input.context with
  | true => rfl
  | false =>
    rw [henabled] at h
    cases h

theorem Broadcasts.keeps_gate (hd : d.Broadcasts part) {gate : Gate σ} (hgate : gate ∈ d.gates)
    (input : GateInput) : (gate.check input).Keeps part.get := by
  rw [hd.gates] at hgate
  refine Gate.of_mem_standard (fun decision => Act.keeps_pure _ decision) (fun input => ?_) hgate input
  have haccepts : (d.publisher.accepts input.context).Keeps part.get := by
    intro s
    rw [hd.publisher]
    change part.get (((Broadcast.publisher.accepts input.context).on part).after s).state = part.get s.state
    rw [Act.after_on, hd.get_set]
    rfl
  exact haccepts.bind fun _ => Act.keeps_pure _ _

/-- Only the last of the standard gates has none behind it. -/
theorem Broadcasts.eq_publishEnabled (hd : d.Broadcasts part) {gate : Gate σ} (h : [gate] <:+ d.gates) :
    gate = Gate.publishEnabled d.publisher := by
  obtain ⟨before, hbefore⟩ := h
  have hlast := congrArg List.getLast? hbefore
  rw [List.getLast?_concat, hd.gates] at hlast
  exact Option.some.inj hlast

/-- A gate leaves the broadcast alone, and the last one lets nothing pass that the policy has not enabled. -/
theorem Broadcasts.exists_advance_routed (hd : d.Broadcasts part) {gate : Gate σ} {rest : List (Gate σ)}
    (hgates : gate :: rest <:+ d.gates) (s : Scene (Issuing σ)) :
    ∃ progress' s', d.advance o p (.routed route (gate :: rest)) s = .ok progress' s'
      ∧ d.Stepped o p (.reached (.routed route (gate :: rest))) (part.get s.state.services)
        (.reached progress') (part.get s'.state.services) := by
  have hkeeps := (hd.keeps_gate (hgates.subset List.mem_cons_self) (gateInput o p route)).ofServices
  cases hcheck : (gate.check (gateInput o p route)).ofServices s with
  | error panic s' =>
    have hget : part.get s'.state.services = part.get s.state.services := hkeeps.of_eq_error hcheck
    have hproceed : d.proceed o p (.routed route (gate :: rest)) s = .error panic s' :=
      Act.bind_of_error _ hcheck
    exact ⟨_, s', advance_of_panic hproceed, hget ▸ .ended⟩
  | ok decision s' =>
    have hget : part.get s'.state.services = part.get s.state.services := hkeeps.of_eq_ok hcheck
    cases decision with
    | deny reason =>
      have hproceed : d.proceed o p (.routed route (gate :: rest)) s
          = .ok (.ended (.ok (.error (.skip (.ineligible ⟨gate.name, reason⟩))))) s' := Act.bind_of_ok _ hcheck
      exact ⟨_, s', advance_of_ok hproceed, hget ▸ .ended⟩
    | allow =>
      have hproceed : d.proceed o p (.routed route (gate :: rest)) s = .ok (.routed route rest) s' :=
        Act.bind_of_ok _ hcheck
      refine ⟨_, s', advance_of_ok hproceed, ?_⟩
      rw [hget]
      refine .passed ?_
      rintro rfl
      have hallow := (Act.eq_ok_iff.1 hcheck).1
      rw [Act.answer_ofServices, hd.eq_publishEnabled hgates] at hallow
      exact hd.isEnabled_of_allow hallow

theorem Broadcasts.exists_advance_tokenReady (hd : d.Broadcasts part) (o : Occurrence) (p : Profile)
    (route : Route) (token : Token) (s : Scene (Issuing σ)) :
    ∃ progress' s', d.advance o p (.tokenReady route token) s = .ok progress' s'
      ∧ d.Stepped o p (.reached (.tokenReady route token)) (part.get s.state.services)
        (.reached progress') (part.get s'.state.services) := by
  have hinner := Broadcast.publish_eq token (context o p route) ⟨part.get s.state.services, s.notices⟩
  have hpublish {answer : Except PublishError Unit} {t : Scene Broadcast}
      (h : Broadcast.publisher.publish token (context o p route) ⟨part.get s.state.services, s.notices⟩
        = .ok answer t) :
      ∃ result s', d.proceed o p (.tokenReady route token) s = .ok (.ended result) s'
        ∧ part.get s'.state.services = t.state := by
    have hon : (d.publisher.publish token (context o p route)).ofServices s
        = .ok answer (s.withServices ⟨part.set t.state s.state.services, t.notices⟩) := by
      apply Act.ofServices_of_ok
      rw [hd.publisher]
      exact Act.on_of_ok h
    cases answer with
    | ok taken => exact ⟨_, _, Act.bind_of_ok _ (Act.bind_of_ok _ hon), hd.get_set _ _⟩
    | error cause => exact ⟨_, _, Act.bind_of_ok _ (Act.bind_of_ok _ hon), hd.get_set _ _⟩
  by_cases hnone : (part.get s.state.services).receiverCount = 0
  · rw [if_pos hnone] at hinner
    obtain ⟨result, s', hproceed, hget⟩ := hpublish hinner
    exact ⟨_, s', advance_of_ok hproceed, hget ▸ .ended⟩
  · rw [if_neg hnone] at hinner
    obtain ⟨result, s', hproceed, hget⟩ := hpublish hinner
    exact ⟨_, s', advance_of_ok hproceed, hget ▸ .sent⟩

/-- A step of a pipeline does one of the things that `Stepped` lists. -/
theorem Broadcasts.exists_step (hd : d.Broadcasts part) (o : Occurrence) (p : Profile) {phase : Phase σ}
    (hphase : ∀ route gates, phase = .reached (.routed route gates) → gates <:+ d.gates)
    (s : Scene (Issuing σ)) :
    ∃ phase' s', d.step o p phase s = .ok phase' s'
      ∧ d.Stepped o p phase (part.get s.state.services) phase' (part.get s'.state.services) := by
  cases phase with
  | reported report => exact ⟨_, s, rfl, .reported⟩
  | encoded route payload => exact ⟨_, _, rfl, .issued⟩
  | reached progress =>
    cases progress with
    | ended result => exact ⟨_, _, rfl, .reported⟩
    | entered =>
      cases hroute : d.catalog.route o.eventName o.category p with
      | error panic =>
        have hproceed : d.proceed o p .entered s = .error panic s := by
          rw [proceed, hroute]
          rfl
        exact ⟨_, s, Act.bind_of_ok _ (advance_of_panic hproceed), .ended⟩
      | ok routed =>
        cases routed with
        | error reason =>
          have hproceed : d.proceed o p .entered s = .ok (.ended (.ok (.error (.skip reason)))) s := by
            rw [proceed, hroute]
            rfl
          exact ⟨_, s, Act.bind_of_ok _ (advance_of_ok hproceed), .ended⟩
        | ok route =>
          have hproceed : d.proceed o p .entered s = .ok (.routed route d.gates) s := by
            rw [proceed, hroute]
            rfl
          exact ⟨_, s, Act.bind_of_ok _ (advance_of_ok hproceed), .routed⟩
    | tokenReady route token =>
      obtain ⟨progress', s', hadvance, hstepped⟩ := hd.exists_advance_tokenReady o p route token s
      exact ⟨_, s', Act.bind_of_ok _ hadvance, hstepped⟩
    | routed route gates =>
      cases gates with
      | cons gate rest =>
        obtain ⟨progress', s', hadvance, hstepped⟩ := hd.exists_advance_routed (hphase _ _ rfl) s
        exact ⟨_, s', Act.bind_of_ok _ hadvance, hstepped⟩
      | nil =>
        have hkeeps : (d.encode o route.schema).Keeps fun i => part.get i.services :=
          keeps_encode fun encoder hfind => (hd.encoder _ _ encoder hfind o.data).ofServices
        obtain ⟨answer, s', hcaught⟩ := Act.exists_caught_eq_ok (d.encode o route.schema) s
        have hget : part.get s'.state.services = part.get s.state.services := hkeeps.caught.of_eq_ok hcaught
        rcases answer with panic | stop | payload
        · exact ⟨_, s', Act.bind_of_ok _ hcaught, hget ▸ .ended⟩
        · exact ⟨_, s', Act.bind_of_ok _ hcaught, hget ▸ .ended⟩
        · exact ⟨_, s', Act.bind_of_ok _ hcaught, hget ▸ .encoded⟩

end Dispatcher

/-! ## What happens -/

/-- What happens where callers dispatch and the broadcast is controlled. -/
inductive Happening (σ : Type) where
  | turn (turn : Turn σ)
  | control (control : Broadcast.Control)

/-- What happens, as a turn among the callers. -/
def Happening.asTurn {σ : Type} (part : Part σ Broadcast) : Happening σ → Turn σ
  | .turn t => t
  | .control c => .disturb ((Broadcast.control c).on part)

/-- The updates of the policy in force, after something happened. -/
def Happening.regime {σ : Type} (r : Regime) : Happening σ → Regime
  | .turn _ => r
  | .control c => r.after c

/-- The updates of the policy in force, after all that happened. -/
def Regime.afterAll {σ : Type} (r : Regime) (history : List (Happening σ)) : Regime :=
  history.foldl Happening.regime r

/-- The occurrence is of an event that was handed in. -/
def Occurrence.Asked {σ : Type} (o : Occurrence) (history : List (Happening σ)) : Prop :=
  ∃ event, .turn (.ask event o.category) ∈ history ∧ EventData.ofEvent event = .ok o.data

/-- The pipeline was begun for the event, and has taken no step. -/
def Strand.BeginsWith {σ : Type} (x : Strand σ) (event : Event) (category : Category) : Prop :=
  x.occurrence.category = category ∧ EventData.ofEvent event = .ok x.occurrence.data ∧ x.phase = .reached .entered

namespace Dispatcher

variable {σ : Type}

/-- What happened led from the beginning to this traffic in this scene. -/
def LeadsTo (d : Dispatcher σ) (part : Part σ Broadcast) (s₀ : Scene (Issuing σ)) (history : List (Happening σ))
    (t : Traffic σ) (s : Scene (Issuing σ)) : Prop :=
  Traffic.playAll d (history.map (·.asTurn part)) {} s₀ = .ok t s

/-- When the last gate was asked about this pipeline, the policy had the context of its tokens enabled. -/
def Cleared (d : Dispatcher σ) (part : Part σ Broadcast) (s₀ : Scene (Issuing σ)) (history : List (Happening σ))
    (place : Nat) (o : Occurrence) (p : Profile) (route : Route) : Prop :=
  ∃ before after t s, history = before ++ .turn (.advance place) :: after ∧ d.LeadsTo part s₀ before t s
    ∧ t.strands[place]? = some ⟨o, p, .reached (.routed route [Gate.publishEnabled d.publisher])⟩
    ∧ (part.get s.state.services).policy.isEnabled (context o p route) = true

/-- After what happened, the next step of the pipeline sends the token. The token was built for a context of an event
that was handed in, and the pipeline was cleared before. -/
inductive Sends (d : Dispatcher σ) (part : Part σ Broadcast) (s₀ : Scene (Issuing σ))
    (history : List (Happening σ)) (place : Nat) : Published → Prop
  | intro {t : Traffic σ} {s : Scene (Issuing σ)} {o : Occurrence} {p : Profile} {route : Route} {stamp : Stamp}
      {payload : Payload} {token : Token} (hleads : d.LeadsTo part s₀ history t s)
      (hready : t.strands[place]? = some ⟨o, p, .reached (.tokenReady route token)⟩)
      (htoken : token = (d.envelope o (context o p route).tenantDomain).token stamp payload route.eventUri)
      (hasked : o.Asked history) (hcleared : d.Cleared part s₀ history place o p route)
      (htenant : (context o p route).tenantDomain
        = if o.category.isLogin then o.data.loginTenantDomain else o.data.tenantDomain) :
      d.Sends part s₀ history place ⟨token, context o p route⟩

/-- At some point a pipeline sent the token. -/
def Sent (d : Dispatcher σ) (part : Part σ Broadcast) (s₀ : Scene (Issuing σ)) (history : List (Happening σ))
    (v : Published) : Prop :=
  ∃ before place after, history = before ++ .turn (.advance place) :: after ∧ d.Sends part s₀ before place v

/-- What is known of a pipeline that has come to a phase. -/
def Journey (d : Dispatcher σ) (part : Part σ Broadcast) (s₀ : Scene (Issuing σ)) (history : List (Happening σ))
    (place : Nat) (o : Occurrence) (p : Profile) : Phase σ → Prop
  | .reached (.routed route gates) =>
    gates <:+ d.gates ∧ (gates = [] → d.Cleared part s₀ history place o p route)
  | .encoded route _ => d.Cleared part s₀ history place o p route
  | .reached (.tokenReady route token) =>
    d.Cleared part s₀ history place o p route
      ∧ ∃ stamp payload,
        token = (d.envelope o (context o p route).tenantDomain).token stamp payload route.eventUri
  | _ => True

/-- What is true at every point of a run. -/
structure Chronicle (d : Dispatcher σ) (part : Part σ Broadcast) (r₀ : Regime) (s₀ : Scene (Issuing σ))
    (history : List (Happening σ)) (t : Traffic σ) (s : Scene (Issuing σ)) : Prop where
  policy : (part.get s.state.services).policy = (r₀.afterAll history).policy
  strands : ∀ place o p phase, t.strands[place]? = some ⟨o, p, phase⟩ →
    o.Asked history ∧ d.Journey part s₀ history place o p phase
  kept : ∀ v ∈ (part.get s.state.services).kept, d.Sent part s₀ history v

variable {d : Dispatcher σ} {part : Part σ Broadcast} {r₀ : Regime} {s₀ : Scene (Issuing σ)}
  {history : List (Happening σ)} {happening : Happening σ} {place : Nat} {o : Occurrence} {p : Profile} {route : Route}
  {phase : Phase σ} {t t' : Traffic σ} {s s' : Scene (Issuing σ)}

/-! ## What was true remains true -/

theorem LeadsTo.snoc (h : d.LeadsTo part s₀ history t s)
    (hplay : t.play d (happening.asTurn part) s = .ok t' s') :
    d.LeadsTo part s₀ (history ++ [happening]) t' s' := by
  rw [LeadsTo, List.map_append, Traffic.playAll_append, Act.bind_of_ok _ h]
  exact Act.bind_of_ok _ hplay

theorem asked_append (h : o.Asked history) (more : List (Happening σ)) : o.Asked (history ++ more) := by
  obtain ⟨event, hevent, hdata⟩ := h
  exact ⟨event, List.mem_append_left more hevent, hdata⟩

theorem Cleared.append (h : d.Cleared part s₀ history place o p route) (more : List (Happening σ)) :
    d.Cleared part s₀ (history ++ more) place o p route := by
  obtain ⟨before, after, t, s, rfl, hgate⟩ := h
  exact ⟨before, after ++ more, t, s, List.append_assoc .., hgate⟩

theorem Sent.append {v : Published} (h : d.Sent part s₀ history v) (more : List (Happening σ)) :
    d.Sent part s₀ (history ++ more) v := by
  obtain ⟨before, place, after, rfl, hsends⟩ := h
  exact ⟨before, place, after ++ more, List.append_assoc .., hsends⟩

theorem Journey.append (h : d.Journey part s₀ history place o p phase) (more : List (Happening σ)) :
    d.Journey part s₀ (history ++ more) place o p phase := by
  cases phase with
  | reported => trivial
  | encoded route payload => exact Cleared.append h more
  | reached progress =>
    cases progress with
    | entered | ended => trivial
    | routed route gates => exact ⟨h.1, fun hnil => (h.2 hnil).append more⟩
    | tokenReady route token => exact ⟨h.1.append more, h.2⟩

theorem Chronicle.strands_append (h : d.Chronicle part r₀ s₀ history t s)
    (hplace : t.strands[place]? = some ⟨o, p, phase⟩) (more : List (Happening σ)) :
    o.Asked (history ++ more) ∧ d.Journey part s₀ (history ++ more) place o p phase := by
  obtain ⟨hasked, hjourney⟩ := h.strands place o p phase hplace
  exact ⟨asked_append hasked more, hjourney.append more⟩

theorem Journey.gates_suffix (h : d.Journey part s₀ history place o p phase) (route : Route)
    (gates : List (Gate σ)) (hphase : phase = .reached (.routed route gates)) : gates <:+ d.gates := by
  subst hphase
  exact h.1

/-- A turn leaves the policy alone. What is kept after it was kept before, or was sent in it. -/
theorem Chronicle.turn (h : d.Chronicle part r₀ s₀ history t s) {turn : Turn σ}
    (hpolicy : (part.get s'.state.services).policy = (part.get s.state.services).policy)
    (hkept : ∀ v ∈ (part.get s'.state.services).kept,
      v ∈ (part.get s.state.services).kept ∨ d.Sent part s₀ (history ++ [.turn turn]) v)
    (hstrands : ∀ place o p phase, t'.strands[place]? = some ⟨o, p, phase⟩ →
      o.Asked (history ++ [.turn turn]) ∧ d.Journey part s₀ (history ++ [.turn turn]) place o p phase) :
    d.Chronicle part r₀ s₀ (history ++ [.turn turn]) t' s' := by
  refine ⟨?_, hstrands, fun v hv => ?_⟩
  · rw [hpolicy, h.policy, Regime.afterAll, Regime.afterAll, List.foldl_append]
    rfl
  · rcases hkept v hv with hbefore | hsent
    · exact (h.kept v hbefore).append _
    · exact hsent

/-- A pipeline that takes its next step stays on its journey, and sends nothing unless its token is ready. -/
theorem Stepped.journey {phase' : Phase σ} {b b' : Broadcast} (hstepped : d.Stepped o p phase b phase' b')
    (hd : d.Broadcasts part) (hleads : d.LeadsTo part s₀ history t s) (hb : part.get s.state.services = b)
    (hplace : t.strands[place]? = some ⟨o, p, phase⟩) (hasked : o.Asked history)
    (hjourney : d.Journey part s₀ history place o p phase) :
    d.Journey part s₀ (history ++ [.turn (.advance place)]) place o p phase' ∧ b'.policy = b.policy
      ∧ ∀ v ∈ b'.kept, v ∈ b.kept ∨ d.Sent part s₀ (history ++ [.turn (.advance place)]) v := by
  cases hstepped with
  | routed =>
    refine ⟨⟨List.suffix_refl _, fun hnil => ?_⟩, rfl, fun _ => .inl⟩
    rw [hd.gates] at hnil
    cases hnil
  | passed henabled =>
    -- Only here a pipeline is cleared: if no gate is left, it was the last one that let it pass.
    refine ⟨⟨(List.suffix_cons _ _).trans hjourney.1, ?_⟩, rfl, fun _ => .inl⟩
    rintro rfl
    rw [hd.eq_publishEnabled hjourney.1] at hplace
    exact ⟨history, [], t, s, rfl, hleads, hplace, hb ▸ henabled rfl⟩
  | encoded => exact ⟨(hjourney.2 rfl).append _, rfl, fun _ => .inl⟩
  | issued => exact ⟨⟨Cleared.append hjourney _, _, _, rfl⟩, rfl, fun _ => .inl⟩
  | sent =>
    obtain ⟨hcleared, stamp, payload, htoken⟩ := hjourney
    refine ⟨trivial, rfl, fun v hv => ?_⟩
    rcases Broadcast.mem_kept_send hv with hkept | rfl
    · exact .inl hkept
    · exact .inr ⟨history, place, [], rfl, .intro hleads hplace htoken hasked hcleared rfl⟩
  | ended | reported => exact ⟨trivial, rfl, fun _ => .inl⟩

/-! ## One happening and all of them -/

/-- What a call begins with are pipelines for the event, none of which has taken a step. -/
theorem ensures_enter (d : Dispatcher σ) (event : Event) (category : Category) :
    (d.enter event category : Act (Issuing σ) (Except Error (List (Strand σ)))).Ensures fun entered =>
      ∀ strands, entered = .ok strands → ∀ x ∈ strands, x.BeginsWith event category := by
  unfold enter
  cases hdata : EventData.ofEvent event with
  | error error => exact Act.ensures_pure fun _ h => nomatch h
  | ok data =>
    apply (Act.ensures_true d.provider.list.ofServices).bind
    intro answer _
    cases answer with
    | error error => exact Act.ensures_pure fun _ h => nomatch h
    | ok ps =>
      have hstrands : ∀ x ∈ ps.map fun p => (⟨⟨event.name, category, data⟩, p, .reached .entered⟩ : Strand σ),
          x.BeginsWith event category := by
        intro x hx
        obtain ⟨p, _, rfl⟩ := List.mem_map.1 hx
        exact ⟨rfl, hdata, rfl⟩
      have hentered : ∀ strands, Except.ok (ε := Error)
            (ps.map fun p => (⟨⟨event.name, category, data⟩, p, .reached .entered⟩ : Strand σ)) = .ok strands →
          ∀ x ∈ strands, x.BeginsWith event category := by
        rintro strands ⟨⟩
        exact hstrands
      dsimp only
      split
      · exact (Act.ensures_true _).bind fun _ _ => Act.ensures_pure hentered
      · exact Act.ensures_pure hentered

/-- One thing that happens keeps the chronicle. -/
theorem Chronicle.exists_snoc (hd : d.Broadcasts part) (hleads : d.LeadsTo part s₀ history t s)
    (h : d.Chronicle part r₀ s₀ history t s) (happening : Happening σ)
    (hothers : ∀ act, happening = .turn (.disturb act) → act.Keeps part.get) :
    ∃ t' s', d.LeadsTo part s₀ (history ++ [happening]) t' s'
      ∧ d.Chronicle part r₀ s₀ (history ++ [happening]) t' s' := by
  -- What leaves the broadcast and the pipelines as they are keeps the chronicle.
  have hsame {turn : Turn σ} {s' : Scene (Issuing σ)}
      (hget : part.get s'.state.services = part.get s.state.services) :
      d.Chronicle part r₀ s₀ (history ++ [.turn turn]) t s' := by
    refine h.turn (congrArg _ hget) (fun v hv => ?_) fun place o p phase hplace => h.strands_append hplace _
    rw [hget] at hv
    exact .inl hv
  cases happening with
  | control c =>
    have hcontrol : ((Broadcast.control c).on part).ofServices s
        = .ok () (s.withServices ⟨part.set ((part.get s.state.services).controlled c) s.state.services, s.notices⟩) :=
      rfl
    refine ⟨t, _, hleads.snoc (Act.bind_of_ok _ (Act.caught_of_ok hcontrol)), ?_, ?_, ?_⟩
    · change (part.get (part.set _ _)).policy = _
      rw [hd.get_set, Regime.afterAll, List.foldl_append]
      exact Broadcast.policy_controlled h.policy c
    · exact fun place o p phase hplace => h.strands_append hplace _
    · intro v hv
      change v ∈ (part.get (part.set _ _)).kept at hv
      rw [hd.get_set, Broadcast.kept_controlled] at hv
      exact (h.kept v hv).append _
  | turn turn =>
    cases turn with
    | ask event category =>
      have hkeeps : (d.enter event category).Keeps fun i => part.get i.services :=
        keeps_enter hd.provider.ofServices event category
      obtain ⟨answer, s', hcaught⟩ := Act.exists_caught_eq_ok (d.enter event category) s
      have hget : part.get s'.state.services = part.get s.state.services := hkeeps.caught.of_eq_ok hcaught
      have hentered := (d.ensures_enter event category).caught.good_answer s answer s' hcaught
      rcases answer with panic | error | strands
      · exact ⟨t, s', hleads.snoc (Act.bind_of_ok _ hcaught), hsame hget⟩
      · exact ⟨t, s', hleads.snoc (Act.bind_of_ok _ hcaught), hsame hget⟩
      · have hbegun : ∀ x ∈ strands, x.BeginsWith event category := hentered _ rfl strands rfl
        refine ⟨_, s', hleads.snoc (Act.bind_of_ok _ hcaught), { hsame hget with strands := ?_ }⟩
        intro place o p phase hplace
        by_cases hold : place < t.strands.length
        · rw [List.getElem?_append_left hold] at hplace
          exact h.strands_append hplace _
        · rw [List.getElem?_append_right (Nat.le_of_not_lt hold)] at hplace
          obtain ⟨rfl, hdata, rfl⟩ := hbegun _ (List.mem_of_getElem? hplace)
          exact ⟨⟨event, List.mem_append_right _ List.mem_cons_self, hdata⟩, trivial⟩
    | advance place =>
      cases hplace : t.strands[place]? with
      | none =>
        have hplay : t.play d (.advance place) s = .ok t s := by
          rw [Traffic.play, hplace]
          rfl
        exact ⟨t, s, hleads.snoc hplay, hsame rfl⟩
      | some x =>
        obtain ⟨o, p, phase⟩ := x
        obtain ⟨hasked, hjourney⟩ := h.strands place o p phase hplace
        obtain ⟨phase', s', hstep, hstepped⟩ := hd.exists_step o p hjourney.gates_suffix s
        obtain ⟨hjourney', hpolicy, hkept⟩ := hstepped.journey hd hleads rfl hplace hasked hjourney
        have hplay : t.play d (.advance place) s
            = .ok ⟨t.strands.set place ⟨o, p, phase'⟩, t.issued ++ (phase.made? phase').toList⟩ s' := by
          rw [Traffic.play, hplace]
          exact Act.bind_of_ok _ hstep
        refine ⟨_, s', hleads.snoc hplay, h.turn hpolicy hkept ?_⟩
        intro other _ _ _ hother
        by_cases hsame : other = place
        · subst hsame
          rw [List.getElem?_set_self (List.getElem?_eq_some_iff.1 hplace).1] at hother
          cases hother
          exact ⟨asked_append hasked _, hjourney'⟩
        · rw [List.getElem?_set_ne (Ne.symm hsame)] at hother
          exact h.strands_append hother _
    | disturb act =>
      obtain ⟨answer, s', hcaught⟩ := Act.exists_caught_eq_ok act.ofServices s
      have hget : part.get s'.state.services = part.get s.state.services :=
        (hothers act rfl).ofServices.caught.of_eq_ok hcaught
      exact ⟨t, s', hleads.snoc (Act.bind_of_ok _ hcaught), hsame hget⟩

/-- All that happens keeps the chronicle. -/
theorem Chronicle.exists_append (hd : d.Broadcasts part) (hleads : d.LeadsTo part s₀ history t s)
    (h : d.Chronicle part r₀ s₀ history t s) (more : List (Happening σ))
    (hothers : ∀ act, .turn (.disturb act) ∈ more → act.Keeps part.get) :
    ∃ t' s', d.LeadsTo part s₀ (history ++ more) t' s' ∧ d.Chronicle part r₀ s₀ (history ++ more) t' s' := by
  induction more generalizing history t s with
  | nil =>
    rw [List.append_nil]
    exact ⟨t, s, hleads, h⟩
  | cons happening rest ih =>
    obtain ⟨t₁, s₁, hleads₁, h₁⟩ :=
      h.exists_snoc hd hleads happening fun act hact => hothers act (hact ▸ List.mem_cons_self)
    have hrest := ih hleads₁ h₁ fun act hact => hothers act (List.mem_cons_of_mem happening hact)
    rw [List.append_assoc] at hrest
    exact hrest

/-- Publish switches over any run. At every point of it the policy in force says of a context what was updated last for
its tenant and profile since that policy was created, else what was updated last for its tenant, else the default; an
absent tenant counts as the one with the empty name. An update concerns the contexts within its scope only, and updates
with different scopes commute. Every token that a receiver gets was sent by a pipeline that the last gate had let pass
while the policy had the context of the token enabled; its tenant is the one that the user signs in to for logins, and
the one of the event otherwise. -/
theorem switches_govern_publication (hd : d.Broadcasts part) {capacity : Nat}
    (hstart : Broadcast.start capacity r₀.policy = .ok (part.get s₀.state.services))
    (hothers : ∀ act, .turn (.disturb act) ∈ history → act.Keeps part.get) :
    ∃ t s b, d.LeadsTo part s₀ history t s ∧ part.get s.state.services = b
      ∧ (∀ context enabled,
          (r₀.afterAll history).Decides (context.tenantDomain.getD "") context.profileName enabled
            ↔ b.policy.isEnabled context = enabled)
      ∧ (∀ (switch : Switch) context, ¬ switch.scope.Covers context →
          (b.policy.set switch).isEnabled context = b.policy.isEnabled context)
      ∧ (∀ one other : Switch, one.scope ≠ other.scope → ∀ (switches : List Switch) context,
          (switches.foldl Policy.set ((b.policy.set one).set other)).isEnabled context
            = (switches.foldl Policy.set ((b.policy.set other).set one)).isEnabled context)
      ∧ ∀ receiver reception, b.reception? receiver = some reception →
          ∀ v ∈ reception.received, d.Sent part s₀ history v := by
  obtain ⟨hpolicy, hkept⟩ := Broadcast.policy_of_start hstart
  have hbegin : d.Chronicle part r₀ s₀ [] {} s₀ := by
    refine ⟨hpolicy, fun place o p phase hplace => ?_, fun v hv => ?_⟩
    · cases hplace
    · rw [hkept] at hv
      exact (List.not_mem_nil hv).elim
  have hnothing : d.LeadsTo part s₀ [] {} s₀ := rfl
  obtain ⟨t, s, hleads, h⟩ := hbegin.exists_append hd hnothing history hothers
  refine ⟨t, s, _, hleads, rfl, fun context enabled => ?_, fun switch context => ?_, ?_, ?_⟩
  · rw [Regime.decides_iff, h.policy]
    rfl
  · exact Policy.isEnabled_set_of_not_covers _
  · exact fun one other hscopes => Policy.isEnabled_set_comm _ hscopes
  · exact fun receiver reception hreception v hv => h.kept v (Broadcast.mem_kept_of_reception hreception hv)

end Dispatcher

namespace Rehearsal

/-- A dispatcher with the standard gates, which publishes by a broadcast. -/
def broadcasting : Dispatcher Stage where
  config := {}
  provider := Provider.memory.on Stage.profilesPart
  catalog := .ofList (Schema.all.map fun schema => .ofTable schema table)
  encoders := .ofList [.scripted 0 .wso2 Category.all (.echo "first")]
  gates := Gate.standard {} PublisherKind.broadcasting.publisher
  publisher := PublisherKind.broadcasting.publisher

theorem broadcasts : broadcasting.Broadcasts Stage.broadcastPart where
  get_set _ _ := rfl
  publisher := rfl
  gates := rfl
  provider := by
    intro s
    rfl
  encoder schema category encoder hfind data := by
    have hencoder := EncoderRegistry.mem_of_find?_ofList hfind
    rw [List.mem_singleton.1 hencoder]
    intro s
    rfl

/-- The profiles of one schema are switched on and, when the first of them has been served, off. -/
def switching : List (Happening Stage) :=
  [.control (.setPolicy ⟨false, [⟨.profile "" "WSO2", true⟩]⟩), .turn (.ask event .tokenRevoke)]
    ++ List.replicate 9 (.turn (.advance 0)) ++ [.control (.setProfile "" "WSO2" false)]
    ++ List.replicate 9 (.turn (.advance 2))

/-- The scene at the beginning, with a broadcast. -/
def broadcastScene : Scene (Issuing Stage) where
  state :=
    { stamper := scene.state.stamper
      services :=
        { profiles
          broadcast :=
            { policy := (Regime.mk true []).policy, capacity := Nat.nextPowerOfTwo 4, receivers := [some 0] } } }

/-- The broadcast at the end. -/
def switchedBroadcast : Broadcast :=
  ((Traffic.playAll broadcasting (switching.map (·.asTurn Stage.broadcastPart)) {}).after
    broadcastScene).state.services.broadcast

/-- One token reaches the receiver. -/
theorem received_switchedBroadcast : (switchedBroadcast.reception? 0).map (·.received.length) = some 1 := by
  decide +kernel

end Rehearsal

theorem Dispatcher.rehearsed_switches_govern_publication :
    ∃ reception, Rehearsal.switchedBroadcast.reception? 0 = some reception ∧ reception.received.length = 1
      ∧ ∀ v ∈ reception.received, Rehearsal.broadcasting.Sent Stage.broadcastPart Rehearsal.broadcastScene
          Rehearsal.switching v := by
  have hstart : Broadcast.start 4 (Regime.mk true []).policy
      = .ok (Stage.broadcastPart.get Rehearsal.broadcastScene.state.services) := rfl
  have hothers : ∀ act, .turn (.disturb act) ∈ Rehearsal.switching → act.Keeps Stage.broadcastPart.get := by
    intro act hact
    simp only [Rehearsal.switching, List.mem_append, List.mem_cons, List.mem_replicate, List.not_mem_nil,
      Happening.turn.injEq, reduceCtorEq, and_false, or_self] at hact
  obtain ⟨t, s, b, hleads, hb, _, _, _, hsent⟩ :=
    switches_govern_publication Rehearsal.broadcasts hstart hothers
  have hplay : Traffic.playAll Rehearsal.broadcasting
      (Rehearsal.switching.map (·.asTurn Stage.broadcastPart)) {} Rehearsal.broadcastScene = .ok t s := hleads
  have hend : Rehearsal.switchedBroadcast = b := by
    rw [← hb, Rehearsal.switchedBroadcast, (Act.eq_ok_iff.1 hplay).2]
    rfl
  obtain ⟨reception, hreception, hlength⟩ := Option.map_eq_some_iff.1 Rehearsal.received_switchedBroadcast
  rw [hend] at hreception ⊢
  exact ⟨reception, hreception, hlength, hsent 0 reception hreception⟩

end SecurityEvents
