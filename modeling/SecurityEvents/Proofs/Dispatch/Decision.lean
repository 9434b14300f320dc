import SecurityEvents.Proofs.Dispatch.Listing
import SecurityEvents.Proofs.Dispatch.Routing
import SecurityEvents.Proofs.Token.Stamping
set_option autoImplicit false

/-!
# What decides over a profile

What becomes of an event for a profile is decided by the first of these that stops it: there is no route, a
gate denies, nobody encodes for the schema, the payload cannot be encoded, the publisher does not take the
token; and a panic stops it anywhere. `Dispatcher.Decided` lists the ways in this order, each with all that went
well before it, and `serve_decided` is that the dispatcher takes exactly one of them.
-/

namespace SecurityEvents

/-! ## Gates -/

/-- All gates allow, one after the other, which leads from a scene to another. -/
inductive Gate.Pass {σ : Type} (input : GateInput) : List (Gate σ) → Scene σ → Scene σ → Prop where
  | nil (s : Scene σ) : Pass input [] s s
  | cons {gate : Gate σ} {rest : List (Gate σ)} {s s₁ s₂ : Scene σ}
    (hcheck : gate.check input s = .ok .allow s₁) (hrest : Pass input rest s₁ s₂) :
    Pass input (gate :: rest) s s₂

namespace Gate

variable {σ : Type} {input : GateInput}

/-- Gates that allow leave the answer to those behind them. -/
theorem Pass.evaluate_append {before : List (Gate σ)} {s s' : Scene σ} (h : Pass input before s s')
    (after : List (Gate σ)) : evaluate (before ++ after) input s = evaluate after input s' := by
  induction h with
  | nil => rfl
  | cons hcheck _ ih =>
    rw [List.cons_append, evaluate, Act.bind_of_ok _ hcheck]
    exact ih

theorem Pass.evaluate_eq {gates : List (Gate σ)} {s s' : Scene σ} (h : Pass input gates s s') :
    evaluate gates input s = .ok (.ok ()) s' := by
  have hall := h.evaluate_append []
  rw [List.append_nil] at hall
  exact hall

theorem Pass.evaluate_eq_of_deny {before after : List (Gate σ)} {gate : Gate σ} {reason : String}
    {s s₁ s₂ : Scene σ} (h : Pass input before s s₁)
    (hdeny : gate.check input s₁ = .ok (.deny reason) s₂) :
    evaluate (before ++ gate :: after) input s = .ok (.error ⟨gate.name, reason⟩) s₂ := by
  rw [h.evaluate_append, evaluate, Act.bind_of_ok _ hdeny]
  rfl

theorem Pass.evaluate_eq_of_panic {before after : List (Gate σ)} {gate : Gate σ} {panic : Panic}
    {s s₁ s₂ : Scene σ} (h : Pass input before s s₁) (hpanic : gate.check input s₁ = .error panic s₂) :
    evaluate (before ++ gate :: after) input s = .error panic s₂ := by
  rw [h.evaluate_append, evaluate, Act.bind_of_error _ hpanic]

/-- All gates allow, or some gate is the first that does not: it denies or panics. -/
theorem pass_or_stop (gates : List (Gate σ)) (s : Scene σ) :
    (∃ s', Pass input gates s s') ∨ ∃ before gate after s₁ s₂, gates = before ++ gate :: after
      ∧ Pass input before s s₁
      ∧ ((∃ reason, gate.check input s₁ = .ok (.deny reason) s₂)
        ∨ ∃ panic, gate.check input s₁ = .error panic s₂) := by
  induction gates generalizing s with
  | nil => exact .inl ⟨s, .nil s⟩
  | cons gate rest ih =>
    cases hcheck : gate.check input s with
    | error panic s₁ => exact .inr ⟨[], gate, rest, s, s₁, rfl, .nil s, .inr ⟨panic, hcheck⟩⟩
    | ok decision s₁ =>
      cases decision with
      | deny reason => exact .inr ⟨[], gate, rest, s, s₁, rfl, .nil s, .inl ⟨reason, hcheck⟩⟩
      | allow =>
        rcases ih s₁ with ⟨s₂, hpass⟩ | ⟨before, other, after, s₂, s₃, rfl, hpass, hstop⟩
        · exact .inl ⟨s₂, .cons hcheck hpass⟩
        · exact .inr ⟨gate :: before, other, after, s₂, s₃, rfl, .cons hcheck hpass, hstop⟩

/-- Gates that leave a view of the state alone leave it alone together. -/
theorem Pass.view_eq {κ : Type} {view : σ → κ} {gates : List (Gate σ)} {s s' : Scene σ}
    (h : Pass input gates s s') (hkeeps : ∀ gate ∈ gates, (gate.check input).Keeps view) :
    view s'.state = view s.state := by
  induction h with
  | nil => rfl
  | cons hcheck _ ih =>
    rw [ih fun gate hgate => hkeeps gate (List.mem_cons_of_mem _ hgate)]
    exact (hkeeps _ List.mem_cons_self).of_eq_ok hcheck

end Gate

namespace Dispatcher

variable {σ : Type}

/-! ## The stages -/

/-- The token for a profile, and what it is made for. The event is announced under the URI of the route, and
the token goes out for the channel. -/
def announcement (d : Dispatcher σ) (o : Occurrence) (p : Profile) (route : Route) (stamp : Stamp)
    (payload : Payload) : Published where
  token :=
    { issuer := d.config.issuerFor (o.data.publishTenantDomain o.category)
      issuedAt := stamp.issuedAt
      id := stamp.id
      correlationId := o.data.correlationId
      subject := o.data.userId.map SubjectId.opaqueId
      events := .single route.eventUri payload }
  context :=
    { tenantDomain := o.data.publishTenantDomain o.category
      eventUri := route.channel.uri
      profileName := p.name
      profileVersion := p.version }

/-- There is a route, and all gates allow. -/
structure Admitted (d : Dispatcher σ) (o : Occurrence) (p : Profile) (s : Scene σ) (route : Route)
    (s₁ : Scene σ) : Prop where
  routing : d.catalog.Routing o.eventName o.category p (.ok (.ok route))
  pass : Gate.Pass (gateInput o p route) d.gates s s₁

/-- Moreover, the encoder for the schema of the route makes a payload. -/
def Encoded (d : Dispatcher σ) (o : Occurrence) (p : Profile) (s : Scene σ) (route : Route)
    (payload : Payload) (s₂ : Scene σ) : Prop :=
  ∃ s₁ encoder, d.Admitted o p s route s₁
    ∧ d.encoders.find? route.schema o.category = some encoder
    ∧ encoder.encode o.category o.data s₁ = .ok (.ok payload) s₂

/-- What becomes of an event for a profile, what is handed to the publisher for it, and the scene in which it
leaves the services. -/
inductive Decided (d : Dispatcher σ) (o : Occurrence) (p : Profile) (stamp : Stamp) (s : Scene σ) :
    Outcome → List Published → Scene σ → Prop where
  | noRoute {reason : SkipReason}
    (hroute : d.catalog.Routing o.eventName o.category p (.ok (.error reason))) :
    Decided d o p stamp s (.skipped reason) [] s
  | managerPanics {panic : Panic} (hroute : d.catalog.Routing o.eventName o.category p (.error panic)) :
    Decided d o p stamp s (.failed (.profilePanicked p.name panic.message)) [] s
  | ineligible {route : Route} {before after : List (Gate σ)} {gate : Gate σ} {reason : String}
    {s₁ s₂ : Scene σ} (hroute : d.catalog.Routing o.eventName o.category p (.ok (.ok route)))
    (hgates : d.gates = before ++ gate :: after) (hpass : Gate.Pass (gateInput o p route) before s s₁)
    (hdeny : gate.check (gateInput o p route) s₁ = .ok (.deny reason) s₂) :
    Decided d o p stamp s (.skipped (.ineligible ⟨gate.name, reason⟩)) [] s₂
  | gatePanics {route : Route} {before after : List (Gate σ)} {gate : Gate σ} {panic : Panic}
    {s₁ s₂ : Scene σ} (hroute : d.catalog.Routing o.eventName o.category p (.ok (.ok route)))
    (hgates : d.gates = before ++ gate :: after) (hpass : Gate.Pass (gateInput o p route) before s s₁)
    (hpanic : gate.check (gateInput o p route) s₁ = .error panic s₂) :
    Decided d o p stamp s (.failed (.profilePanicked p.name panic.message)) [] s₂
  | noEncoder {route : Route} {s₁ : Scene σ} (hadmitted : d.Admitted o p s route s₁)
    (hnone : d.encoders.find? route.schema o.category = none) :
    Decided d o p stamp s (.skipped .noEncoder) [] s₁
  | notEncoded {route : Route} {encoder : Encoder σ} {cause : EncodeError} {s₁ s₂ : Scene σ}
    (hadmitted : d.Admitted o p s route s₁)
    (hencoder : d.encoders.find? route.schema o.category = some encoder)
    (hencode : encoder.encode o.category o.data s₁ = .ok (.error cause) s₂) :
    Decided d o p stamp s (.failed (.encoding cause)) [] s₂
  | encoderPanics {route : Route} {encoder : Encoder σ} {panic : Panic} {s₁ s₂ : Scene σ}
    (hadmitted : d.Admitted o p s route s₁)
    (hencoder : d.encoders.find? route.schema o.category = some encoder)
    (hencode : encoder.encode o.category o.data s₁ = .error panic s₂) :
    Decided d o p stamp s (.failed (.profilePanicked p.name panic.message)) [] s₂
  | notPublished {route : Route} {payload : Payload} {v : Published} {cause : PublishError} {s₂ s₃ : Scene σ}
    (hencoded : d.Encoded o p s route payload s₂) (hv : d.announcement o p route stamp payload = v)
    (hpublish : d.publisher.publish v.token v.context s₂ = .ok (.error cause) s₃) :
    Decided d o p stamp s (.failed (.publishFailed p.name cause.message)) [v] s₃
  | publisherPanics {route : Route} {payload : Payload} {v : Published} {panic : Panic} {s₂ s₃ : Scene σ}
    (hencoded : d.Encoded o p s route payload s₂) (hv : d.announcement o p route stamp payload = v)
    (hpublish : d.publisher.publish v.token v.context s₂ = .error panic s₃) :
    Decided d o p stamp s (.failed (.profilePanicked p.name panic.message)) [v] s₃
  | published {route : Route} {payload : Payload} {v : Published} {s₂ s₃ : Scene σ}
    (hencoded : d.Encoded o p s route payload s₂) (hv : d.announcement o p route stamp payload = v)
    (hpublish : d.publisher.publish v.token v.context s₂ = .ok (.ok ()) s₃) :
    Decided d o p stamp s (.published route.eventUri) [v] s₃

section Decided

variable {d : Dispatcher σ} {o : Occurrence} {p : Profile}

/-- Something always decides. -/
theorem exists_decided (d : Dispatcher σ) (o : Occurrence) (p : Profile) (stamp : Stamp) (s : Scene σ) :
    ∃ outcome handed t, d.Decided o p stamp s outcome handed t := by
  have hrouting := d.catalog.routing_route o.eventName o.category p
  cases hroute : d.catalog.route o.eventName o.category p with
  | error panic => exact ⟨_, _, _, .managerPanics (hroute ▸ hrouting)⟩
  | ok routed =>
    rw [hroute] at hrouting
    cases routed with
    | error reason => exact ⟨_, _, _, .noRoute hrouting⟩
    | ok route =>
      obtain ⟨s₁, hpass⟩ | ⟨before, gate, after, s₁, s₂, hgates, hpass, hdeny | hpanic⟩ :=
        Gate.pass_or_stop d.gates s
      · have hadmitted : d.Admitted o p s route s₁ := ⟨hrouting, hpass⟩
        cases hfind : d.encoders.find? route.schema o.category with
        | none => exact ⟨_, _, _, .noEncoder hadmitted hfind⟩
        | some encoder =>
          cases hencode : encoder.encode o.category o.data s₁ with
          | error panic s₂ => exact ⟨_, _, _, .encoderPanics hadmitted hfind hencode⟩
          | ok result s₂ =>
            cases result with
            | error cause => exact ⟨_, _, _, .notEncoded hadmitted hfind hencode⟩
            | ok payload =>
              have hencoded : d.Encoded o p s route payload s₂ := ⟨s₁, encoder, hadmitted, hfind, hencode⟩
              cases hpublish : d.publisher.publish (d.announcement o p route stamp payload).token
                  (d.announcement o p route stamp payload).context s₂ with
              | error panic s₃ => exact ⟨_, _, _, .publisherPanics hencoded rfl hpublish⟩
              | ok taken s₃ =>
                cases taken with
                | error cause => exact ⟨_, _, _, .notPublished hencoded rfl hpublish⟩
                | ok taken => exact ⟨_, _, _, .published hencoded rfl hpublish⟩
      · obtain ⟨reason, hdeny⟩ := hdeny
        exact ⟨_, _, _, .ineligible hrouting hgates hpass hdeny⟩
      · obtain ⟨panic, hpanic⟩ := hpanic
        exact ⟨_, _, _, .gatePanics hrouting hgates hpass hpanic⟩

/-! ## The dispatcher decides so -/

/-- Once there is a route, the gates are asked. -/
theorem attempt_of_routing {route : Route}
    (hroute : d.catalog.Routing o.eventName o.category p (.ok (.ok route))) :
    d.attempt o p = d.throughGates o p route d.gates := by
  rw [attempt, Catalog.routing_iff.1 hroute]
  rfl

/-- Once the gates allowed, the token is made and handed over. -/
theorem Admitted.attempt_eq {s : Scene (Issuing σ)} {route : Route} {s₁ : Scene σ}
    (h : d.Admitted o p s.services route s₁) :
    d.attempt o p s = (do
      match ← d.issue o p route with
      | .error stop => return .error stop
      | .ok token => d.publish o p route token :
        Act (Issuing σ) (Except Stop String)) (s.withServices s₁) := by
  have hgates := Act.ofServices_of_ok h.pass.evaluate_eq
  rw [attempt_of_routing h.routing, throughGates, consult, bind_assoc, Act.bind_of_ok _ hgates]
  rfl

/-- Once there is a payload, the token is handed over. -/
theorem Encoded.exists_attempt_eq {s : Scene (Issuing σ)} {route : Route} {payload : Payload}
    {s₂ : Scene σ} {v : Published} (h : d.Encoded o p s.services route payload s₂)
    (hv : d.announcement o p route s.state.stamper.next payload = v) :
    ∃ s', s'.services = s₂ ∧ s.state.stamper.Draws [v.token.stamp] s'.state.stamper
      ∧ d.attempt o p s = (do
      match ← (d.publisher.publish v.token v.context).ofServices with
      | .ok () => return .ok route.eventUri
      | .error cause => return .error (.fail (.publishFailed p.name cause.message)) :
        Act (Issuing σ) (Except Stop String)) s' := by
  obtain ⟨s₁, encoder, hadmitted, hencoder, hencode⟩ := h
  have hpayload := Act.ofServices_of_ok (s := s.withServices s₁) hencode
  refine ⟨(Act.stamp : Act (Issuing σ) Stamp).after ((s.withServices s₁).withServices s₂), rfl,
    hv ▸ .single s.state.stamper, ?_⟩
  rw [hadmitted.attempt_eq, issue, encode, hencoder, ← hv]
  simp only [bind_assoc]
  rw [Act.bind_of_ok _ hpayload]
  rfl

/-- What is decided is what the dispatcher does. It draws a stamp for each token that is handed over, and no other. -/
theorem Decided.exists_caught_eq {s : Scene (Issuing σ)} {out : Outcome} {handed : List Published}
    {t : Scene σ} (h : d.Decided o p s.state.stamper.next s.services out handed t) :
    ∃ result s', (d.attempt o p).caught s = .ok result s' ∧ outcome p result = out ∧ s'.services = t
      ∧ s.state.stamper.Draws (handed.map (·.token.stamp)) s'.state.stamper := by
  have hidle := Stamper.Draws.nil s.state.stamper
  cases h with
  | @noRoute reason hroute =>
    have hattempt : d.attempt o p s = .ok (.error (.skip reason)) s := by
      rw [attempt, Catalog.routing_iff.1 hroute]
      rfl
    exact ⟨_, s, Act.caught_of_ok hattempt, rfl, rfl, hidle⟩
  | @managerPanics panic hroute =>
    have hattempt : d.attempt o p s = .error panic s := by
      rw [attempt, Catalog.routing_iff.1 hroute]
      rfl
    exact ⟨_, s, Act.caught_of_error hattempt, rfl, rfl, hidle⟩
  | @ineligible route before after gate reason s₁ _ hroute hgates hpass hdeny =>
    have hevaluate : Gate.evaluate d.gates (gateInput o p route) s.services = _ :=
      hgates ▸ hpass.evaluate_eq_of_deny hdeny
    have hattempt : d.attempt o p s
        = .ok (.error (.skip (.ineligible ⟨gate.name, reason⟩))) (s.withServices t) := by
      rw [attempt_of_routing hroute, throughGates, consult, bind_assoc,
        Act.bind_of_ok _ (Act.ofServices_of_ok hevaluate)]
      rfl
    exact ⟨_, _, Act.caught_of_ok hattempt, rfl, rfl, hidle⟩
  | @gatePanics route before after gate panic s₁ _ hroute hgates hpass hpanic =>
    have hevaluate : Gate.evaluate d.gates (gateInput o p route) s.services = _ :=
      hgates ▸ hpass.evaluate_eq_of_panic hpanic
    have hattempt : d.attempt o p s = .error panic (s.withServices t) := by
      rw [attempt_of_routing hroute, throughGates, consult, bind_assoc,
        Act.bind_of_error _ (Act.ofServices_of_error hevaluate)]
    exact ⟨_, _, Act.caught_of_error hattempt, rfl, rfl, hidle⟩
  | noEncoder hadmitted hnone =>
    have hattempt : d.attempt o p s = .ok (.error (.skip .noEncoder)) (s.withServices t) := by
      rw [hadmitted.attempt_eq, issue, encode, hnone]
      rfl
    exact ⟨_, _, Act.caught_of_ok hattempt, rfl, rfl, hidle⟩
  | @notEncoded _ encoder cause s₁ _ hadmitted hencoder hencode =>
    have hattempt : d.attempt o p s = .ok (.error (.fail (.encoding cause))) (s.withServices t) := by
      rw [hadmitted.attempt_eq, issue, encode, hencoder]
      simp only [bind_assoc]
      rw [Act.bind_of_ok _ (Act.ofServices_of_ok (s := s.withServices s₁) hencode)]
      rfl
    exact ⟨_, _, Act.caught_of_ok hattempt, rfl, rfl, hidle⟩
  | @encoderPanics _ encoder panic s₁ _ hadmitted hencoder hencode =>
    have hattempt : d.attempt o p s = .error panic (s.withServices t) := by
      rw [hadmitted.attempt_eq, issue, encode, hencoder]
      simp only [bind_assoc]
      rw [Act.bind_of_error _ (Act.ofServices_of_error (s := s.withServices s₁) hencode)]
      rfl
    exact ⟨_, _, Act.caught_of_error hattempt, rfl, rfl, hidle⟩
  | @notPublished route payload v cause _ _ hencoded hv hpublish =>
    obtain ⟨s', rfl, hdrawn, hattempt⟩ := hencoded.exists_attempt_eq hv
    rw [Act.bind_of_ok _ (Act.ofServices_of_ok hpublish)] at hattempt
    exact ⟨_, _, Act.caught_of_ok hattempt, rfl, rfl, hdrawn⟩
  | @publisherPanics route payload v panic _ _ hencoded hv hpublish =>
    obtain ⟨s', rfl, hdrawn, hattempt⟩ := hencoded.exists_attempt_eq hv
    rw [Act.bind_of_error _ (Act.ofServices_of_error hpublish)] at hattempt
    exact ⟨_, _, Act.caught_of_error hattempt, rfl, rfl, hdrawn⟩
  | @published route payload v _ _ hencoded hv hpublish =>
    obtain ⟨s', rfl, hdrawn, hattempt⟩ := hencoded.exists_attempt_eq hv
    rw [Act.bind_of_ok _ (Act.ofServices_of_ok hpublish)] at hattempt
    exact ⟨_, _, Act.caught_of_ok hattempt, rfl, rfl, hdrawn⟩

theorem Decided.exists_serve_drawn {s : Scene (Issuing σ)} {out : Outcome} {handed : List Published}
    {t : Scene σ} (h : d.Decided o p s.state.stamper.next s.services out handed t) :
    ∃ s', d.serve o p s = .ok ⟨p.name, p.version, out⟩ s' ∧ s'.state.services = t.state
      ∧ s.state.stamper.Draws (handed.map (·.token.stamp)) s'.state.stamper := by
  obtain ⟨result, s', hcaught, rfl, rfl, hdrawn⟩ := h.exists_caught_eq
  refine ⟨(Act.note (notice p result)).after s', ?_, rfl, hdrawn⟩
  rw [serve, Act.bind_of_ok _ hcaught]
  rfl

theorem Decided.exists_serve_eq {s : Scene (Issuing σ)} {out : Outcome} {handed : List Published}
    {t : Scene σ} (h : d.Decided o p s.state.stamper.next s.services out handed t) :
    ∃ s', d.serve o p s = .ok ⟨p.name, p.version, out⟩ s' ∧ s'.state.services = t.state := by
  obtain ⟨s', hserve, hs', _⟩ := h.exists_serve_drawn
  exact ⟨s', hserve, hs'⟩

/-! ## What is handed over -/

/-- Nothing is recorded before the publisher is called. -/
theorem Encoded.record_eq {record : σ → List Published}
    {noted : Except Panic (Except PublishError Unit) → Bool} (hb : d.Books record noted) {s : Scene σ}
    {route : Route} {payload : Payload} {s₂ : Scene σ} (h : d.Encoded o p s route payload s₂) :
    record s₂.state = record s.state := by
  obtain ⟨s₁, encoder, hadmitted, hencoder, hencode⟩ := h
  have hpass := hadmitted.pass.view_eq fun gate hgate => hb.gate gate hgate (gateInput o p route)
  exact ((hb.encoder _ _ encoder hencoder o.data).of_eq_ok hencode).trans hpass

/-- What is recorded of what is handed over, where answers of the publisher have to be noted: all of it, if every
answer is. -/
structure Kept (noted : Except Panic (Except PublishError Unit) → Bool) (handed kept : List Published) :
    Prop where
  sublist : kept.Sublist handed
  eq_handed : (∀ answer, noted answer = true) → kept = handed

/-- What is recorded for a profile is what is handed to the publisher, as far as its answer is noted. -/
theorem Decided.exists_record_eq {record : σ → List Published}
    {noted : Except Panic (Except PublishError Unit) → Bool} (hb : d.Books record noted) {stamp : Stamp}
    {s : Scene σ} {out : Outcome} {handed : List Published} {t : Scene σ}
    (h : d.Decided o p stamp s out handed t) :
    ∃ kept, record t.state = record s.state ++ kept ∧ Kept noted handed kept := by
  have hsame (hkept : record t.state = record s.state) :
      ∃ kept, record t.state = record s.state ++ kept ∧ Kept noted [] kept :=
    ⟨[], hkept.trans (List.append_nil _).symm, List.Sublist.refl _, fun _ => rfl⟩
  have hpublished {v : Published} {route : Route} {payload : Payload} {s₂ : Scene σ}
      (hencoded : d.Encoded o p s route payload s₂)
      (ht : (d.publisher.publish v.token v.context).after s₂ = t) :
      ∃ kept, record t.state = record s.state ++ kept ∧ Kept noted [v] kept := by
    rw [← ht, hb.publisher, hencoded.record_eq hb]
    refine ⟨_, rfl, ?_, fun hall => if_pos (hall _)⟩
    split
    · exact List.Sublist.refl _
    · exact List.nil_sublist _
  cases h with
  | noRoute | managerPanics => exact hsame rfl
  | @ineligible route before after gate reason s₁ _ hroute hgates hpass hdeny =>
    have hgate : gate ∈ d.gates := hgates ▸ List.mem_append_right before List.mem_cons_self
    apply hsame
    rw [(hb.gate gate hgate _).of_eq_ok hdeny]
    exact hpass.view_eq fun g hg => hb.gate g (hgates ▸ List.mem_append_left _ hg) _
  | @gatePanics route before after gate panic s₁ _ hroute hgates hpass hpanic =>
    have hgate : gate ∈ d.gates := hgates ▸ List.mem_append_right before List.mem_cons_self
    apply hsame
    rw [(hb.gate gate hgate _).of_eq_error hpanic]
    exact hpass.view_eq fun g hg => hb.gate g (hgates ▸ List.mem_append_left _ hg) _
  | noEncoder hadmitted hnone => exact hsame (hadmitted.pass.view_eq fun g hg => hb.gate g hg _)
  | @notEncoded _ encoder _ _ _ hadmitted hencoder hencode =>
    apply hsame
    rw [(hb.encoder _ _ encoder hencoder o.data).of_eq_ok hencode]
    exact hadmitted.pass.view_eq fun g hg => hb.gate g hg _
  | @encoderPanics _ encoder _ _ _ hadmitted hencoder hencode =>
    apply hsame
    rw [(hb.encoder _ _ encoder hencoder o.data).of_eq_error hencode]
    exact hadmitted.pass.view_eq fun g hg => hb.gate g hg _
  | notPublished hencoded hv hpublish => exact hpublished hencoded (Act.eq_ok_iff.1 hpublish).2
  | publisherPanics hencoded hv hpublish => exact hpublished hencoded (Act.eq_error_iff.1 hpublish).2
  | published hencoded hv hpublish => exact hpublished hencoded (Act.eq_ok_iff.1 hpublish).2

/-- What is handed to the publisher is what a ledger grows by. -/
theorem Decided.ledger_eq {ledger : σ → List Published} (hb : d.Ledger ledger) {stamp : Stamp} {s : Scene σ}
    {out : Outcome} {handed : List Published} {t : Scene σ} (h : d.Decided o p stamp s out handed t) :
    ledger t.state = ledger s.state ++ handed := by
  obtain ⟨kept, hrecord, hkept⟩ := h.exists_record_eq hb
  rw [hrecord, hkept.eq_handed fun _ => rfl]

/-- Something decides over a profile, and the report says what. The event is published exactly if there is a
payload and the publisher takes the token for it. That token is then all that is handed over; unless the
publisher does not take it, nothing is handed over otherwise. -/
theorem serve_decided (d : Dispatcher σ) (o : Occurrence) (p : Profile) (s : Scene (Issuing σ)) :
    (∃ out handed t, d.Decided o p s.state.stamper.next s.services out handed t)
    ∧ ∀ out handed t, d.Decided o p s.state.stamper.next s.services out handed t →
        (∃ s', d.serve o p s = .ok ⟨p.name, p.version, out⟩ s' ∧ s'.state.services = t.state)
        ∧ (∀ ledger, d.Ledger ledger → ledger t.state = ledger s.state.services ++ handed)
        ∧ ∀ uri, out = .published uri ↔ ∃ route payload v t₂,
            d.Encoded o p s.services route payload t₂
            ∧ v = d.announcement o p route s.state.stamper.next payload
            ∧ d.publisher.publish v.token v.context t₂ = .ok (.ok ()) t
            ∧ handed = [v] ∧ route.eventUri = uri := by
  refine ⟨exists_decided d o p _ _, ?_⟩
  intro out handed t h
  refine ⟨h.exists_serve_eq, fun ledger hb => h.ledger_eq hb, ?_⟩
  intro uri
  constructor
  · rintro rfl
    cases h with
    | published hencoded hv hpublish => exact ⟨_, _, _, _, hencoded, hv.symm, hpublish, rfl, rfl⟩
  · rintro ⟨route, payload, v, t₂, hencoded, rfl, hpublish, _, rfl⟩
    obtain ⟨s', hserve, _⟩ := h.exists_serve_eq
    obtain ⟨s'', hserve', _⟩ := (Decided.published hencoded rfl hpublish).exists_serve_eq
    rw [hserve] at hserve'
    cases hserve'
    rfl

/-! ## What a dispatch hands over -/

/-- At most one token is handed over for a profile, and it is made for that profile. -/
theorem Decided.handed_eq {stamp : Stamp} {s : Scene σ} {out : Outcome} {handed : List Published}
    {t : Scene σ} (h : d.Decided o p stamp s out handed t) :
    handed = [] ∨ ∃ v, handed = [v] ∧ v.addressee = (p.name, p.version) := by
  cases h with
  | notPublished hencoded hv _ | publisherPanics hencoded hv _ | published hencoded hv _ =>
    exact .inr ⟨_, rfl, hv ▸ rfl⟩
  | noRoute | managerPanics | ineligible | gatePanics | noEncoder | notEncoded | encoderPanics =>
    exact .inl rfl

/-- For every profile that is served at most one token is recorded. -/
theorem exists_serveAll_recorded {record : σ → List Published}
    {noted : Except Panic (Except PublishError Unit) → Bool} (hb : d.Books record noted) (o : Occurrence)
    (ps : List Profile) (s : Scene (Issuing σ)) :
    ∃ reports s' kept, d.serveAll o ps s = .ok reports s'
      ∧ record s'.state.services = record s.state.services ++ kept
      ∧ (kept.map Published.addressee).Sublist (ps.map fun p => (p.name, p.version)) := by
  induction ps generalizing s with
  | nil => exact ⟨[], s, [], rfl, (List.append_nil _).symm, List.nil_sublist _⟩
  | cons p rest ih =>
    obtain ⟨out, handed, t, hdecided⟩ := exists_decided d o p s.state.stamper.next s.services
    obtain ⟨s₁, hserve, hs₁⟩ := hdecided.exists_serve_eq
    obtain ⟨kept, hrecord, hkept⟩ := hdecided.exists_record_eq hb
    obtain ⟨reports, s₂, others, hrest, hothers, hsublist⟩ := ih s₁
    have hfirst : (kept.map Published.addressee).Sublist [(p.name, p.version)] := by
      rcases hdecided.handed_eq with rfl | ⟨v, rfl, hv⟩
      · rw [List.sublist_nil.1 hkept.sublist]
        exact List.nil_sublist _
      · rw [← hv]
        exact hkept.sublist.map Published.addressee
    refine ⟨reports.cons ⟨p.name, p.version, out⟩, s₂, kept ++ others, ?_, ?_, ?_⟩
    · rw [serveAll, Act.bind_of_ok _ hserve, Act.bind_of_ok _ hrest]
      rfl
    · rw [hothers, hs₁, hrecord, List.append_assoc]
      rfl
    · rw [List.map_append, List.map_cons]
      exact hfirst.append hsublist

/-- Whatever a dispatch comes to, at most one token is recorded for each profile that is listed, in their order. -/
theorem exists_dispatch_recorded {record : σ → List Published}
    {noted : Except Panic (Except PublishError Unit) → Bool} (hb : d.Books record noted)
    (hlist : d.provider.list.Keeps record) (event : Event) (category : Category) (s : Scene (Issuing σ)) :
    ∃ kept, record ((d.dispatch event category).after s).state.services
        = record s.state.services ++ kept
      ∧ (kept = [] ∨ ∃ ps, d.provider.list.answer s.services = .ok (.ok ps)
        ∧ (kept.map Published.addressee).Sublist (ps.map fun p => (p.name, p.version))) := by
  have hnothing {s' : Scene (Issuing σ)} (hafter : (d.dispatch event category).after s = s')
      (hsame : record s'.state.services = record s.state.services) :
      record ((d.dispatch event category).after s).state.services = record s.state.services ++ [] := by
    rw [hafter, hsame, List.append_nil]
  cases hdata : EventData.ofEvent event with
  | error error =>
    exact ⟨[], hnothing (Act.eq_ok_iff.1 (afterListing_of_extraction_error _ hdata)).2 rfl, .inl rfl⟩
  | ok data =>
    cases hlisted : d.provider.list s.services with
    | error panic t =>
      exact ⟨[], hnothing (Act.eq_error_iff.1 (afterListing_of_panic _ hdata hlisted)).2
        (hlist.of_eq_error hlisted), .inl rfl⟩
    | ok answer t =>
      have ht : record t.state = record s.state.services := hlist.of_eq_ok hlisted
      cases answer with
      | error error =>
        exact ⟨[], hnothing (Act.eq_ok_iff.1 (afterListing_of_error _ hdata hlisted)).2 ht, .inl rfl⟩
      | ok ps =>
        obtain ⟨s₁, hs₁, hdispatch⟩ := exists_dispatch_eq_serveAll category hdata hlisted
        obtain ⟨reports, s₂, kept, hserve, hkept, hsublist⟩ :=
          exists_serveAll_recorded hb ⟨event.name, category, data⟩ ps s₁
        obtain ⟨_, hafter⟩ := Act.eq_ok_iff.1 (hdispatch reports s₂ hserve)
        refine ⟨kept, ?_, .inr ⟨ps, (Act.eq_ok_iff.1 hlisted).1, hsublist⟩⟩
        rw [hafter, hkept, hs₁, ht]

end Decided

end Dispatcher

end SecurityEvents
