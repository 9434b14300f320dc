import Mathlib.Data.List.Perm.Basic
import SecurityEvents.Proofs.Dispatch.Interleaving
import SecurityEvents.Proofs.Dispatch.Twins
import SecurityEvents.Proofs.Payload.Flow
import SecurityEvents.Proofs.Payload.Subject
set_option autoImplicit false

/-!
# The flow only decorates payloads

Two events that differ in their flow only are dispatched alike. Of what a dispatch does, only the encoders ask for the
flow, and they only decorate the payload with it (`Schema.alike_payload`); so the two runs are twins, from having the
payload encoded up to the whole dispatch.

Where several profiles are served at a time, the steps of one run have no counterparts in the other. There each run is
compared with what its profiles come to (`agree_of_isDone`), and that is the same but for the flow.
-/

namespace SecurityEvents

/-- Two announcements of events of a category that are the same but for their stamps and for what the flow has to do
with in the payload. -/
structure Published.SameButFlow (category : Category) (v w : Published) : Prop where
  context_eq : v.context = w.context
  issuer_eq : v.token.issuer = w.token.issuer
  correlationId_eq : v.token.correlationId = w.token.correlationId
  subject_eq : v.token.subject = w.token.subject
  events : ∃ schema uri payload other, Schema.ofProfileName? v.context.profileName = some schema
    ∧ v.token.events = .single uri payload ∧ w.token.events = .single uri other
    ∧ schema.SamePayload category payload other

/-- The same occurrence in another flow, or in none. -/
def Occurrence.inFlow (o : Occurrence) (flow : Option Flow) : Occurrence :=
  { o with data := o.data.inFlow flow }

/-- Stamps have nothing to do with it. -/
theorem Published.sameButFlow_unstamped_iff {category : Category} {v w : Published} :
    v.unstamped.SameButFlow category w.unstamped ↔ v.SameButFlow category w :=
  ⟨fun h => ⟨h.context_eq, h.issuer_eq, h.correlationId_eq, h.subject_eq, h.events⟩,
    fun h => ⟨h.context_eq, h.issuer_eq, h.correlationId_eq, h.subject_eq, h.events⟩⟩

/-- Where the flow has nothing to do with the payload, the announcements are the same but for their stamps. -/
theorem Published.SameButFlow.unstamped_eq {category : Category} {v w : Published}
    (h : v.SameButFlow category w)
    (hplain : ∀ schema, Schema.ofProfileName? v.context.profileName = some schema →
      schema.flowMembers category = []) : v.unstamped = w.unstamped := by
  obtain ⟨hcontext, hissuer, hcorrelationId, hsubject, schema, uri, payload, other, hschema, hv, hw, hsame⟩ := h
  rw [Schema.SamePayload, hplain schema hschema, Json.without_nil, Json.without_nil] at hsame
  obtain rfl := Subtype.ext hsame
  obtain ⟨token, context⟩ := v
  obtain ⟨token', context'⟩ := w
  obtain ⟨issuer, issuedAt, id, correlationId, subject, events⟩ := token
  obtain ⟨issuer', issuedAt', id', correlationId', subject', events'⟩ := token'
  cases hcontext
  cases hissuer
  cases hcorrelationId
  cases hsubject
  cases hv
  cases hw
  rfl

/-- Asked in these scenes, the provider answers the same; it leaves the services settled and their record as it is. -/
structure Provider.AnswersAlike {σ : Type} (provider : Provider σ) (settled : σ → Prop)
    (record : σ → List Published) (s t : Scene σ) : Prop where
  answer_eq : provider.list.answer s = provider.list.answer t
  settled_left : settled (provider.list.after s).state
  settled_right : settled (provider.list.after t).state
  keeps : provider.list.Keeps record

theorem Provider.AnswersAlike.meet {σ : Type} {provider : Provider σ} {settled : σ → Prop}
    {record : σ → List Published} {s t : Scene (Issuing σ)}
    (h : provider.AnswersAlike settled record s.services t.services) {fit : Published → Published → Prop} :
    provider.list.ofServices.Meet settled record fit
      (fun answer other => provider.list.answer s.services = .ok answer ∧ answer = other)
      provider.list.ofServices s t := by
  refine Act.meet_of_keeps ?_ ?_ ?_ (h.keeps.ofServices s) (h.keeps.ofServices t)
  · rw [Act.answer_ofServices, Act.answer_ofServices, ← h.answer_eq]
    cases provider.list.answer s.services with
    | error panic => exact alike_error panic
    | ok answer => exact alike_ok ⟨rfl, rfl⟩
  · rw [Act.after_ofServices]
    exact h.settled_left
  · rw [Act.after_ofServices]
    exact h.settled_right

/-- Where lists are the same but for stamps and order, what is the same but for the flow in one has its counterpart in
the other. -/
theorem Published.exists_perm_sameButFlow {category : Category} {tokens others items items' : List Published}
    (htokens : (tokens.map Published.unstamped).Perm (items.map Published.unstamped))
    (hitems : List.Forall₂ (Published.SameButFlow category) items items')
    (hothers : (items'.map Published.unstamped).Perm (others.map Published.unstamped)) :
    ∃ arranged, arranged.Perm others ∧ List.Forall₂ (Published.SameButFlow category) tokens arranged := by
  -- Once stamps are left out, the reordering of one list can be carried over to the list beside it.
  have hbare : List.Forall₂ (Published.SameButFlow category) (items.map Published.unstamped)
      (items'.map Published.unstamped) :=
    List.forall₂_map_left_iff.2 (List.forall₂_map_right_iff.2
      (hitems.imp fun _ _ h => Published.sameButFlow_unstamped_iff.2 h))
  obtain ⟨bare, hsame, hperm⟩ := List.perm_comp_forall₂ htokens hbare
  have hown : List.Forall₂ (fun v w => v = Published.unstamped w) (others.map Published.unstamped) others :=
    List.forall₂_map_left_iff.2 (List.forall₂_same.2 fun _ _ => rfl)
  obtain ⟨arranged, hunstamped, harranged⟩ := List.perm_comp_forall₂ (hperm.trans hothers) hown
  have hstripped : List.Forall₂ (· = ·) bare (arranged.map Published.unstamped) :=
    List.forall₂_map_right_iff.2 hunstamped
  rw [List.forall₂_eq_eq_eq] at hstripped
  subst hstripped
  exact ⟨arranged, harranged, (List.forall₂_map_left_iff.1 (List.forall₂_map_right_iff.1 hsame)).imp
    fun _ _ h => Published.sameButFlow_unstamped_iff.1 h⟩

namespace Dispatcher

variable {σ : Type} {d : Dispatcher σ} {settled : σ → Prop} {record : σ → List Published}
  {noted : Except Panic (Except PublishError Unit) → Bool} {o : Occurrence} {p : Profile} {route : Route}

/-- A dispatcher with the standard encoders and gates, whose publisher answers from the context. -/
structure Standard (d : Dispatcher σ) (settled : σ → Prop) : Prop where
  encoders : d.encoders = .standard d.config
  gates : d.gates = Gate.standard d.config d.publisher
  publisher : d.publisher.AnswersContext settled

theorem Standard.steadyOn_gate (hd : d.Standard settled) {gate : Gate σ} (hgate : gate ∈ d.gates)
    (input : GateInput) : (gate.check input).SteadyOn settled :=
  Gate.steadyOn_of_mem_standard hd.publisher (hd.gates ▸ hgate) input

theorem Standard.steady (hd : d.Standard settled) : d.Steady settled where
  gate _ hgate := hd.steadyOn_gate hgate
  encoder _ _ _ hfind := by
    rw [hd.encoders] at hfind
    exact EncoderRegistry.of_find?_standard (Act.steadyOn_pure settled) hfind
  publisher token other context _ := hd.publisher.publish token other context
  publisher_settled := hd.publisher.publish_settled

/-! ## The stages -/

/-- The standard gates do not ask for the flow. -/
theorem Standard.consult_inFlow (hd : d.Standard settled) (o : Occurrence) (p : Profile) (route : Route)
    (flow : Option Flow) : consult d.gates (o.inFlow flow) p route = consult d.gates o p route := by
  rw [hd.gates]
  rfl

theorem Standard.twins_consult (hd : d.Standard settled) (hb : d.Books record noted) (o : Occurrence)
    (p : Profile) (route : Route) {fit : Published → Published → Prop} (flow : Option Flow) :
    (consult d.gates (o.inFlow flow) p route).Twins settled record fit (· = ·)
      (consult d.gates o p route) := by
  rw [hd.consult_inFlow]
  have hsteady : (Gate.evaluate d.gates (gateInput o p route)).SteadyOn settled :=
    Gate.steadyOn_evaluate fun gate hgate => hd.steadyOn_gate hgate _
  have hkeeps : (Gate.evaluate d.gates (gateInput o p route)).Keeps record :=
    Gate.keeps_evaluate fun gate hgate => hb.gate gate hgate _
  apply (hsteady.twins_ofServices hkeeps).bind
  rintro answer _ rfl
  cases answer <;> exact Act.twins_pure rfl

/-- What comes of having a payload encoded by the standard encoder, which need not support the category. -/
def encoded (d : Dispatcher σ) (schema : Schema) (category : Category) (data : EventData) : Except Stop Payload :=
  if (Encoder.standard d.config schema : Encoder σ).supports category = true then
    (schema.payload d.config category data).mapError fun cause => .fail (.encoding cause)
  else .error (.skip .noEncoder)

theorem encode_eq_of_standard (hencoders : d.encoders = .standard d.config) (o : Occurrence) (schema : Schema) :
    d.encode o schema = pure (d.encoded schema o.category o.data) := by
  unfold encode encoded
  rw [hencoders, EncoderRegistry.find?_standard]
  by_cases hsupports : (Encoder.standard d.config schema : Encoder σ).supports o.category = true
  · rw [if_pos hsupports, if_pos hsupports]
    dsimp only
    rw [Encoder.standard_encode, Act.ofServices_pure, pure_bind]
    cases schema.payload d.config o.category o.data <;> rfl
  · rw [if_neg hsupports, if_neg hsupports]

theorem alike_encoded (d : Dispatcher σ) (schema : Schema) (category : Category) (data : EventData)
    (flow : Option Flow) :
    Alike (schema.SamePayload category) (d.encoded schema category (data.inFlow flow))
      (d.encoded schema category data) := by
  unfold encoded
  split
  · exact (schema.alike_payload d.config category data flow).mapError _
  · exact alike_error _

theorem twins_encode (hencoders : d.encoders = .standard d.config) (o : Occurrence) (schema : Schema)
    {fit : Published → Published → Prop} (flow : Option Flow) :
    (d.encode (o.inFlow flow) schema).Twins settled record fit
      (Alike (schema.SamePayload o.category)) (d.encode o schema) := by
  rw [encode_eq_of_standard hencoders, encode_eq_of_standard hencoders]
  exact Act.twins_pure (d.alike_encoded schema o.category o.data flow)

/-- The tokens are the same but for their stamps and the decoration of the payload. -/
theorem twins_issue (hencoders : d.encoders = .standard d.config)
    (hroute : d.catalog.Routing o.eventName o.category p (.ok (.ok route)))
    {fit : Published → Published → Prop} (flow : Option Flow) :
    (d.issue (o.inFlow flow) p route).Twins settled record fit
      (Alike fun token other =>
        Published.SameButFlow o.category ⟨token, context o p route⟩ ⟨other, context o p route⟩)
      (d.issue o p route) := by
  apply (twins_encode hencoders o route.schema flow).bind
  rintro _ _ (⟨stop, rfl, rfl⟩ | ⟨payload, other, rfl, rfl, hsame⟩)
  · exact Act.twins_pure (alike_error stop)
  · apply Act.twins_stamp.bind
    intro stamp stamp' _
    exact Act.twins_pure (alike_ok ⟨rfl, rfl, rfl, rfl,
      route.schema, route.eventUri, payload, other, hroute.schema_eq, rfl, rfl, hsame⟩)

/-- The publisher does not look at the token. -/
theorem twins_publish (hpublisher : d.publisher.AnswersContext settled) (hb : d.Books record noted)
    {token other : Token} {fit : Published → Published → Prop}
    (hfit : fit ⟨token, context o p route⟩ ⟨other, context o p route⟩) (flow : Option Flow) :
    (d.publish (o.inFlow flow) p route token).Twins settled record fit (· = ·) (d.publish o p route other) := by
  have hhanded : (d.publisher.publish token (context o p route)).ofServices.Twins settled record fit (· = ·)
      (d.publisher.publish other (context o p route)).ofServices := by
    intro s t hs ht
    have hanswer := hpublisher.publish token other (context o p route) s.services t.services hs ht
    refine ⟨?_, ?_, ?_, ?_⟩
    · rw [Act.answer_ofServices, Act.answer_ofServices, hanswer]
      exact alike_refl _
    · rw [Act.after_ofServices]
      exact hpublisher.publish_settled token _ s.services hs
    · rw [Act.after_ofServices]
      exact hpublisher.publish_settled other _ t.services ht
    · rw [Act.after_ofServices, Act.after_ofServices]
      refine ⟨_, _, hb.publisher token _ s.services, hb.publisher other _ t.services, ?_⟩
      rw [hanswer]
      split
      · exact .cons hfit .nil
      · exact .nil
  apply hhanded.bind
  rintro answer _ rfl
  cases answer <;> exact Act.twins_pure rfl

/-! ## One profile after the other -/

variable (hd : d.Standard settled) (hb : d.Books record noted)
include hd hb

theorem Standard.twins_attempt (o : Occurrence) (p : Profile) (flow : Option Flow) :
    (d.attempt (o.inFlow flow) p).Twins settled record (Published.SameButFlow o.category) (· = ·)
      (d.attempt o p) := by
  have hrouting := d.catalog.routing_route o.eventName o.category p
  unfold attempt
  apply (Act.twins_ofExcept (d.catalog.route o.eventName o.category p)).bind
  rintro routed _ ⟨hroute, rfl⟩
  cases routed with
  | error reason => exact Act.twins_pure rfl
  | ok route =>
    rw [hroute] at hrouting
    apply (hd.twins_consult hb o p route flow).bind
    rintro admitted _ rfl
    cases admitted with
    | error stop => exact Act.twins_pure rfl
    | ok allowed =>
      apply (twins_issue hd.encoders hrouting flow).bind
      rintro _ _ (⟨stop, rfl, rfl⟩ | ⟨token, other, rfl, rfl, hsame⟩)
      · exact Act.twins_pure rfl
      · exact twins_publish hd.publisher hb hsame flow

theorem Standard.twins_serve (o : Occurrence) (p : Profile) (flow : Option Flow) :
    (d.serve (o.inFlow flow) p).Twins settled record (Published.SameButFlow o.category) (· = ·)
      (d.serve o p) := by
  apply (hd.twins_attempt hb o p flow).caught.bind
  intro result _ hresult
  obtain rfl := hresult.eq
  apply (Act.twins_note _).bind
  exact fun _ _ _ => Act.twins_pure rfl

/-- Profiles are served alike whatever flow an event happens in, one after the other. -/
theorem Standard.twins_serveAll (o : Occurrence) (ps : List Profile) (flow : Option Flow) :
    (d.serveAll (o.inFlow flow) ps).Twins settled record (Published.SameButFlow o.category) (· = ·)
      (d.serveAll o ps) := by
  induction ps with
  | nil => exact Act.twins_pure rfl
  | cons p rest ih =>
    apply (hd.twins_serve hb o p flow).bind
    rintro report _ rfl
    apply ih.bind
    rintro reports _ rfl
    exact Act.twins_pure rfl

/-! ## A dispatch -/

section Dispatch

variable {s t : Scene (Issuing σ)} (hlist : d.provider.AnswersAlike settled record s.services t.services)
  (hs : settled s.state.services) (ht : settled t.state.services)
include hlist hs ht

/-- The same event is dispatched alike in another flow. -/
theorem Standard.meet_dispatch (event : Event) (flow : Option Flow) (category : Category) :
    (d.dispatch (event.capturedIn flow) category).Meet settled record (Published.SameButFlow category) (· = ·)
      (d.dispatch event category) s t := by
  unfold dispatch
  rw [EventData.ofEvent_capturedIn]
  cases EventData.ofEvent event with
  | error error => exact Act.twins_pure rfl s t hs ht
  | ok data =>
    apply hlist.meet.bind
    rintro answer _ ⟨_, rfl⟩
    cases answer with
    | error error => exact Act.twins_pure rfl
    | ok ps =>
      have hreport := (hd.twins_serveAll hb ⟨event.name, category, data⟩ ps flow).bind
        fun reports reports' (h : reports = reports') => Act.twins_pure
          (congrArg (fun reports => (.ok ⟨event.name, category, reports⟩ : Except Error Report)) h)
      dsimp only
      split
      · exact (Act.twins_note .noProfiles).bind fun _ _ _ => hreport
      · exact hreport

omit hd hb in
/-- Either the event fails as a whole, whatever would be done with the profiles, or the same profiles are listed. -/
theorem meet_or_lists (event : Event) (flow : Option Flow) (fit : Published → Published → Prop) :
    (∀ {α : Type} (next next' : EventData → List Profile → Act (Issuing σ) (Except Error α)),
      (d.afterListing (event.capturedIn flow) next).Meet settled record fit (Alike fun _ _ => False)
        (d.afterListing event next') s t)
    ∨ ∃ data ps, EventData.ofEvent event = .ok data ∧ d.provider.Lists settled record s.services ps
      ∧ d.provider.Lists settled record t.services ps := by
  unfold afterListing
  rw [EventData.ofEvent_capturedIn]
  cases EventData.ofEvent event with
  | error error => exact .inl fun _ _ => Act.twins_pure (alike_error error) s t hs ht
  | ok data =>
    cases hanswer : d.provider.list.answer s.services with
    | error panic =>
      refine .inl fun _ _ => hlist.meet.bind ?_
      rintro answer _ ⟨hok, rfl⟩
      rw [hanswer] at hok
      cases hok
    | ok answer =>
      cases answer with
      | error error =>
        refine .inl fun _ _ => hlist.meet.bind ?_
        rintro answer _ ⟨hok, rfl⟩
        rw [hanswer] at hok
        cases hok
        exact Act.twins_pure (alike_error error)
      | ok ps =>
        exact .inr ⟨data, ps, rfl, ⟨hanswer, hlist.settled_left, hlist.keeps _⟩,
          ⟨hlist.answer_eq ▸ hanswer, hlist.settled_right, hlist.keeps _⟩⟩

end Dispatch

end Dispatcher

/-! ## Several profiles at a time -/

/-- When all profiles were served in both, the reports are the same up to order, and what was recorded is the same up to
order, stamps and what the flow has to do with. -/
def FanOut.SameWhenDone {σ : Type} (category : Category) (tokens others : List Published) (f f' : FanOut σ) : Prop :=
  f.isDone = true → f'.isDone = true → f.reports.Perm f'.reports
    ∧ ∃ arranged, arranged.Perm others ∧ List.Forall₂ (Published.SameButFlow category) tokens arranged

namespace Dispatcher

variable {σ : Type} {d : Dispatcher σ} {settled : σ → Prop} {record : σ → List Published} {s t : Scene (Issuing σ)}
  (hd : d.Standard settled) (hb : d.Books record isTaken)
include hd hb

/-- What the profiles come to is the same but for the flow. -/
theorem Standard.exists_comesTo (o : Occurrence) (ps : List Profile) (flow : Option Flow)
    (hs : settled s.state.services) :
    ∃ served served', List.Forall₂ (d.ComesTo settled record (o.inFlow flow)) ps served
      ∧ List.Forall₂ (d.ComesTo settled record o) ps served'
      ∧ served.map Served.report = served'.map Served.report
      ∧ List.Forall₂ (Published.SameButFlow o.category) (served.flatMap Served.items)
          (served'.flatMap Served.items) := by
  obtain ⟨_, served, hserve, hrecord, hserved⟩ := exists_serveAll hd.steady hb (o.inFlow flow) ps hs
  obtain ⟨_, served', hserve', hrecord', hserved'⟩ := exists_serveAll hd.steady hb o ps hs
  obtain ⟨hanswer, rfl⟩ := Act.eq_ok_iff.1 hserve
  obtain ⟨hanswer', rfl⟩ := Act.eq_ok_iff.1 hserve'
  obtain ⟨hsame, _, _, new, more, hnew, hmore, hfit⟩ := hd.twins_serveAll hb o ps flow s s hs hs
  have hreports := hsame.eq
  rw [hanswer, hanswer'] at hreports
  obtain rfl := List.append_cancel_left (hrecord.symm.trans hnew)
  obtain rfl := List.append_cancel_left (hrecord'.symm.trans hmore)
  exact ⟨served, served', hserved, hserved', Except.ok.inj hreports, hfit⟩

/-- The same event is dispatched alike in another flow, also if several profiles are served at a time. -/
theorem Standard.alike_fanOut (hlist : d.provider.AnswersAlike settled record s.services t.services)
    (hs : settled s.state.services) (ht : settled t.state.services) (event : Event) (flow : Option Flow)
    (category : Category) {moves moves' : List (Move σ)}
    (hmoves : ∀ act, .disturb act ∈ moves → act.Harmless settled record)
    (hmoves' : ∀ act, .disturb act ∈ moves' → act.Harmless settled record) :
    ∃ tokens others,
      record ((d.fanOut (event.capturedIn flow) category moves).after s).state.services
          = record s.state.services ++ tokens
      ∧ record ((d.fanOut event category moves').after t).state.services = record t.state.services ++ others
      ∧ Alike (Alike (FanOut.SameWhenDone category tokens others))
          ((d.fanOut (event.capturedIn flow) category moves).answer s)
          ((d.fanOut event category moves').answer t) := by
  rcases meet_or_lists hlist hs ht event flow (Published.SameButFlow category) with
    hfails | ⟨data, ps, hdata, hps, hps'⟩
  · obtain ⟨hanswers, _, _, tokens, others, htokens, hothers, _⟩ := hfails _ _
    exact ⟨tokens, others, htokens, hothers, hanswers.imp fun _ _ h => h.imp fun _ _ h => h.elim⟩
  have hdata' : EventData.ofEvent (event.capturedIn flow) = .ok (data.inFlow flow) := by
    rw [EventData.ofEvent_capturedIn, hdata]
    rfl
  obtain ⟨f, _, s', hrun, hs₁, hcontinues⟩ :=
    exists_fanOut hd.steady hb category hdata' hs hps hmoves fun h : False => h.elim
  obtain ⟨f', _, t', hrun', ht₁, hcontinues'⟩ :=
    exists_fanOut hd.steady hb category hdata hs hps' hmoves' fun h : False => h.elim
  obtain ⟨tokens, htokens, _⟩ := hcontinues.dues_agree
  obtain ⟨others, hothers, _⟩ := hcontinues'.dues_agree
  obtain ⟨hanswer, hafter⟩ := Act.eq_ok_iff.1 hrun
  obtain ⟨hanswer', hafter'⟩ := Act.eq_ok_iff.1 hrun'
  rw [hanswer, hafter, hanswer', hafter', ← hs₁, ← ht₁]
  refine ⟨tokens, others, htokens, hothers, alike_ok (alike_ok fun hdone hdone' => ?_)⟩
  -- Neither run is compared with the other, but each with what its profiles come to one after the other.
  obtain ⟨served, served', hserved, hserved', hreports, hitems⟩ :=
    hd.exists_comesTo hb ⟨event.name, category, data⟩ ps flow hs
  obtain ⟨hdoneReports, hdoneTokens⟩ := agree_of_isDone hd.steady hb hs hserved hcontinues hdone htokens
  obtain ⟨hdoneReports', hdoneTokens'⟩ :=
    agree_of_isDone hd.steady hb hs hserved' hcontinues' hdone' hothers
  exact ⟨hdoneReports.1.trans (hreports ▸ hdoneReports'.1.symm),
    Published.exists_perm_sameButFlow hdoneTokens.1 hitems hdoneTokens'.1.symm⟩

omit hd hb in
/-- Two events that differ in their flow only are dispatched alike by the standard encoders and gates, if the publisher
answers from the context: the error or the report is the same, and so is what is recorded, but for stamps and for what
the flow has to do with in a payload. If several profiles are served at a time, so are the reports and what is recorded
up to order. What is announced of a login or of a lock, or in the RISC schema, is the same whatever the flow, and
no flow makes an encoder fail. -/
theorem flow_only_decorates (hd : d.Standard settled)
    {noted : Except Panic (Except PublishError Unit) → Bool} (hb : d.Books record noted)
    (hlist : d.provider.AnswersAlike settled record s.services t.services) (hs : settled s.state.services)
    (ht : settled t.state.services) (event : Event) (flow : Option Flow) (category : Category) :
    (∃ tokens others,
      (d.dispatch (event.capturedIn flow) category).answer s = (d.dispatch event category).answer t
      ∧ record ((d.dispatch (event.capturedIn flow) category).after s).state.services
          = record s.state.services ++ tokens
      ∧ record ((d.dispatch event category).after t).state.services = record t.state.services ++ others
      ∧ List.Forall₂ (Published.SameButFlow category) tokens others)
    ∧ (noted = isTaken → ∀ moves moves' : List (Move σ),
        (∀ act, .disturb act ∈ moves → act.Harmless settled record) →
        (∀ act, .disturb act ∈ moves' → act.Harmless settled record) →
        ∃ tokens others,
          record ((d.fanOut (event.capturedIn flow) category moves).after s).state.services
              = record s.state.services ++ tokens
          ∧ record ((d.fanOut event category moves').after t).state.services = record t.state.services ++ others
          ∧ Alike (Alike (FanOut.SameWhenDone category tokens others))
              ((d.fanOut (event.capturedIn flow) category moves).answer s)
              ((d.fanOut event category moves').answer t))
    ∧ (∀ v w : Published, v.SameButFlow category w →
        category ∈ [.loginSuccess, .loginFailure, .userLocked, .userUnlocked]
          ∨ Schema.ofProfileName? v.context.profileName = some .risc → v.unstamped = w.unstamped)
    ∧ ∀ (schema : Schema) (data : EventData) (cause : EncodeError),
        schema.payload d.config category (data.inFlow flow) = .error cause
          ↔ schema.payload d.config category data = .error cause := by
  refine ⟨?_, ?_, fun v w hsame hplain => hsame.unstamped_eq ?_, fun schema data cause =>
    (schema.alike_payload d.config category data flow).eq_error_iff cause⟩
  · obtain ⟨hanswers, _, _, tokens, others, htokens, hothers, hsame⟩ :=
      hd.meet_dispatch hb hlist hs ht event flow category
    exact ⟨tokens, others, hanswers.eq, htokens, hothers, hsame⟩
  · rintro rfl moves moves' hmoves hmoves'
    exact hd.alike_fanOut hb hlist hs ht event flow category hmoves hmoves'
  · intro schema hschema
    rcases hplain with hcategory | hrisc
    · exact schema.flowMembers_eq_nil hcategory
    · obtain rfl := Option.some.inj (hschema.symm.trans hrisc)
      rfl

end Dispatcher

/-! ## A rehearsal in two flows -/

namespace Rehearsal

/-- A dispatcher with the standard catalog, encoders and gates. -/
def standardGated : Dispatcher Stage :=
  { Dispatcher.standardRehearsal with
    gates := Gate.standard Dispatcher.standardRehearsal.config PublisherKind.recording.publisher }

/-- The session of the same user ends, in a flow that nobody knows. -/
def endedSession : Event :=
  ⟨EventName.sessionTerminate, Dispatcher.lockedAccount.parameters, some ⟨"UNHEARD_OF", some "NOBODY"⟩⟩

theorem standard_standardGated : standardGated.Standard (Stage.Told [] []) :=
  ⟨rfl, rfl, answersContext_recording⟩

theorem books_standardGated : standardGated.Books Stage.recorded isTaken where
  gate gate hgate := Dispatcher.books_standardRehearsal.gate gate (List.mem_append_left _ hgate)
  encoder := Dispatcher.books_standardRehearsal.encoder
  publisher := Dispatcher.books_standardRehearsal.publisher

theorem answersAlike_standardGated :
    standardGated.provider.AnswersAlike (Stage.Told [] []) Stage.recorded Dispatcher.standardScene.services
      Dispatcher.standardScene.services :=
  ⟨rfl, ⟨rfl, rfl⟩, ⟨rfl, rfl⟩, Provider.keeps_memory aside⟩

/-- An administrator resets the credentials of a user. -/
def reset : Option Flow :=
  some (.known .credentialReset .admin)

/-- What is recorded of the session if it ends in a flow. -/
def recordedIn (flow : Option Flow) : List Published :=
  Stage.recorded ((standardGated.dispatch (endedSession.capturedIn flow) .tokenRevoke).after
    Dispatcher.standardScene).state.services

/-- Two tokens are recorded, and the flow is seen in them. -/
theorem recordedIn_reset : (recordedIn reset).length = 2 ∧ recordedIn reset ≠ recordedIn endedSession.flow := by
  decide +kernel

end Rehearsal

theorem Dispatcher.rehearsed_flow_only_decorates :
    (Rehearsal.standardGated.dispatch (Rehearsal.endedSession.capturedIn Rehearsal.reset) .tokenRevoke).answer
        standardScene
      = (Rehearsal.standardGated.dispatch Rehearsal.endedSession .tokenRevoke).answer standardScene
    ∧ (Rehearsal.recordedIn Rehearsal.reset).length = 2
    ∧ Rehearsal.recordedIn Rehearsal.reset ≠ Rehearsal.recordedIn Rehearsal.endedSession.flow
    ∧ List.Forall₂ (Published.SameButFlow .tokenRevoke) (Rehearsal.recordedIn Rehearsal.reset)
        (Rehearsal.recordedIn Rehearsal.endedSession.flow) := by
  have htold : Stage.Told [] [] standardScene.state.services := ⟨rfl, rfl⟩
  obtain ⟨⟨tokens, others, hanswer, htokens, hothers, hsame⟩, _⟩ :=
    flow_only_decorates Rehearsal.standard_standardGated Rehearsal.books_standardGated
      Rehearsal.answersAlike_standardGated htold htold Rehearsal.endedSession Rehearsal.reset .tokenRevoke
  have hempty : Stage.recorded standardScene.state.services = [] := rfl
  have hown : Rehearsal.endedSession.capturedIn Rehearsal.endedSession.flow = Rehearsal.endedSession := rfl
  rw [hempty, List.nil_append, ← Rehearsal.recordedIn] at htokens
  rw [hempty, List.nil_append, ← hown, ← Rehearsal.recordedIn] at hothers
  obtain ⟨hlength, hdiffer⟩ := Rehearsal.recordedIn_reset
  refine ⟨hanswer, hlength, hdiffer, ?_⟩
  rw [htokens, hothers]
  exact hsame

end SecurityEvents
