import Mathlib.Data.List.Forall2
import SecurityEvents.Proofs.Dispatch.Announcing
import SecurityEvents.Proofs.Dispatch.Interleaving
set_option autoImplicit false

/-!
# How the serving of a profile ends

What is reported of a profile depends first on the route: without one the report says why, and with one the event
is either published under the URI of the route, or it was stopped by a gate, an encoder, the publisher or a panic.
`Dispatcher.Ends` lists these ends, whatever the services are. A pipeline keeps to them from its first step to its
last (`exists_advance_keepsTo`), so all that is reported in a dispatch is such an end, for each profile that is
listed, whether profiles are served one after the other or several at a time.
-/

namespace SecurityEvents

namespace Dispatcher

variable {σ : Type} {d : Dispatcher σ} {o : Occurrence} {p : Profile} {route : Route}

/-- What may become of an event for a profile once there is a route. -/
inductive EndsOn (d : Dispatcher σ) (o : Occurrence) (p : Profile) (route : Route) : Outcome → Prop where
  | ineligible (denial : Denial) : EndsOn d o p route (.skipped (.ineligible denial))
  | noEncoder (hnone : d.encoders.find? route.schema o.category = none) :
    EndsOn d o p route (.skipped .noEncoder)
  | notEncoded {encoder : Encoder σ} {cause : EncodeError} {s s' : Scene σ}
    (hencoder : d.encoders.find? route.schema o.category = some encoder)
    (hencode : encoder.encode o.category o.data s = .ok (.error cause) s') :
    EndsOn d o p route (.failed (.encoding cause))
  | notPublished (cause : PublishError) : EndsOn d o p route (.failed (.publishFailed p.name cause.message))
  | panics (panic : Panic) : EndsOn d o p route (.failed (.profilePanicked p.name panic.message))
  | published : EndsOn d o p route (.published route.eventUri)

/-- What may become of an event for a profile. -/
inductive Ends (d : Dispatcher σ) (o : Occurrence) (p : Profile) : Outcome → Prop where
  | noRoute {reason : SkipReason}
    (hroute : d.catalog.Routing o.eventName o.category p (.ok (.error reason))) : Ends d o p (.skipped reason)
  | managerPanics {panic : Panic} (hroute : d.catalog.Routing o.eventName o.category p (.error panic)) :
    Ends d o p (.failed (.profilePanicked p.name panic.message))
  | onRoute {route : Route} {out : Outcome}
    (hroute : d.catalog.Routing o.eventName o.category p (.ok (.ok route))) (hends : d.EndsOn o p route out) :
    Ends d o p out

/-- The report is about the profile, and tells an end. -/
structure Reports (d : Dispatcher σ) (o : Occurrence) (p : Profile) (r : ProfileReport) : Prop where
  name_eq : r.name = p.name
  version_eq : r.version = p.version
  ends : d.Ends o p r.outcome

/-! ## One profile after the other -/

theorem Encoded.routing {s s₂ : Scene σ} {payload : Payload} (h : d.Encoded o p s route payload s₂) :
    d.catalog.Routing o.eventName o.category p (.ok (.ok route)) := by
  obtain ⟨s₁, encoder, hadmitted, _, _⟩ := h
  exact hadmitted.routing

theorem Encoded.encodes {s s₂ : Scene σ} {payload : Payload} (h : d.Encoded o p s route payload s₂) :
    d.Encodes o route.schema payload := by
  obtain ⟨s₁, encoder, _, hencoder, hencode⟩ := h
  exact ⟨encoder, s₁, s₂, hencoder, hencode⟩

/-- Whatever decides over a profile, it is one of the ends. -/
theorem Decided.ends {stamp : Stamp} {s t : Scene σ} {out : Outcome} {handed : List Published}
    (h : d.Decided o p stamp s out handed t) : d.Ends o p out := by
  cases h with
  | noRoute hroute => exact .noRoute hroute
  | managerPanics hroute => exact .managerPanics hroute
  | ineligible hroute => exact .onRoute hroute (.ineligible _)
  | gatePanics hroute => exact .onRoute hroute (.panics _)
  | noEncoder hadmitted hnone => exact .onRoute hadmitted.routing (.noEncoder hnone)
  | notEncoded hadmitted hencoder hencode =>
    exact .onRoute hadmitted.routing (.notEncoded hencoder hencode)
  | encoderPanics hadmitted => exact .onRoute hadmitted.routing (.panics _)
  | notPublished hencoded => exact .onRoute hencoded.routing (.notPublished _)
  | publisherPanics hencoded => exact .onRoute hencoded.routing (.panics _)
  | published hencoded => exact .onRoute hencoded.routing .published

/-- What is handed over for a profile announces the event to it. -/
theorem Decided.announces {stamp : Stamp} {s t : Scene σ} {out : Outcome} {handed : List Published}
    (h : d.Decided o p stamp s out handed t) : ∀ v ∈ handed, d.Announces o p v := by
  cases h with
  | noRoute | managerPanics | ineligible | gatePanics | noEncoder | notEncoded | encoderPanics =>
    exact fun v hv => (List.not_mem_nil hv).elim
  | notPublished hencoded hv | publisherPanics hencoded hv | published hencoded hv =>
    intro w hw
    rw [List.mem_singleton.1 hw]
    exact ⟨_, _, stamp, hencoded.routing, hencoded.encodes, hv⟩

theorem Announces.addressee_eq {v : Published} (h : d.Announces o p v) : v.addressee = (p.name, p.version) := by
  obtain ⟨route, payload, stamp, _, _, rfl⟩ := h
  rfl

/-- What a dispatch came to for a profile: an end is reported, and what was recorded announces the event to it. -/
structure Accounts (d : Dispatcher σ) (o : Occurrence) (p : Profile) (x : Served) : Prop where
  reports : d.Reports o p x.report
  announces : ∀ v ∈ x.items, d.Announces o p v

theorem exists_serveAll_accounts {record : σ → List Published}
    {noted : Except Panic (Except PublishError Unit) → Bool} (hb : d.Books record noted) (o : Occurrence)
    (ps : List Profile) (s : Scene (Issuing σ)) :
    ∃ served s', d.serveAll o ps s = .ok (served.map Served.report) s'
      ∧ record s'.state.services = record s.state.services ++ served.flatMap Served.items
      ∧ List.Forall₂ (d.Accounts o) ps served := by
  induction ps generalizing s with
  | nil => exact ⟨[], s, rfl, (List.append_nil _).symm, .nil⟩
  | cons p rest ih =>
    obtain ⟨out, handed, t, hdecided⟩ := exists_decided d o p s.state.stamper.next s.services
    obtain ⟨s₁, hserve, hs₁⟩ := hdecided.exists_serve_eq
    obtain ⟨kept, hrecord, hkept⟩ := hdecided.exists_record_eq hb
    obtain ⟨served, s₂, hrest, hmore, hserved⟩ := ih s₁
    have hfirst : d.Accounts o p ⟨⟨p.name, p.version, out⟩, kept⟩ :=
      ⟨⟨rfl, rfl, hdecided.ends⟩, fun v hv => hdecided.announces v (hkept.sublist.subset hv)⟩
    refine ⟨⟨⟨p.name, p.version, out⟩, kept⟩ :: served, s₂, ?_, ?_, .cons hfirst hserved⟩
    · rw [serveAll, Act.bind_of_ok _ hserve, Act.bind_of_ok _ hrest]
      rfl
    · rw [hmore, hs₁, hrecord, List.append_assoc, List.flatMap_cons]
      rfl

/-! ## Several profiles at a time -/

/-- A pipeline that is under way has a route, and one that has ended came to one of the ends. -/
def KeepsTo (d : Dispatcher σ) (o : Occurrence) (p : Profile) : Progress σ → Prop
  | .entered => True
  | .routed route _ | .tokenReady route _ => d.catalog.Routing o.eventName o.category p (.ok (.ok route))
  | .ended result => d.Ends o p (outcome p result)

/-- What stops the making of a token is one of the ends. -/
theorem ensures_issue_endsOn (d : Dispatcher σ) (o : Occurrence) (p : Profile) (route : Route) :
    (d.issue o p route).Ensures fun answer =>
      ∀ stop, answer = .error stop → d.EndsOn o p route (outcome p (.ok (.error stop))) := by
  have hencode : (d.encode o route.schema).Ensures fun answer =>
      ∀ stop, answer = .error stop → d.EndsOn o p route (outcome p (.ok (.error stop))) := by
    unfold encode
    cases hfind : d.encoders.find? route.schema o.category with
    | none =>
      apply Act.ensures_pure
      rintro stop ⟨⟩
      exact .noEncoder hfind
    | some encoder =>
      have hanswered : (encoder.encode o.category o.data).ofServices.Ensures fun answer =>
          ∃ s s', encoder.encode o.category o.data s = .ok answer s' := by
        refine ⟨fun s answer s' hs => ?_⟩
        have hanswer := (Act.eq_ok_iff.1 hs).1
        rw [Act.answer_ofServices] at hanswer
        exact ⟨_, _, Act.eq_ok_iff.2 ⟨hanswer, rfl⟩⟩
      apply hanswered.bind
      intro answer hanswer
      cases answer with
      | ok payload => exact Act.ensures_pure fun _ hstop => nomatch hstop
      | error cause =>
        obtain ⟨s, s', hencode⟩ := hanswer
        apply Act.ensures_pure
        rintro stop ⟨⟩
        exact .notEncoded hfind hencode
  apply hencode.bind
  intro encoded hencoded
  cases encoded with
  | error stop =>
    apply Act.ensures_pure
    rintro other ⟨⟩
    exact hencoded stop rfl
  | ok payload =>
    apply (Act.ensures_true (Act.stamp : Act (Issuing σ) Stamp)).bind
    intro stamp _
    exact Act.ensures_pure fun _ hstop => nomatch hstop

theorem ensures_publish_endsOn (d : Dispatcher σ) (o : Occurrence) (p : Profile) (route : Route)
    (token : Token) :
    (d.publish o p route token).Ensures fun answer => d.EndsOn o p route (outcome p (.ok answer)) := by
  apply (Act.ensures_true (d.publisher.publish token (context o p route)).ofServices).bind
  intro answer _
  cases answer with
  | ok taken => exact Act.ensures_pure .published
  | error cause => exact Act.ensures_pure (.notPublished cause)

/-- A step that does not panic keeps to the ends. -/
theorem ensures_proceed_keepsTo {progress : Progress σ} (h : d.KeepsTo o p progress) :
    (d.proceed o p progress).Ensures (d.KeepsTo o p) := by
  cases progress with
  | entered =>
    have hrouting := d.catalog.routing_route o.eventName o.category p
    have hroute : (Act.ofExcept (d.catalog.route o.eventName o.category p)
        : Act (Issuing σ) (Except SkipReason Route)).Ensures
          fun routed => d.catalog.route o.eventName o.category p = .ok routed :=
      ⟨fun s routed s' hs => (Act.answer_ofExcept _ s).symm.trans (Act.eq_ok_iff.1 hs).1⟩
    apply hroute.bind
    intro routed hrouted
    rw [hrouted] at hrouting
    cases routed with
    | error reason => exact Act.ensures_pure (.noRoute hrouting)
    | ok route => exact Act.ensures_pure hrouting
  | routed route gates =>
    cases gates with
    | nil =>
      apply (ensures_issue_endsOn d o p route).bind
      intro issued hissued
      cases issued with
      | error stop => exact Act.ensures_pure (.onRoute h (hissued stop rfl))
      | ok token => exact Act.ensures_pure h
    | cons gate rest =>
      apply (Act.ensures_true (gate.check (gateInput o p route)).ofServices).bind
      intro decision _
      cases decision with
      | deny reason => exact Act.ensures_pure (.onRoute h (.ineligible _))
      | allow => exact Act.ensures_pure h
  | tokenReady route token =>
    apply (ensures_publish_endsOn d o p route token).bind
    intro answer hanswer
    exact Act.ensures_pure (.onRoute h hanswer)
  | ended result => exact Act.ensures_pure h

/-- A panic in a step is one of the ends. -/
theorem ends_of_proceed_panic {progress : Progress σ} (h : d.KeepsTo o p progress) {panic : Panic}
    {s s' : Scene (Issuing σ)} (hpanic : d.proceed o p progress s = .error panic s') :
    d.Ends o p (outcome p (.error panic)) := by
  cases progress with
  | entered =>
    have hrouting := d.catalog.routing_route o.eventName o.category p
    rw [proceed] at hpanic
    cases hroute : d.catalog.route o.eventName o.category p with
    | error cause =>
      rw [hroute] at hpanic hrouting
      cases hpanic
      exact .managerPanics hrouting
    | ok routed =>
      rw [hroute] at hpanic
      cases routed <;> cases hpanic
  | routed route gates => exact .onRoute h (.panics panic)
  | tokenReady route token => exact .onRoute h (.panics panic)
  | ended result => cases hpanic

/-- A step keeps to the ends. -/
theorem exists_advance_keepsTo {progress : Progress σ} (h : d.KeepsTo o p progress)
    (s : Scene (Issuing σ)) :
    ∃ progress' s', d.advance o p progress s = .ok progress' s' ∧ d.KeepsTo o p progress' := by
  cases hproceed : d.proceed o p progress s with
  | error panic t =>
    refine ⟨.ended (.error panic), t, ?_, ends_of_proceed_panic h hproceed⟩
    rw [advance, Act.bind_of_ok _ (Act.caught_of_error hproceed)]
    rfl
  | ok progress' t =>
    refine ⟨progress', t, ?_, (ensures_proceed_keepsTo h).good_answer s progress' t hproceed⟩
    rw [advance, Act.bind_of_ok _ (Act.caught_of_ok hproceed)]
    rfl

end Dispatcher

namespace FanOut

variable {σ : Type} {d : Dispatcher σ} {o : Occurrence} {ps : List Profile} {f : FanOut σ}

/-- The profiles that have reported, those in flight and those that wait are the ones that are listed, and all
keep to the ends. -/
structure Accounts (d : Dispatcher σ) (o : Occurrence) (ps : List Profile) (f : FanOut σ)
    (served : List Profile) : Prop where
  perm : (served ++ (f.inFlight.map Pipeline.profile ++ f.waiting)).Perm ps
  inFlight : ∀ x ∈ f.inFlight, d.KeepsTo o x.profile x.progress
  reports : List.Forall₂ (d.Reports o) served f.reports

variable {served : List Profile}

theorem Accounts.start (h : f.Accounts d o ps served) (limit : Nat) :
    (f.start limit).Accounts d o ps served := by
  unfold FanOut.start
  split
  · exact h
  · rename_i p rest hwaiting
    split
    · have hperm := h.perm
      rw [hwaiting] at hperm
      refine ⟨?_, fun x hx => ?_, h.reports⟩
      · rw [List.map_append, List.append_assoc]
        exact hperm
      · rcases List.mem_append.1 hx with hx | hx
        · exact h.inFlight x hx
        · obtain rfl := List.mem_singleton.1 hx
          trivial
    · exact h

/-- A pipeline that takes a step keeps its place. -/
theorem Accounts.set (h : f.Accounts d o ps served) {place : Nat} {p : Profile}
    {progress progress' : Progress σ} (hplace : f.inFlight[place]? = some ⟨p, progress⟩)
    (hprogress' : d.KeepsTo o p progress') :
    Accounts d o ps { f with inFlight := f.inFlight.set place ⟨p, progress'⟩ } served := by
  obtain ⟨before, after, rfl, hsplit, _, hset⟩ := exists_split_of_getElem? hplace
  refine ⟨?_, fun x hx => ?_, h.reports⟩
  · have hprofiles : (f.inFlight.set before.length ⟨p, progress'⟩).map Pipeline.profile
        = f.inFlight.map Pipeline.profile := by
      rw [hset, hsplit, List.map_append, List.map_append]
      rfl
    rw [hprofiles]
    exact h.perm
  · rcases List.mem_or_eq_of_mem_set hx with hx | rfl
    · exact h.inFlight x hx
    · exact hprogress'

/-- A pipeline that has ended reports its end. -/
theorem Accounts.report (h : f.Accounts d o ps served) {place : Nat} {p : Profile}
    {result : Except Panic (Except Stop String)} (hplace : f.inFlight[place]? = some ⟨p, .ended result⟩) :
    Accounts d o ps
      { f with
        inFlight := f.inFlight.eraseIdx place
        reports := f.reports ++ [⟨p.name, p.version, Dispatcher.outcome p result⟩] } (served ++ [p]) := by
  have hends : d.Ends o p (Dispatcher.outcome p result) := h.inFlight _ (List.mem_of_getElem? hplace)
  obtain ⟨before, after, rfl, hsplit, herase, _⟩ := exists_split_of_getElem? hplace
  refine ⟨?_, fun x hx => h.inFlight x (List.mem_of_mem_eraseIdx hx), ?_⟩
  · have hmiddle : (p :: (before.map Pipeline.profile ++ after.map Pipeline.profile)).Perm
        (before.map Pipeline.profile ++ p :: after.map Pipeline.profile) := List.perm_middle.symm
    have hperm := h.perm
    rw [hsplit, List.map_append, List.map_cons] at hperm
    refine List.Perm.trans ?_ hperm
    rw [herase, List.map_append, List.append_assoc]
    exact (hmiddle.append_right f.waiting).append_left served
  · exact List.rel_append h.reports (.cons ⟨rfl, rfl, hends⟩ .nil)

theorem exists_play_accounts (h : f.Accounts d o ps served) (move : Move σ) (s : Scene (Issuing σ)) :
    ∃ f' served' s', f.play d o move s = .ok f' s' ∧ f'.Accounts d o ps served' := by
  cases move with
  | start => exact ⟨_, served, s, rfl, h.start _⟩
  | advance place =>
    rw [play, advance]
    cases hplace : f.inFlight[place]? with
    | none => exact ⟨f, served, s, rfl, h⟩
    | some x =>
      obtain ⟨p, progress⟩ := x
      have hprogress : d.KeepsTo o p progress := h.inFlight _ (List.mem_of_getElem? hplace)
      cases progress with
      | ended result => exact ⟨_, served ++ [p], _, rfl, h.report hplace⟩
      | entered | routed | tokenReady =>
        obtain ⟨progress', s', hadvance, hprogress'⟩ := Dispatcher.exists_advance_keepsTo hprogress s
        exact ⟨_, served, s', Act.bind_of_ok _ hadvance, h.set hplace hprogress'⟩
  | disturb act =>
    obtain ⟨answer, s', hcaught⟩ := Act.exists_caught_eq_ok act.ofServices s
    exact ⟨f, served, s', Act.bind_of_ok _ hcaught, h⟩

/-- Whatever the moves, the profiles that are listed are accounted for. -/
theorem exists_playAll_accounts (h : f.Accounts d o ps served) (moves : List (Move σ))
    (s : Scene (Issuing σ)) :
    ∃ f' served' s', playAll d o moves f s = .ok f' s' ∧ f'.Accounts d o ps served' := by
  induction moves generalizing f served s with
  | nil => exact ⟨f, served, s, rfl, h⟩
  | cons move rest ih =>
    obtain ⟨f₁, served₁, s₁, hplay, h₁⟩ := exists_play_accounts h move s
    obtain ⟨f₂, served₂, s₂, hrest, h₂⟩ := ih h₁ s₁
    refine ⟨f₂, served₂, s₂, ?_, h₂⟩
    rw [playAll, Act.bind_of_ok _ hplay, hrest]

theorem accounts_waiting (d : Dispatcher σ) (o : Occurrence) (ps : List Profile) :
    Accounts d o ps { waiting := ps } [] :=
  ⟨List.Perm.refl ps, fun _ hx => (List.not_mem_nil hx).elim, .nil⟩

end FanOut

/-! ## A dispatch -/

namespace Dispatcher

variable {σ : Type} {d : Dispatcher σ} {record : σ → List Published}
  {noted : Except Panic (Except PublishError Unit) → Bool} {event : Event} {data : EventData}
  {s : Scene (Issuing σ)} {t : Scene σ} {ps : List Profile}

/-- A dispatch reports an end for each profile that is listed, in order, and what is recorded meanwhile for it
announces the event to it. -/
theorem exists_dispatch_accounts (hb : d.Books record noted) (hlist : d.provider.list.Keeps record)
    (category : Category) (hdata : EventData.ofEvent event = .ok data)
    (hlisted : d.provider.list s.services = .ok (.ok ps) t) :
    ∃ served s', d.dispatch event category s
        = .ok (.ok ⟨event.name, category, served.map Served.report⟩) s'
      ∧ record s'.state.services = record s.state.services ++ served.flatMap Served.items
      ∧ List.Forall₂ (d.Accounts ⟨event.name, category, data⟩) ps served := by
  obtain ⟨s₁, hs₁, hdispatch⟩ := exists_dispatch_eq_serveAll category hdata hlisted
  obtain ⟨served, s₂, hserve, hrecord, hserved⟩ :=
    exists_serveAll_accounts hb ⟨event.name, category, data⟩ ps s₁
  refine ⟨served, s₂, hdispatch _ s₂ hserve, ?_, hserved⟩
  rw [hrecord, hs₁, hlist.of_eq_ok hlisted]
  rfl

/-- Whatever the moves, a fan-out reports an end for each of some of the profiles that are listed, and what is
recorded meanwhile announces the event to one of them, if nobody else touches the record. -/
theorem exists_fanOut_accounts (hb : d.Books record noted) (hlist : d.provider.list.Keeps record)
    (category : Category) (hdata : EventData.ofEvent event = .ok data)
    (hlisted : d.provider.list s.services = .ok (.ok ps) t) {moves : List (Move σ)}
    (hmoves : ∀ act, .disturb act ∈ moves → act.Keeps record) :
    ∃ f served new s', d.fanOut event category moves s = .ok (.ok f) s'
      ∧ f.Accounts d ⟨event.name, category, data⟩ ps served
      ∧ record s'.state.services = record s.state.services ++ new
      ∧ ∀ v ∈ new, ∃ p ∈ ps, d.Announces ⟨event.name, category, data⟩ p v := by
  obtain ⟨s₁, hs₁, hnext⟩ := exists_afterListing_eq hdata hlisted
  obtain ⟨f, served, s₂, hplay, hserved⟩ :=
    FanOut.exists_playAll_accounts (FanOut.accounts_waiting d ⟨event.name, category, data⟩ ps) moves s₁
  obtain ⟨new, hnew, hall⟩ :=
    (FanOut.records_playAll hb hmoves
      (FanOut.onTheWay_waiting d ⟨event.name, category, data⟩ ps)).record_after s₁
  refine ⟨f, served, new, s₂, ?_, hserved, ?_, hall⟩
  · rw [fanOut_eq_afterListing, hnext, Act.bind_of_ok _ hplay]
    rfl
  · rw [← (Act.eq_ok_iff.1 hplay).2, hnew, hs₁, hlist.of_eq_ok hlisted]
    rfl

end Dispatcher

end SecurityEvents
