import SecurityEvents.Proofs.Dispatch.Decision
import SecurityEvents.Proofs.Dispatch.Failure
set_option autoImplicit false

/-!
# What is recorded announces the event

A token that is recorded in a dispatch was made for a profile with a route, from a payload that the encoder for the
schema of the route made of the event: `Dispatcher.Announces` says so. Each step of a pipeline preserves this
(`records_proceed`), hence so does any sequence of moves, and serving the profiles one after the other.
-/

namespace SecurityEvents

/-! ## Acts that record fitting tokens -/

/-- Whatever the scene, an answer of the act is good, and all that it adds to the record fits. -/
structure Act.Records {σ α : Type} (record : σ → List Published) (fit : Published → Prop)
    (good : α → Prop) (act : Act (Issuing σ) α) : Prop extends act.Ensures good where
  record_after : ∀ s, ∃ new, record (act.after s).state.services = record s.state.services ++ new
    ∧ ∀ v ∈ new, fit v

namespace Act

variable {σ α β : Type} {record : σ → List Published} {fit : Published → Prop} {good : α → Prop}

theorem Records.imp {act : Act (Issuing σ) α} {wide : Published → Prop} {fine : α → Prop}
    (h : act.Records record fit good) (hfit : ∀ v, fit v → wide v) (hgood : ∀ a, good a → fine a) :
    act.Records record wide fine := by
  refine ⟨⟨fun s a s' ha => hgood a (h.good_answer s a s' ha)⟩, fun s => ?_⟩
  obtain ⟨new, hnew, hall⟩ := h.record_after s
  exact ⟨new, hnew, fun v hv => hfit v (hall v hv)⟩

/-- An act that keeps the record adds nothing to it. -/
theorem Keeps.records {act : Act (Issuing σ) α} (h : act.Keeps fun i => record i.services) :
    act.Records record fit fun a => ∃ s s', act s = .ok a s' :=
  ⟨⟨fun s _ s' ha => ⟨s, s', ha⟩⟩,
    fun s => ⟨[], (h s).trans (List.append_nil _).symm, fun _ hv => (List.not_mem_nil hv).elim⟩⟩

theorem records_pure {a : α} (h : good a) : (pure a : Act (Issuing σ) α).Records record fit good := by
  refine (Act.keeps_pure _ a).records.imp (fun _ hv => hv) fun b hb => ?_
  obtain ⟨s, s', hpure⟩ := hb
  cases hpure
  exact h

theorem records_note (n : Notice) : (note n : Act (Issuing σ) Unit).Records record fit fun _ => True :=
  (keeps_note _ n).records.imp (fun _ hv => hv) fun _ _ => trivial

theorem records_ofExcept (answer : Except Panic α) :
    (ofExcept answer : Act (Issuing σ) α).Records record fit fun a => answer = .ok a := by
  refine (keeps_ofExcept _ answer).records.imp (fun _ hv => hv) fun a ha => ?_
  obtain ⟨s, _, hs⟩ := ha
  exact (answer_ofExcept answer s).symm.trans (eq_ok_iff.1 hs).1

/-- A service that keeps the record adds nothing to it, and its answer is one that it gives somewhere. -/
theorem Keeps.records_ofServices {act : Act σ α} (h : act.Keeps record) :
    act.ofServices.Records record fit fun a => ∃ s s', act s = .ok a s' := by
  refine h.ofServices.records.imp (fun _ hv => hv) fun a ha => ?_
  obtain ⟨s, s', hs⟩ := ha
  have hanswer := (eq_ok_iff.1 hs).1
  rw [answer_ofServices] at hanswer
  exact ⟨_, _, eq_ok_iff.2 ⟨hanswer, rfl⟩⟩

theorem Records.bind {act : Act (Issuing σ) α} {next : α → Act (Issuing σ) β} {fine : β → Prop}
    (h : act.Records record fit good) (hnext : ∀ a, good a → (next a).Records record fit fine) :
    (act >>= next).Records record fit fine := by
  refine ⟨h.toEnsures.bind fun a ha => (hnext a ha).toEnsures, fun s => ?_⟩
  obtain ⟨new, hnew, hall⟩ := h.record_after s
  cases ha : act.answer s with
  | error p =>
    rw [after_bind_of_error next ha]
    exact ⟨new, hnew, hall⟩
  | ok a =>
    obtain ⟨more, hmore, hothers⟩ :=
      (hnext a (h.good_answer s a _ (eq_ok_iff.2 ⟨ha, rfl⟩))).record_after (act.after s)
    rw [after_bind_of_ok next ha, hmore, hnew, List.append_assoc]
    exact ⟨new ++ more, rfl, List.forall_mem_append.2 ⟨hall, hothers⟩⟩

theorem Records.caught {act : Act (Issuing σ) α} (h : act.Records record fit good) :
    act.caught.Records record fit fun answer => ∀ a, answer = .ok a → good a := by
  refine ⟨h.toEnsures.caught, fun s => ?_⟩
  rw [after_caught]
  exact h.record_after s

end Act

namespace Dispatcher

variable {σ : Type} {d : Dispatcher σ} {record : σ → List Published}
  {noted : Except Panic (Except PublishError Unit) → Bool} {fit : Published → Prop} {o : Occurrence}
  {p : Profile} {route : Route}

/-! ## The stages -/

/-- The encoder for the schema makes the payload of the occurrence, in some scene. -/
def Encodes (d : Dispatcher σ) (o : Occurrence) (schema : Schema) (payload : Payload) : Prop :=
  ∃ encoder s s', d.encoders.find? schema o.category = some encoder
    ∧ encoder.encode o.category o.data s = .ok (.ok payload) s'

/-- The token announces the occurrence to the profile: there is a route, and the encoder for the schema of the route
made the payload. -/
def Announces (d : Dispatcher σ) (o : Occurrence) (p : Profile) (v : Published) : Prop :=
  ∃ route payload stamp, d.catalog.Routing o.eventName o.category p (.ok (.ok route))
    ∧ d.Encodes o route.schema payload ∧ d.announcement o p route stamp payload = v

theorem records_consult (hb : d.Books record noted) {gates : List (Gate σ)}
    (hgates : ∀ gate ∈ gates, gate ∈ d.gates) (o : Occurrence) (p : Profile) (route : Route) :
    (consult gates o p route).Records record fit fun _ => True := by
  have hkeeps : (Gate.evaluate gates (gateInput o p route)).Keeps record :=
    Gate.keeps_evaluate fun gate hgate => hb.gate gate (hgates gate hgate) _
  apply hkeeps.records_ofServices.bind
  intro answer _
  cases answer <;> exact Act.records_pure trivial

theorem records_encode (hb : d.Books record noted) (o : Occurrence) (schema : Schema) :
    (d.encode o schema).Records record fit fun answer =>
      ∀ payload, answer = .ok payload → d.Encodes o schema payload := by
  unfold encode
  cases hfind : d.encoders.find? schema o.category with
  | none => exact Act.records_pure fun _ h => nomatch h
  | some encoder =>
    apply (hb.encoder _ _ encoder hfind o.data).records_ofServices.bind
    intro answer hanswer
    cases answer with
    | error cause => exact Act.records_pure fun _ h => nomatch h
    | ok payload =>
      obtain ⟨s, s', hencode⟩ := hanswer
      apply Act.records_pure
      intro other hother
      cases hother
      exact ⟨encoder, s, s', hfind, hencode⟩

/-- The token that is made on a route announces the occurrence. -/
theorem records_issue (hb : d.Books record noted)
    (hroute : d.catalog.Routing o.eventName o.category p (.ok (.ok route))) :
    (d.issue o p route).Records record fit fun answer =>
      ∀ token, answer = .ok token → d.Announces o p ⟨token, context o p route⟩ := by
  apply (records_encode hb o route.schema).bind
  intro encoded hencoded
  cases encoded with
  | error stop => exact Act.records_pure fun _ h => nomatch h
  | ok payload =>
    have hkeeps : (Act.stamp : Act (Issuing σ) Stamp).Keeps fun i => record i.services := fun _ => rfl
    apply hkeeps.records.bind
    intro stamp _
    apply Act.records_pure
    intro token htoken
    cases htoken
    exact ⟨route, payload, stamp, hroute, hencoded payload rfl, rfl⟩

theorem records_publish (hb : d.Books record noted) {token : Token}
    (h : fit ⟨token, context o p route⟩) :
    (d.publish o p route token).Records record fit fun _ => True := by
  have hpublish : (d.publisher.publish token (context o p route)).ofServices.Records record fit
      fun _ => True := by
    refine ⟨Act.ensures_true _, fun s => ?_⟩
    rw [Act.after_ofServices]
    refine ⟨_, hb.publisher token (context o p route) s.services, fun v hv => ?_⟩
    split at hv
    · rw [List.mem_singleton.1 hv]
      exact h
    · exact (List.not_mem_nil hv).elim
  apply hpublish.bind
  intro answer _
  cases answer <;> exact Act.records_pure trivial

/-! ## One profile after the other -/

theorem records_attempt (hb : d.Books record noted) (o : Occurrence) (p : Profile) :
    (d.attempt o p).Records record (d.Announces o p) fun _ => True := by
  unfold attempt
  have hrouting := d.catalog.routing_route o.eventName o.category p
  apply (Act.records_ofExcept (d.catalog.route o.eventName o.category p)).bind
  intro routed hroute
  cases routed with
  | error reason => exact Act.records_pure trivial
  | ok route =>
    rw [hroute] at hrouting
    apply (records_consult hb (fun _ hgate => hgate) o p route).bind
    intro admitted _
    cases admitted with
    | error stop => exact Act.records_pure trivial
    | ok allowed =>
      apply (records_issue hb hrouting).bind
      intro issued hissued
      cases issued with
      | error stop => exact Act.records_pure trivial
      | ok token => exact records_publish hb (hissued token rfl)

theorem records_serveAll (hb : d.Books record noted) (o : Occurrence) (ps : List Profile) :
    (d.serveAll o ps).Records record (fun v => ∃ p ∈ ps, d.Announces o p v) fun _ => True := by
  induction ps with
  | nil => exact Act.records_pure trivial
  | cons p rest ih =>
    have hserve : (d.serve o p).Records record (d.Announces o p) fun _ => True := by
      apply (records_attempt hb o p).caught.bind
      intro result _
      exact (Act.records_note _).bind fun _ _ => Act.records_pure trivial
    apply (hserve.imp (fun v hv => ⟨p, List.mem_cons_self, hv⟩) fun _ h => h).bind
    intro report _
    have hrest : (d.serveAll o rest).Records record (fun v => ∃ q ∈ p :: rest, d.Announces o q v)
        fun _ => True :=
      ih.imp (fun v ⟨q, hq, hv⟩ => ⟨q, List.mem_cons_of_mem p hq, hv⟩) fun _ h => h
    exact hrest.bind fun reports _ => Act.records_pure trivial

/-! ## Several profiles at a time -/

/-- A pipeline that is on its way has a route; a token that is ready announces the occurrence. -/
def OnTheWay (d : Dispatcher σ) (o : Occurrence) (p : Profile) : Progress σ → Prop
  | .routed route gates =>
    d.catalog.Routing o.eventName o.category p (.ok (.ok route)) ∧ ∀ gate ∈ gates, gate ∈ d.gates
  | .tokenReady route token => d.Announces o p ⟨token, context o p route⟩
  | _ => True

/-- A step of a pipeline records nothing but what announces the occurrence, and stays on the way. -/
theorem records_proceed (hb : d.Books record noted) {progress : Progress σ}
    (h : d.OnTheWay o p progress) :
    (d.proceed o p progress).Records record (d.Announces o p) (d.OnTheWay o p) := by
  cases progress with
  | entered =>
    unfold proceed
    have hrouting := d.catalog.routing_route o.eventName o.category p
    apply (Act.records_ofExcept (d.catalog.route o.eventName o.category p)).bind
    intro routed hroute
    cases routed with
    | error reason => exact Act.records_pure trivial
    | ok route => exact Act.records_pure ⟨hroute ▸ hrouting, fun _ hgate => hgate⟩
  | routed route gates =>
    cases gates with
    | nil =>
      apply (records_issue hb h.1).bind
      intro issued hissued
      cases issued with
      | error stop => exact Act.records_pure trivial
      | ok token => exact Act.records_pure (hissued token rfl)
    | cons gate rest =>
      have hgate : gate ∈ d.gates := h.2 gate List.mem_cons_self
      apply (hb.gate gate hgate (gateInput o p route)).records_ofServices.bind
      intro decision _
      cases decision with
      | deny reason => exact Act.records_pure trivial
      | allow => exact Act.records_pure ⟨h.1, fun g hg => h.2 g (List.mem_cons_of_mem gate hg)⟩
  | tokenReady route token => exact (records_publish hb h).bind fun _ _ => Act.records_pure trivial
  | ended result => exact Act.records_pure trivial

theorem records_advance (hb : d.Books record noted) {progress : Progress σ}
    (h : d.OnTheWay o p progress) :
    (d.advance o p progress).Records record (d.Announces o p) (d.OnTheWay o p) := by
  apply (records_proceed hb h).caught.bind
  intro answer hanswer
  cases answer with
  | error panic => exact Act.records_pure trivial
  | ok progress' => exact Act.records_pure (hanswer progress' rfl)

end Dispatcher

namespace FanOut

variable {σ : Type} {d : Dispatcher σ} {record : σ → List Published}
  {noted : Except Panic (Except PublishError Unit) → Bool} {o : Occurrence} {ps : List Profile} {f : FanOut σ}

/-- Every pipeline in flight is on its way, and every profile that is or will be served is one of these. -/
structure OnTheWay (d : Dispatcher σ) (o : Occurrence) (ps : List Profile) (f : FanOut σ) : Prop where
  waiting : ∀ p ∈ f.waiting, p ∈ ps
  inFlight : ∀ x ∈ f.inFlight, x.profile ∈ ps ∧ d.OnTheWay o x.profile x.progress

theorem onTheWay_start (h : f.OnTheWay d o ps) (limit : Nat) : (f.start limit).OnTheWay d o ps := by
  unfold start
  split
  · exact h
  · rename_i p rest hwaiting
    have hlisted : ∀ q ∈ p :: rest, q ∈ ps := hwaiting ▸ h.waiting
    split
    · refine ⟨fun q hq => hlisted q (List.mem_cons_of_mem p hq), fun x hx => ?_⟩
      rcases List.mem_append.1 hx with hx | hx
      · exact h.inFlight x hx
      · rw [List.mem_singleton.1 hx]
        exact ⟨hlisted p List.mem_cons_self, trivial⟩
    · exact h

theorem records_advance (hb : d.Books record noted) (h : f.OnTheWay d o ps) (place : Nat) :
    (f.advance d o place).Records record (fun v => ∃ p ∈ ps, d.Announces o p v) (OnTheWay d o ps) := by
  unfold advance
  cases hplace : f.inFlight[place]? with
  | none => exact Act.records_pure h
  | some x =>
    obtain ⟨p, progress⟩ := x
    obtain ⟨hp, hprogress⟩ := h.inFlight _ (List.mem_of_getElem? hplace)
    cases progress with
    | ended result =>
      apply (Act.records_note _).bind
      intro _ _
      exact Act.records_pure ⟨h.waiting, fun x hx => h.inFlight x (List.mem_of_mem_eraseIdx hx)⟩
    | entered | routed | tokenReady =>
      apply ((Dispatcher.records_advance hb hprogress).imp (fun v hv => ⟨p, hp, hv⟩) fun _ h => h).bind
      intro progress' hprogress'
      refine Act.records_pure ⟨h.waiting, fun x hx => ?_⟩
      rcases List.mem_or_eq_of_mem_set hx with hx | rfl
      · exact h.inFlight x hx
      · exact ⟨hp, hprogress'⟩

/-- Moves record nothing but what announces the occurrence to some profile, if others leave the record alone. -/
theorem records_playAll (hb : d.Books record noted) {moves : List (Move σ)}
    (hmoves : ∀ act, .disturb act ∈ moves → act.Keeps record) (h : f.OnTheWay d o ps) :
    (playAll d o moves f).Records record (fun v => ∃ p ∈ ps, d.Announces o p v) fun _ => True := by
  induction moves generalizing f with
  | nil => exact Act.records_pure trivial
  | cons move rest ih =>
    have hplay : (f.play d o move).Records record (fun v => ∃ p ∈ ps, d.Announces o p v)
        (OnTheWay d o ps) := by
      cases move with
      | start => exact Act.records_pure (onTheWay_start h _)
      | advance place => exact records_advance hb h place
      | disturb act =>
        exact (hmoves act List.mem_cons_self).records_ofServices.caught.bind fun _ _ =>
          Act.records_pure h
    apply hplay.bind
    intro f' hf'
    exact ih (fun act hact => hmoves act (List.mem_cons_of_mem move hact)) hf'

/-- At the beginning nothing is in flight. -/
theorem onTheWay_waiting (d : Dispatcher σ) (o : Occurrence) (ps : List Profile) :
    OnTheWay d o ps { waiting := ps } :=
  ⟨fun _ hp => hp, fun _ hx => (List.not_mem_nil hx).elim⟩

end FanOut

/-! ## A dispatch -/

namespace Dispatcher

variable {σ : Type} {d : Dispatcher σ} {record : σ → List Published}
  {noted : Except Panic (Except PublishError Unit) → Bool}

/-- The token announces the event, as one of the category, to some profile. -/
def AnnouncesEvent (d : Dispatcher σ) (event : Event) (category : Category) (v : Published) : Prop :=
  ∃ data p, EventData.ofEvent event = .ok data ∧ d.Announces ⟨event.name, category, data⟩ p v

theorem records_afterListing {α : Type} {fit : Published → Prop} (hlist : d.provider.list.Keeps record)
    {event : Event} {next : EventData → List Profile → Act (Issuing σ) (Except Error α)}
    (hnext : ∀ data ps, EventData.ofEvent event = .ok data → (next data ps).Records record fit fun _ => True) :
    (d.afterListing event next).Records record fit fun _ => True := by
  unfold afterListing
  cases hdata : EventData.ofEvent event with
  | error error => exact Act.records_pure trivial
  | ok data =>
    apply hlist.records_ofServices.bind
    intro answer _
    cases answer with
    | error error => exact Act.records_pure trivial
    | ok ps =>
      dsimp only
      split
      · exact (Act.records_note _).bind fun _ _ => hnext data ps hdata
      · exact hnext data ps hdata

theorem records_dispatch (hb : d.Books record noted) (hlist : d.provider.list.Keeps record) (event : Event)
    (category : Category) :
    (d.dispatch event category).Records record (d.AnnouncesEvent event category) fun _ => True := by
  rw [dispatch_eq_afterListing]
  apply records_afterListing hlist
  intro data ps hdata
  apply ((records_serveAll hb ⟨event.name, category, data⟩ ps).imp
    (fun v ⟨p, _, hv⟩ => ⟨data, p, hdata, hv⟩) fun _ h => h).bind
  exact fun _ _ => Act.records_pure trivial

theorem records_fanOut (hb : d.Books record noted) (hlist : d.provider.list.Keeps record) (event : Event)
    (category : Category) {moves : List (Move σ)} (hmoves : ∀ act, .disturb act ∈ moves → act.Keeps record) :
    (d.fanOut event category moves).Records record (d.AnnouncesEvent event category) fun _ => True := by
  rw [fanOut_eq_afterListing]
  apply records_afterListing hlist
  intro data ps hdata
  apply ((FanOut.records_playAll hb hmoves (FanOut.onTheWay_waiting d _ ps)).imp
    (fun v ⟨p, _, hv⟩ => ⟨data, p, hdata, hv⟩) fun _ h => h).bind
  exact fun _ _ => Act.records_pure trivial

/-- What holds of every token that announces the event holds of all that is recorded for it, also if several profiles
are served at a time and others act on the services, as long as they leave the record alone. -/
theorem recorded_of_announces (hb : d.Books record noted) (hlist : d.provider.list.Keeps record) {event : Event}
    {category : Category} {fit : Published → Prop} (hfit : ∀ v, d.AnnouncesEvent event category v → fit v)
    (s : Scene (Issuing σ)) :
    (∃ new, record ((d.dispatch event category).after s).state.services = record s.state.services ++ new
      ∧ ∀ v ∈ new, fit v)
    ∧ ∀ moves, (∀ act, .disturb act ∈ moves → act.Keeps record) →
      ∃ new, record ((d.fanOut event category moves).after s).state.services = record s.state.services ++ new
        ∧ ∀ v ∈ new, fit v := by
  constructor
  · obtain ⟨new, hnew, hall⟩ := (records_dispatch hb hlist event category).record_after s
    exact ⟨new, hnew, fun v hv => hfit v (hall v hv)⟩
  · intro moves hmoves
    obtain ⟨new, hnew, hall⟩ := (records_fanOut hb hlist event category hmoves).record_after s
    exact ⟨new, hnew, fun v hv => hfit v (hall v hv)⟩

end Dispatcher

end SecurityEvents
