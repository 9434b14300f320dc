import SecurityEvents.Proofs.Dispatch.Listing
set_option autoImplicit false

/-!
# Failures of an event and failures of a profile

A dispatch fails as a whole before anything else has happened: when the data of the event cannot be extracted,
or else when the profiles cannot be listed (`Dispatcher.FailsWhole`). After that every error is one of a
profile. It is the encoder's or the publisher's, or it stands for a panic, so the errors that a report holds are
those that concern one profile only. That is a property of each step of a pipeline (`ensures_proceed`), so it
holds however the profiles are served.
-/

namespace SecurityEvents

/-! ## Answers that are good -/

/-- Whatever the scene, an answer of the act is good. -/
structure Act.Ensures {σ α : Type} (good : α → Prop) (act : Act σ α) : Prop where
  good_answer : ∀ s a s', act s = .ok a s' → good a

namespace Act

variable {σ α β : Type} {good : α → Prop}

theorem ensures_true (act : Act σ α) : act.Ensures fun _ => True :=
  ⟨fun _ _ _ _ => trivial⟩

theorem ensures_pure {a : α} (h : good a) : (pure a : Act σ α).Ensures good := by
  refine ⟨fun s b s' hb => ?_⟩
  cases hb
  exact h

theorem Ensures.bind {act : Act σ α} {next : α → Act σ β} {fine : β → Prop} (h : act.Ensures good)
    (hnext : ∀ a, good a → (next a).Ensures fine) : (act >>= next).Ensures fine := by
  refine ⟨fun s b s' hb => ?_⟩
  cases hact : act s with
  | error p t =>
    rw [bind_of_error next hact] at hb
    cases hb
  | ok a t =>
    rw [bind_of_ok next hact] at hb
    exact (hnext a (h.good_answer s a t hact)).good_answer t b s' hb

theorem Ensures.caught {act : Act σ α} (h : act.Ensures good) :
    act.caught.Ensures fun answer => ∀ a, answer = .ok a → good a := by
  refine ⟨fun s answer s' hanswer a ha => ?_⟩
  subst ha
  cases hact : act s with
  | error p t =>
    rw [caught_of_error hact] at hanswer
    cases hanswer
  | ok b t =>
    rw [caught_of_ok hact] at hanswer
    cases hanswer
    exact h.good_answer s a s' hact

end Act

/-! ## Errors of a profile -/

/-- What stopped the serving of a profile, if it is an error, concerns that profile only. -/
def Stop.IsLocal : Stop → Prop
  | .skip _ => True
  | .fail error => error.isProfileLocal = true

/-- If the answer is that something stopped, it is local to the profile. -/
def StopsLocally {α : Type} (answer : Except Stop α) : Prop :=
  ∀ stop, answer = .error stop → stop.IsLocal

theorem stopsLocally_ok {α : Type} (a : α) : StopsLocally (.ok a) := by
  intro stop h
  cases h

theorem stopsLocally_error {α : Type} {stop : Stop} (h : stop.IsLocal) :
    StopsLocally (.error stop : Except Stop α) := by
  intro other hother
  cases hother
  exact h

/-- If the outcome is a failure, the error concerns one profile only. -/
def Outcome.FailsLocally (out : Outcome) : Prop :=
  ∀ error, out = .failed error → error.isProfileLocal = true

/-- If a pipeline has ended without a panic, what stopped it is local to the profile. -/
def Progress.EndsLocally {σ : Type} (progress : Progress σ) : Prop :=
  ∀ answer, progress = .ended (.ok answer) → StopsLocally answer

/-- Whether an event fails with the error as a whole. -/
def Error.isOfEvent : Error → Bool
  | .dataExtraction _ _ | .catalogUnavailable _ => true
  | _ => false

theorem Error.isProfileLocal_of_isOfEvent {error : Error} (h : error.isOfEvent = true) :
    error.isProfileLocal = false := by
  cases error with
  | dataExtraction | catalogUnavailable => rfl
  | _ => cases h

theorem Error.isOfEvent_of_isProfileLocal {error : Error} (h : error.isProfileLocal = true) :
    error.isOfEvent = false := by
  apply Bool.eq_false_iff.2
  intro hevent
  rw [isProfileLocal_of_isOfEvent hevent] at h
  cases h

namespace Dispatcher

variable {σ : Type} {d : Dispatcher σ}

/-- A panic is an error of the profile, and so is what stops a profile locally. -/
theorem failsLocally_outcome {p : Profile} {result : Except Panic (Except Stop String)}
    (h : ∀ answer, result = .ok answer → StopsLocally answer) : (outcome p result).FailsLocally := by
  intro error herror
  cases result with
  | error panic =>
    cases herror
    rfl
  | ok answer =>
    cases answer with
    | ok eventUri => cases herror
    | error stop =>
      cases stop with
      | skip reason => cases herror
      | fail cause =>
        cases herror
        exact h _ rfl _ rfl

/-! ## The stages -/

theorem ensures_consult (gates : List (Gate σ)) (o : Occurrence) (p : Profile) (route : Route) :
    (consult gates o p route).Ensures StopsLocally := by
  apply (Act.ensures_true (Gate.evaluate gates (gateInput o p route)).ofServices).bind
  intro answer _
  cases answer with
  | ok allowed => exact Act.ensures_pure (stopsLocally_ok _)
  | error denial => exact Act.ensures_pure (stopsLocally_error trivial)

theorem ensures_encode (d : Dispatcher σ) (o : Occurrence) (schema : Schema) :
    (d.encode o schema).Ensures StopsLocally := by
  unfold encode
  cases d.encoders.find? schema o.category with
  | none => exact Act.ensures_pure (stopsLocally_error trivial)
  | some encoder =>
    apply (Act.ensures_true (encoder.encode o.category o.data).ofServices).bind
    intro answer _
    cases answer with
    | ok payload => exact Act.ensures_pure (stopsLocally_ok _)
    | error cause => exact Act.ensures_pure (stopsLocally_error rfl)

theorem ensures_issue (d : Dispatcher σ) (o : Occurrence) (p : Profile) (route : Route) :
    (d.issue o p route).Ensures StopsLocally := by
  apply (ensures_encode d o route.schema).bind
  intro encoded hencoded
  cases encoded with
  | error stop => exact Act.ensures_pure (stopsLocally_error (hencoded stop rfl))
  | ok payload =>
    apply (Act.ensures_true (Act.stamp : Act (Issuing σ) Stamp)).bind
    intro stamp _
    exact Act.ensures_pure (stopsLocally_ok _)

theorem ensures_publish (d : Dispatcher σ) (o : Occurrence) (p : Profile) (route : Route) (token : Token) :
    (d.publish o p route token).Ensures StopsLocally := by
  apply (Act.ensures_true (d.publisher.publish token (context o p route)).ofServices).bind
  intro answer _
  cases answer with
  | ok taken => exact Act.ensures_pure (stopsLocally_ok _)
  | error cause => exact Act.ensures_pure (stopsLocally_error rfl)

theorem ensures_throughGates (d : Dispatcher σ) (o : Occurrence) (p : Profile) (route : Route)
    (gates : List (Gate σ)) : (d.throughGates o p route gates).Ensures StopsLocally := by
  apply (ensures_consult gates o p route).bind
  intro admitted hadmitted
  cases admitted with
  | error stop => exact Act.ensures_pure (stopsLocally_error (hadmitted stop rfl))
  | ok allowed =>
    apply (ensures_issue d o p route).bind
    intro issued hissued
    cases issued with
    | error stop => exact Act.ensures_pure (stopsLocally_error (hissued stop rfl))
    | ok token => exact ensures_publish d o p route token

theorem ensures_attempt (d : Dispatcher σ) (o : Occurrence) (p : Profile) :
    (d.attempt o p).Ensures StopsLocally := by
  apply (Act.ensures_true (Act.ofExcept (d.catalog.route o.eventName o.category p))).bind
  intro routed _
  cases routed with
  | error reason => exact Act.ensures_pure (stopsLocally_error trivial)
  | ok route => exact ensures_throughGates d o p route d.gates

/-! ## One profile after the other -/

theorem exists_serve_eq (d : Dispatcher σ) (o : Occurrence) (p : Profile) (s : Scene (Issuing σ)) :
    ∃ report s', d.serve o p s = .ok report s' ∧ report.outcome.FailsLocally := by
  obtain ⟨result, s', hcaught⟩ := Act.exists_caught_eq_ok (d.attempt o p) s
  refine ⟨⟨p.name, p.version, outcome p result⟩, (Act.note (notice p result)).after s', ?_, ?_⟩
  · rw [serve, Act.bind_of_ok _ hcaught]
    rfl
  · apply failsLocally_outcome
    intro answer hanswer
    subst hanswer
    cases hattempt : d.attempt o p s with
    | error panic t =>
      rw [Act.caught_of_error hattempt] at hcaught
      cases hcaught
    | ok other t =>
      rw [Act.caught_of_ok hattempt] at hcaught
      cases hcaught
      exact (ensures_attempt d o p).good_answer s answer s' hattempt

/-- Serving profiles always answers, and the errors in the answer are those of profiles. -/
theorem exists_serveAll_eq (d : Dispatcher σ) (o : Occurrence) (ps : List Profile)
    (s : Scene (Issuing σ)) :
    ∃ reports s', d.serveAll o ps s = .ok reports s' ∧ ∀ r ∈ reports, r.outcome.FailsLocally := by
  induction ps generalizing s with
  | nil => exact ⟨[], s, rfl, fun _ hr => (List.not_mem_nil hr).elim⟩
  | cons p rest ih =>
    obtain ⟨report, s₁, hserve, hreport⟩ := exists_serve_eq d o p s
    obtain ⟨reports, s₂, hrest, hreports⟩ := ih s₁
    refine ⟨report :: reports, s₂, ?_, ?_⟩
    · rw [serveAll, Act.bind_of_ok _ hserve, Act.bind_of_ok _ hrest]
      rfl
    · intro r hr
      rcases List.mem_cons.1 hr with rfl | hr
      · exact hreport
      · exact hreports r hr

/-! ## Several profiles at a time -/

/-- A step that ends a pipeline without a panic ends it locally. -/
theorem ensures_proceed (d : Dispatcher σ) (o : Occurrence) (p : Profile) {progress : Progress σ}
    (h : progress.EndsLocally) : (d.proceed o p progress).Ensures Progress.EndsLocally := by
  have hended {answer : Except Stop String} (hanswer : StopsLocally answer) :
      (Progress.ended (σ := σ) (.ok answer)).EndsLocally := by
    intro other hother
    cases hother
    exact hanswer
  cases progress with
  | entered =>
    apply (Act.ensures_true (Act.ofExcept (d.catalog.route o.eventName o.category p))).bind
    intro routed _
    cases routed with
    | error reason => exact Act.ensures_pure (hended (stopsLocally_error trivial))
    | ok route => exact Act.ensures_pure fun _ hroute => nomatch hroute
  | routed route gates =>
    cases gates with
    | nil =>
      apply (ensures_issue d o p route).bind
      intro issued hissued
      cases issued with
      | error stop => exact Act.ensures_pure (hended (stopsLocally_error (hissued stop rfl)))
      | ok token => exact Act.ensures_pure fun _ htoken => nomatch htoken
    | cons gate rest =>
      apply (Act.ensures_true (gate.check (gateInput o p route)).ofServices).bind
      intro decision _
      cases decision with
      | deny reason => exact Act.ensures_pure (hended (stopsLocally_error trivial))
      | allow => exact Act.ensures_pure fun _ hrest => nomatch hrest
  | tokenReady route token =>
    apply (ensures_publish d o p route token).bind
    intro answer hanswer
    exact Act.ensures_pure (hended hanswer)
  | ended result => exact Act.ensures_pure h

theorem exists_advance_eq (d : Dispatcher σ) (o : Occurrence) (p : Profile) {progress : Progress σ}
    (h : progress.EndsLocally) (s : Scene (Issuing σ)) :
    ∃ progress' s', d.advance o p progress s = .ok progress' s' ∧ progress'.EndsLocally := by
  cases hproceed : d.proceed o p progress s with
  | error panic t =>
    refine ⟨.ended (.error panic), t, ?_, fun _ hpanic => nomatch hpanic⟩
    rw [advance, Act.bind_of_ok _ (Act.caught_of_error hproceed)]
    rfl
  | ok progress' t =>
    refine ⟨progress', t, ?_, (ensures_proceed d o p h).good_answer s progress' t hproceed⟩
    rw [advance, Act.bind_of_ok _ (Act.caught_of_ok hproceed)]
    rfl

end Dispatcher

namespace FanOut

variable {σ : Type}

/-- What has ended has ended locally, and what is reported is local. -/
structure IsLocal (f : FanOut σ) : Prop where
  inFlight : ∀ x ∈ f.inFlight, x.progress.EndsLocally
  reports : ∀ r ∈ f.reports, r.outcome.FailsLocally

theorem isLocal_start {f : FanOut σ} (h : f.IsLocal) (limit : Nat) : (f.start limit).IsLocal := by
  unfold start
  split
  · exact h
  · split
    · refine ⟨fun x hx => ?_, h.reports⟩
      rcases List.mem_append.1 hx with hx | hx
      · exact h.inFlight x hx
      · rw [List.mem_singleton.1 hx]
        exact fun _ hentered => nomatch hentered
    · exact h

theorem exists_advance_eq (d : Dispatcher σ) (o : Occurrence) {f : FanOut σ} (h : f.IsLocal)
    (place : Nat) (s : Scene (Issuing σ)) :
    ∃ f' s', f.advance d o place s = .ok f' s' ∧ f'.IsLocal := by
  cases hplace : f.inFlight[place]? with
  | none =>
    refine ⟨f, s, ?_, h⟩
    rw [advance, hplace]
    rfl
  | some x =>
    obtain ⟨p, progress⟩ := x
    have hlocal : progress.EndsLocally := h.inFlight _ (List.mem_of_getElem? hplace)
    unfold advance
    rw [hplace]
    cases progress with
    | ended result =>
      refine ⟨_, _, rfl, fun x hx => h.inFlight x (List.mem_of_mem_eraseIdx hx), fun r hr => ?_⟩
      rcases List.mem_append.1 hr with hr | hr
      · exact h.reports r hr
      · rw [List.mem_singleton.1 hr]
        apply Dispatcher.failsLocally_outcome
        intro answer hanswer
        exact hlocal answer (congrArg Progress.ended hanswer)
    | entered | routed | tokenReady =>
      obtain ⟨progress', s', hadvance, hprogress⟩ := Dispatcher.exists_advance_eq d o p hlocal s
      refine ⟨_, s', Act.bind_of_ok _ hadvance, fun x hx => ?_, h.reports⟩
      rcases List.mem_or_eq_of_mem_set hx with hx | rfl
      · exact h.inFlight x hx
      · exact hprogress

theorem exists_play_eq (d : Dispatcher σ) (o : Occurrence) {f : FanOut σ} (h : f.IsLocal)
    (move : Move σ) (s : Scene (Issuing σ)) :
    ∃ f' s', f.play d o move s = .ok f' s' ∧ f'.IsLocal := by
  cases move with
  | start => exact ⟨_, s, rfl, isLocal_start h _⟩
  | advance place => exact exists_advance_eq d o h place s
  | disturb act =>
    obtain ⟨answer, s', hcaught⟩ := Act.exists_caught_eq_ok act.ofServices s
    refine ⟨f, s', ?_, h⟩
    rw [play, Act.bind_of_ok _ hcaught]
    rfl

/-- Moves always lead somewhere, and the errors that are reported on the way are those of profiles. -/
theorem exists_playAll_eq (d : Dispatcher σ) (o : Occurrence) {f : FanOut σ} (h : f.IsLocal)
    (moves : List (Move σ)) (s : Scene (Issuing σ)) :
    ∃ f' s', playAll d o moves f s = .ok f' s' ∧ f'.IsLocal := by
  induction moves generalizing f s with
  | nil => exact ⟨f, s, rfl, h⟩
  | cons move rest ih =>
    obtain ⟨f₁, s₁, hplay, hlocal⟩ := exists_play_eq d o h move s
    obtain ⟨f₂, s₂, hrest, hlocal'⟩ := ih hlocal s₁
    refine ⟨f₂, s₂, ?_, hlocal'⟩
    rw [playAll, Act.bind_of_ok _ hplay, hrest]

end FanOut

/-! ## Failures of an event -/

namespace Dispatcher

variable {σ : Type} {d : Dispatcher σ} {event : Event} {category : Category} {s s' : Scene (Issuing σ)}
  {error : Error}

/-- The event fails as a whole with an error, which leads to a scene: the data cannot be extracted, and nothing
happens, or the profiles cannot be listed, and nothing happens but that the provider was asked. -/
inductive FailsWhole (d : Dispatcher σ) (event : Event) (s : Scene (Issuing σ)) :
    Error → Scene (Issuing σ) → Prop where
  | notExtracted {error : Error} (hdata : EventData.ofEvent event = .error error) :
    FailsWhole d event s error s
  | notListed {data : EventData} {error : Error} {t : Scene σ}
    (hdata : EventData.ofEvent event = .ok data)
    (hlist : d.provider.list s.services = .ok (.error error) t) :
    FailsWhole d event s error (s.withServices t)

theorem FailsWhole.afterListing_eq {α : Type} (h : d.FailsWhole event s error s')
    (next : EventData → List Profile → Act (Issuing σ) (Except Error α)) :
    d.afterListing event next s = .ok (.error error) s' := by
  cases h with
  | notExtracted hdata => exact afterListing_of_extraction_error next hdata
  | notListed hdata hlist => exact afterListing_of_error next hdata hlist

/-- The provider is asked last, so no stamp was drawn and only what it did itself has changed. -/
theorem FailsWhole.stamper_eq (h : d.FailsWhole event s error s') : s'.state.stamper = s.state.stamper := by
  cases h <;> rfl

theorem FailsWhole.view_eq {κ : Type} {view : σ → κ} (h : d.FailsWhole event s error s')
    (hkeeps : d.provider.list.Keeps view) : view s'.state.services = view s.state.services := by
  cases h with
  | notExtracted _ => rfl
  | notListed _ hlist => exact hkeeps.of_eq_ok hlist

/-- Only the event and the provider count; if the data cannot be extracted, not even the provider does. -/
theorem FailsWhole.of_other {other : Dispatcher σ} (h : d.FailsWhole event s error s')
    (hother : EventData.ofEvent event = .error error ∨ other.provider = d.provider) :
    other.FailsWhole event s error s' := by
  cases h with
  | notExtracted hdata => exact .notExtracted hdata
  | notListed hdata hlist =>
    rcases hother with hfailed | hsame
    · rw [hdata] at hfailed
      cases hfailed
    · rw [← hsame] at hlist
      exact .notListed hdata hlist

/-- The beginning of a dispatch has three ends: the event fails as a whole, the provider panics, or there are
data and profiles to go on with. -/
theorem fails_or_panics_or_lists (d : Dispatcher σ) (event : Event) (s : Scene (Issuing σ)) :
    (∃ error s', d.FailsWhole event s error s')
    ∨ (∃ data panic t, EventData.ofEvent event = .ok data ∧ d.provider.list s.services = .error panic t)
    ∨ ∃ data ps t, EventData.ofEvent event = .ok data ∧ d.provider.list s.services = .ok (.ok ps) t := by
  cases hdata : EventData.ofEvent event with
  | error error => exact .inl ⟨error, s, .notExtracted hdata⟩
  | ok data =>
    cases hlist : d.provider.list s.services with
    | error panic t => exact .inr (.inl ⟨data, panic, t, rfl, rfl⟩)
    | ok answer t =>
      cases answer with
      | error error => exact .inl ⟨error, _, .notListed hdata hlist⟩
      | ok ps => exact .inr (.inr ⟨data, ps, t, rfl, rfl⟩)

/-- An act on the profiles that never fails makes the event fail as a whole or not at all. -/
theorem afterListing_eq_error_iff {α : Type}
    {next : EventData → List Profile → Act (Issuing σ) (Except Error α)}
    (hnext : ∀ data ps s, ∃ a s', next data ps s = .ok (.ok a) s') :
    d.afterListing event next s = .ok (.error error) s' ↔ d.FailsWhole event s error s' := by
  refine ⟨fun h => ?_, fun h => h.afterListing_eq next⟩
  rcases fails_or_panics_or_lists d event s with
    ⟨other, t, hfails⟩ | ⟨data, panic, t, hdata, hlist⟩ | ⟨data, ps, t, hdata, hlist⟩
  · rw [hfails.afterListing_eq next] at h
    cases h
    exact hfails
  · rw [afterListing_of_panic next hdata hlist] at h
    cases h
  · obtain ⟨s₁, _, heq⟩ := exists_afterListing_eq hdata hlist
    obtain ⟨a, s₂, ha⟩ := hnext data ps s₁
    rw [heq, ha] at h
    cases h

/-- What an act on the profiles ensures, a dispatch that goes on with it ensures. -/
theorem ensures_of_afterListing_eq {α : Type} (good : α → Prop)
    {next : EventData → List Profile → Act (Issuing σ) (Except Error α)}
    (hnext : ∀ data ps s a s', next data ps s = .ok (.ok a) s' → good a) {a : α}
    (h : d.afterListing event next s = .ok (.ok a) s') : good a := by
  rcases fails_or_panics_or_lists d event s with
    ⟨error, t, hfails⟩ | ⟨data, panic, t, hdata, hlist⟩ | ⟨data, ps, t, hdata, hlist⟩
  · rw [hfails.afterListing_eq next] at h
    cases h
  · rw [afterListing_of_panic next hdata hlist] at h
    cases h
  · obtain ⟨s₁, _, heq⟩ := exists_afterListing_eq hdata hlist
    rw [heq] at h
    exact hnext data ps s₁ a s' h

/-! ### A dispatch, and a dispatch of several profiles at a time -/

theorem exists_reportAll_eq (d : Dispatcher σ) (o : Occurrence) (ps : List Profile) (s : Scene (Issuing σ)) :
    ∃ report s', (do return .ok ⟨o.eventName, o.category, ← d.serveAll o ps⟩ :
        Act (Issuing σ) (Except Error Report)) s = .ok (.ok report) s'
      ∧ ∀ r ∈ report.profiles, r.outcome.FailsLocally := by
  obtain ⟨reports, s', hserve, hlocal⟩ := exists_serveAll_eq d o ps s
  refine ⟨⟨o.eventName, o.category, reports⟩, s', ?_, hlocal⟩
  rw [Act.bind_of_ok _ hserve]
  rfl

theorem exists_begin_eq (d : Dispatcher σ) (o : Occurrence) (moves : List (Move σ)) (ps : List Profile)
    (s : Scene (Issuing σ)) :
    ∃ f s', (do return .ok (← FanOut.playAll d o moves { waiting := ps }) :
        Act (Issuing σ) (Except Error (FanOut σ))) s = .ok (.ok f) s'
      ∧ ∀ r ∈ f.reports, r.outcome.FailsLocally := by
  have hbegin : FanOut.IsLocal (σ := σ) { waiting := ps } :=
    ⟨fun _ h => (List.not_mem_nil h).elim, fun _ h => (List.not_mem_nil h).elim⟩
  obtain ⟨f, s', hplay, hlocal⟩ := FanOut.exists_playAll_eq d o hbegin moves s
  refine ⟨f, s', ?_, hlocal.reports⟩
  rw [Act.bind_of_ok _ hplay]
  rfl

theorem dispatch_eq_error_iff :
    d.dispatch event category s = .ok (.error error) s' ↔ d.FailsWhole event s error s' := by
  rw [dispatch_eq_afterListing]
  apply afterListing_eq_error_iff
  intro data ps t
  obtain ⟨report, t', heq, _⟩ := exists_reportAll_eq d ⟨event.name, category, data⟩ ps t
  exact ⟨report, t', heq⟩

theorem fanOut_eq_error_iff {moves : List (Move σ)} :
    d.fanOut event category moves s = .ok (.error error) s' ↔ d.FailsWhole event s error s' := by
  rw [fanOut_eq_afterListing]
  apply afterListing_eq_error_iff
  intro data ps t
  obtain ⟨f, t', heq, _⟩ := exists_begin_eq d ⟨event.name, category, data⟩ moves ps t
  exact ⟨f, t', heq⟩

theorem failsLocally_of_dispatch_eq {report : Report}
    (h : d.dispatch event category s = .ok (.ok report) s') :
    ∀ r ∈ report.profiles, r.outcome.FailsLocally := by
  rw [dispatch_eq_afterListing] at h
  refine ensures_of_afterListing_eq (fun report => ∀ r ∈ report.profiles, r.outcome.FailsLocally)
    (fun data ps t report t' heq => ?_) h
  obtain ⟨other, t'', hother, hlocal⟩ := exists_reportAll_eq d ⟨event.name, category, data⟩ ps t
  cases hother.symm.trans heq
  exact hlocal

theorem failsLocally_of_fanOut_eq {moves : List (Move σ)} {f : FanOut σ}
    (h : d.fanOut event category moves s = .ok (.ok f) s') : ∀ r ∈ f.reports, r.outcome.FailsLocally := by
  rw [fanOut_eq_afterListing] at h
  refine ensures_of_afterListing_eq (fun f => ∀ r ∈ f.reports, r.outcome.FailsLocally)
    (fun data ps t f t' heq => ?_) h
  obtain ⟨other, t'', hother, hlocal⟩ := exists_begin_eq d ⟨event.name, category, data⟩ moves ps t
  cases hother.symm.trans heq
  exact hlocal

/-- A dispatch answers with an error exactly if the event fails as a whole. Then only the provider was called: no
stamp was drawn, nothing was published, and every dispatcher with that provider has the same answer, whatever its
gates, encoders and publisher are; if the data cannot be extracted, every dispatcher has it. The errors in a report
are errors of a profile and never those of an event, in whatever order the profiles are served. -/
theorem fails_whole_or_locally (d : Dispatcher σ) (event : Event) (category : Category)
    (s : Scene (Issuing σ)) :
    (∀ error s',
        (d.dispatch event category s = .ok (.error error) s' ↔ d.FailsWhole event s error s')
        ∧ ∀ moves, d.fanOut event category moves s = .ok (.error error) s' ↔ d.FailsWhole event s error s')
    ∧ (∀ error s', d.FailsWhole event s error s' →
        s'.state.stamper = s.state.stamper
        ∧ (∀ (κ : Type) (view : σ → κ), d.provider.list.Keeps view →
            view s'.state.services = view s.state.services)
        ∧ (∀ other : Dispatcher σ, other.provider = d.provider →
            other.dispatch event category s = .ok (.error error) s')
        ∧ (EventData.ofEvent event = .error error →
            s' = s ∧ ∀ other : Dispatcher σ, other.dispatch event category s = .ok (.error error) s))
    ∧ (∀ report s', d.dispatch event category s = .ok (.ok report) s' →
        ∀ p ∈ report.profiles, ∀ error, p.outcome = .failed error →
          error.isProfileLocal = true ∧ error.isOfEvent = false)
    ∧ (∀ moves f s', d.fanOut event category moves s = .ok (.ok f) s' →
        ∀ p ∈ f.reports, ∀ error, p.outcome = .failed error →
          error.isProfileLocal = true ∧ error.isOfEvent = false)
    ∧ ∀ error : Error, error.isOfEvent = true → error.isProfileLocal = false := by
  have hlocally {out : Outcome} (h : out.FailsLocally) :
      ∀ error, out = .failed error → error.isProfileLocal = true ∧ error.isOfEvent = false :=
    fun error herror => ⟨h error herror, Error.isOfEvent_of_isProfileLocal (h error herror)⟩
  refine ⟨fun error s' => ⟨dispatch_eq_error_iff, fun moves => fanOut_eq_error_iff⟩,
    fun error s' hfails => ⟨hfails.stamper_eq, fun κ view hkeeps => hfails.view_eq hkeeps, ?_, ?_⟩,
    fun report s' hreport p hp => hlocally (failsLocally_of_dispatch_eq hreport p hp),
    fun moves f s' hf p hp => hlocally (failsLocally_of_fanOut_eq hf p hp),
    fun error => Error.isProfileLocal_of_isOfEvent⟩
  · intro other hother
    exact dispatch_eq_error_iff.2 (hfails.of_other (.inr hother))
  · intro hdata
    refine ⟨?_, fun other => dispatch_eq_error_iff.2 (.notExtracted hdata)⟩
    cases hfails with
    | notExtracted _ => rfl
    | notListed hextracted _ => cases hdata.symm.trans hextracted

end Dispatcher

end SecurityEvents
