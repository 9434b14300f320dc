import SecurityEvents.Dispatch.FanOut
import SecurityEvents.Proofs.Dispatch.Isolation
set_option autoImplicit false

/-!
# Steps that keep the prospect

A step of a pipeline does a part of what the rest of the pipeline yields: what it records and what the pipeline
then still yields make up what the pipeline yielded before, and the report that it leads to stays the same.
`exists_advance` says so; it needs no more than that a step leaves the services settled, only adds to the
record, and goes on with gates of the dispatcher, which is what `Act.Grows` says.
-/

namespace SecurityEvents

/-! ## Acts that only add to the record -/

/-- From every settled state the act leads to a settled state and only adds to the record, and its answer, if
it has one, is good. -/
structure Act.Grows {σ α : Type} (settled : σ → Prop) (record : σ → List Published) (good : α → Prop)
    (act : Act (Issuing σ) α) : Prop where
  settled_after : ∀ s, settled s.state.services → settled (act.after s).state.services
  record_after : ∀ s, settled s.state.services →
    ∃ new, record (act.after s).state.services = record s.state.services ++ new
  good_answer : ∀ s a, settled s.state.services → act.answer s = .ok a → good a

namespace Act

variable {σ α β : Type} {settled : σ → Prop} {record : σ → List Published} {good : α → Prop}

theorem grows_pure {a : α} (h : good a) : Grows settled record good (pure a) := by
  refine ⟨fun _ hs => hs, fun _ _ => ⟨[], (List.append_nil _).symm⟩, fun s b _ hb => ?_⟩
  obtain rfl : a = b := Except.ok.inj hb
  exact h

theorem Yields.grows {act : Act (Issuing σ) α} {answer : Except Panic α} {items : List Published}
    (h : act.Yields settled record answer items) : act.Grows settled record fun _ => True := by
  refine ⟨h.settled_after, fun s hs => ?_, fun _ _ _ _ => trivial⟩
  obtain ⟨new, hnew, _⟩ := h.record_after s hs
  exact ⟨new, hnew⟩

theorem grows_ofExcept (answer : Except Panic α) :
    (ofExcept answer : Act (Issuing σ) α).Grows settled record fun _ => True := by
  cases answer with
  | error panic => exact (yields_panic panic).grows
  | ok a => exact (yields_pure a).grows

theorem grows_stamp : (Act.stamp : Act (Issuing σ) Stamp).Grows settled record fun _ => True :=
  ⟨fun _ hs => hs, fun _ _ => ⟨[], (List.append_nil _).symm⟩, fun _ _ _ _ => trivial⟩

theorem Grows.bind {act : Act (Issuing σ) α} {next : α → Act (Issuing σ) β} {fine : β → Prop}
    (h : act.Grows settled record good) (hnext : ∀ a, good a → (next a).Grows settled record fine) :
    (act >>= next).Grows settled record fine := by
  refine ⟨?_, ?_, ?_⟩
  · intro s hs
    cases ha : act.answer s with
    | error p =>
      rw [after_bind_of_error next ha]
      exact h.settled_after s hs
    | ok a =>
      rw [after_bind_of_ok next ha]
      exact (hnext a (h.good_answer s a hs ha)).settled_after _ (h.settled_after s hs)
  · intro s hs
    obtain ⟨new, hnew⟩ := h.record_after s hs
    cases ha : act.answer s with
    | error p =>
      rw [after_bind_of_error next ha]
      exact ⟨new, hnew⟩
    | ok a =>
      obtain ⟨more, hmore⟩ :=
        (hnext a (h.good_answer s a hs ha)).record_after _ (h.settled_after s hs)
      rw [after_bind_of_ok next ha, hmore, hnew, List.append_assoc]
      exact ⟨new ++ more, rfl⟩
  · intro s b hs hb
    cases ha : act.answer s with
    | error p =>
      rw [answer_bind_of_error next ha] at hb
      cases hb
    | ok a =>
      rw [answer_bind_of_ok next ha] at hb
      exact (hnext a (h.good_answer s a hs ha)).good_answer _ b (h.settled_after s hs) hb

end Act

namespace Dispatcher

variable {σ : Type} {settled : σ → Prop} {record : σ → List Published} {d : Dispatcher σ}

/-! ## One step -/

/-- The rest of a pipeline is its next step and the rest after that. -/
theorem remainder_eq_proceed_bind (d : Dispatcher σ) (o : Occurrence) (p : Profile)
    (progress : Progress σ) :
    d.remainder o p progress = d.proceed o p progress >>= d.remainder o p := by
  cases progress with
  | entered =>
    simp only [remainder, attempt, proceed, bind_assoc]
    apply bind_congr
    intro routed
    cases routed <;> rfl
  | routed route gates =>
    cases gates with
    | nil =>
      simp only [remainder, throughGates, consult, Gate.evaluate, Act.ofServices_pure, pure_bind, proceed,
        bind_assoc]
      apply bind_congr
      intro issued
      cases issued <;> rfl
    | cons gate rest =>
      simp only [remainder, throughGates, consult, Gate.evaluate, Act.ofServices_bind, proceed, bind_assoc]
      apply bind_congr
      intro decision
      cases decision with
      | deny reason => rfl
      | allow => simp only [pure_bind, remainder, throughGates, consult, bind_assoc]
  | tokenReady route token =>
    simp only [remainder, proceed, bind_assoc, pure_bind]
    exact (bind_pure _).symm
  | ended result => rfl

/-- A step leaves the services settled, only adds to the record, and stays within the gates. -/
theorem grows_proceed (hd : d.Steady settled) (hb : d.Books record isTaken) {ref : Scene σ}
    (href : settled ref.state) (o : Occurrence) (p : Profile) {progress : Progress σ}
    (hwithin : progress.Within d.gates) :
    (d.proceed o p progress).Grows settled record (Progress.Within d.gates) := by
  cases progress with
  | entered =>
    apply (Act.grows_ofExcept (d.catalog.route o.eventName o.category p)).bind
    intro routed _
    cases routed with
    | error reason => exact Act.grows_pure trivial
    | ok route => exact Act.grows_pure fun gate hgate => hgate
  | routed route gates =>
    cases gates with
    | nil =>
      obtain ⟨answer, hencode⟩ := exists_yields_encode hd hb href o route.schema
      have hissue : (d.issue o p route).Grows settled record fun _ => True := by
        apply hencode.grows.bind
        intro encoded _
        cases encoded with
        | error stop => exact Act.grows_pure trivial
        | ok payload => exact Act.grows_stamp.bind fun stamp _ => Act.grows_pure trivial
      apply hissue.bind
      intro issued _
      cases issued with
      | error stop => exact Act.grows_pure trivial
      | ok token => exact Act.grows_pure trivial
    | cons gate rest =>
      have hgate : gate ∈ d.gates := hwithin gate List.mem_cons_self
      have hcheck := Act.yields_ofServices (hd.gate gate hgate (gateInput o p route))
        (hb.gate gate hgate (gateInput o p route)) ref href
      apply hcheck.grows.bind
      intro decision _
      cases decision with
      | deny reason => exact Act.grows_pure trivial
      | allow => exact Act.grows_pure fun g hg => hwithin g (List.mem_cons_of_mem gate hg)
  | tokenReady route token =>
    obtain ⟨answer, items, hpublish, _⟩ := foreseeable_publish hd hb href o p route token
    exact hpublish.grows.bind fun result _ => Act.grows_pure trivial
  | ended result => exact Act.grows_pure trivial

/-! ## Prospects -/

/-- What the rest of a pipeline comes to in a scene, up to the stamps of what is recorded. -/
def prospect (d : Dispatcher σ) (record : σ → List Published) (o : Occurrence)
    (ref : Scene (Issuing σ)) (x : Pipeline σ) : Served :=
  let rest := d.remainder o x.profile x.progress
  { report := ⟨x.profile.name, x.profile.version, outcome x.profile (rest.answer ref)⟩
    items := ((record (rest.after ref).state.services).drop (record ref.state.services).length).map
      Published.unstamped }

/-- What a pipeline comes to in one settled scene it comes to in all of them. -/
theorem prospect_eq {o : Occurrence} {ref : Scene (Issuing σ)} (href : settled ref.state.services)
    {x : Pipeline σ} {answer : Except Panic (Except Stop String)} {items : List Published}
    (h : (d.remainder o x.profile x.progress).Yields settled record answer items) :
    d.prospect record o ref x =
      ⟨⟨x.profile.name, x.profile.version, outcome x.profile answer⟩, items⟩ := by
  obtain ⟨new, hnew, hitems⟩ := h.record_after ref href
  rw [prospect, h.answer_eq ref href, hnew, List.drop_left, hitems]

theorem prospect_ended (o : Occurrence) (ref : Scene (Issuing σ)) (p : Profile)
    (result : Except Panic (Except Stop String)) :
    d.prospect record o ref ⟨p, .ended result⟩ = ⟨⟨p.name, p.version, outcome p result⟩, []⟩ := by
  simp only [prospect, remainder, Act.answer_ofExcept, Act.after_ofExcept, List.drop_length, List.map_nil]

/-- A step leaves the report as it will be, and what it records makes up, with what will still be recorded,
what would have been recorded. -/
theorem exists_advance (hd : d.Steady settled) (hb : d.Books record isTaken) (o : Occurrence)
    {ref s : Scene (Issuing σ)} (href : settled ref.state.services) (hs : settled s.state.services)
    (p : Profile) {progress : Progress σ} (hwithin : progress.Within d.gates) :
    ∃ progress' s' new, d.advance o p progress s = .ok progress' s'
      ∧ progress'.Within d.gates ∧ settled s'.state.services
      ∧ record s'.state.services = record s.state.services ++ new
      ∧ (d.prospect record o ref ⟨p, progress'⟩).report = (d.prospect record o ref ⟨p, progress⟩).report
      ∧ new.map Published.unstamped ++ (d.prospect record o ref ⟨p, progress'⟩).items
          = (d.prospect record o ref ⟨p, progress⟩).items := by
  have href' : settled ref.services.state := href
  have hgrows := grows_proceed hd hb href' o p hwithin
  obtain ⟨answer, items, hyields⟩ := exists_yields_remainder hd hb href' o p hwithin
  obtain ⟨all, hall, rfl⟩ := hyields.record_after s hs
  have hanswer := hyields.answer_eq s hs
  have hprospect := prospect_eq (x := ⟨p, progress⟩) href hyields
  have hs' := hgrows.settled_after s hs
  have hcaught := Act.eq_ok_iff.2 ⟨Act.answer_caught (d.proceed o p progress) s, rfl⟩
  rw [remainder_eq_proceed_bind] at hall hanswer
  unfold advance
  rw [Act.bind_of_ok _ hcaught, Act.after_caught]
  cases hproceed : (d.proceed o p progress).answer s with
  | error panic =>
    rw [Act.after_bind_of_error _ hproceed] at hall
    rw [Act.answer_bind_of_error _ hproceed] at hanswer
    refine ⟨.ended (.error panic), _, all, rfl, trivial, hs', hall, ?_, ?_⟩
    · rw [prospect_ended, hprospect, hanswer]
    · rw [prospect_ended, hprospect, List.append_nil]
  | ok progress' =>
    rw [Act.after_bind_of_ok _ hproceed] at hall
    rw [Act.answer_bind_of_ok _ hproceed] at hanswer
    have hwithin' := hgrows.good_answer s progress' hs hproceed
    obtain ⟨new, hnew⟩ := hgrows.record_after s hs
    obtain ⟨answer', items', hyields'⟩ := exists_yields_remainder hd hb href' o p hwithin'
    obtain ⟨more, hmore, rfl⟩ := hyields'.record_after _ hs'
    have hsame : answer' = answer := (hyields'.answer_eq _ hs').symm.trans hanswer
    have hsplit : new ++ more = all := by
      rw [hmore, hnew, List.append_assoc] at hall
      exact List.append_cancel_left hall
    refine ⟨progress', _, new, rfl, hwithin', hs', hnew, ?_, ?_⟩
    · rw [prospect_eq (x := ⟨p, progress'⟩) href hyields', hprospect, hsame]
    · rw [prospect_eq (x := ⟨p, progress'⟩) href hyields', hprospect, ← hsplit, List.map_append]

end Dispatcher

end SecurityEvents
