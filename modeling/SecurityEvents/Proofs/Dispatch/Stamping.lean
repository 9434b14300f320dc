import SecurityEvents.Proofs.Dispatch.Decision
import SecurityEvents.Proofs.Dispatch.Traffic
import SecurityEvents.Proofs.Rehearsal
set_option autoImplicit false

/-!
# Tokens are issued in order

Stamps are drawn for tokens and for nothing else. Of a dispatch this follows from what decides over each profile
(`Decided.exists_serve_drawn`), and `Act.Stamps` carries it over to whole runs of dispatches. Where several callers
dispatch at the same time, a turn draws a stamp exactly if it makes a token (`Traffic.exists_play`). In both cases
the tokens have the stamps that lead from the stamper at the beginning to the one at the end, so the times in them
are known from the readings of the wall clock, and do not decrease.
-/

namespace SecurityEvents

namespace Dispatcher

variable {σ : Type} {noted : Except Panic (Except PublishError Unit) → Bool}

theorem Kept.nil : Kept noted [] [] :=
  ⟨List.Sublist.refl _, fun _ => rfl⟩

theorem Kept.append {handed kept others more : List Published} (h : Kept noted handed kept)
    (h' : Kept noted others more) : Kept noted (handed ++ others) (kept ++ more) :=
  ⟨h.sublist.append h'.sublist, fun hall => by rw [h.eq_handed hall, h'.eq_handed hall]⟩

end Dispatcher

/-! ## One caller -/

/-- Whatever the scene, the act draws a stamp for each token that it hands over and no other, and what it adds to the
record are tokens that it hands over, as far as answers have to be noted. -/
def Act.Stamps {σ α : Type} (record : σ → List Published)
    (noted : Except Panic (Except PublishError Unit) → Bool) (act : Act (Issuing σ) α) : Prop :=
  ∀ s, ∃ handed kept, s.state.stamper.Draws (handed.map (·.token.stamp)) (act.after s).state.stamper
    ∧ record (act.after s).state.services = record s.state.services ++ kept
    ∧ Dispatcher.Kept noted handed kept

namespace Act

variable {σ α β : Type} {record : σ → List Published}
  {noted : Except Panic (Except PublishError Unit) → Bool}

theorem stamps_pure (a : α) : (pure a : Act (Issuing σ) α).Stamps record noted :=
  fun _ => ⟨[], [], .nil _, (List.append_nil _).symm, .nil⟩

theorem stamps_note (n : Notice) : (Act.note n : Act (Issuing σ) Unit).Stamps record noted :=
  fun _ => ⟨[], [], .nil _, (List.append_nil _).symm, .nil⟩

/-- A service draws no stamps. -/
theorem Keeps.stamps_ofServices {act : Act σ α} (h : act.Keeps record) :
    act.ofServices.Stamps record noted := by
  intro s
  rw [after_ofServices]
  exact ⟨[], [], .nil _, (h s.services).trans (List.append_nil _).symm, .nil⟩

theorem Stamps.bind {act : Act (Issuing σ) α} {next : α → Act (Issuing σ) β} (h : act.Stamps record noted)
    (hnext : ∀ a, (next a).Stamps record noted) : (act >>= next).Stamps record noted := by
  intro s
  obtain ⟨handed, kept, hdrawn, hrecord, hkept⟩ := h s
  cases ha : act.answer s with
  | error panic =>
    rw [after_bind_of_error next ha]
    exact ⟨handed, kept, hdrawn, hrecord, hkept⟩
  | ok a =>
    obtain ⟨others, more, hdrawn', hrecord', hkept'⟩ := hnext a (act.after s)
    rw [after_bind_of_ok next ha]
    refine ⟨handed ++ others, kept ++ more, ?_, ?_, hkept.append hkept'⟩
    · rw [List.map_append]
      exact hdrawn.append hdrawn'
    · rw [hrecord', hrecord, List.append_assoc]

theorem Stamps.caught {act : Act (Issuing σ) α} (h : act.Stamps record noted) :
    act.caught.Stamps record noted := by
  intro s
  rw [after_caught]
  exact h s

end Act

namespace Dispatcher

variable {σ : Type} {d : Dispatcher σ} {record : σ → List Published}
  {noted : Except Panic (Except PublishError Unit) → Bool}

theorem stamps_serve (hb : d.Books record noted) (o : Occurrence) (p : Profile) :
    (d.serve o p).Stamps record noted := by
  intro s
  obtain ⟨out, handed, t, hdecided⟩ := exists_decided d o p s.state.stamper.next s.services
  obtain ⟨s', hserve, hs', hdrawn⟩ := hdecided.exists_serve_drawn
  obtain ⟨kept, hrecord, hkept⟩ := hdecided.exists_record_eq hb
  obtain ⟨_, rfl⟩ := Act.eq_ok_iff.1 hserve
  refine ⟨handed, kept, hdrawn, ?_, hkept⟩
  rw [hs', hrecord]
  rfl

theorem stamps_serveAll (hb : d.Books record noted) (o : Occurrence) (ps : List Profile) :
    (d.serveAll o ps).Stamps record noted := by
  induction ps with
  | nil => exact Act.stamps_pure _
  | cons p rest ih => exact (stamps_serve hb o p).bind fun _ => ih.bind fun _ => Act.stamps_pure _

theorem stamps_dispatch (hb : d.Books record noted) (hlist : d.provider.list.Keeps record) (event : Event)
    (category : Category) : (d.dispatch event category).Stamps record noted := by
  unfold dispatch
  cases EventData.ofEvent event with
  | error error => exact Act.stamps_pure _
  | ok data =>
    apply hlist.stamps_ofServices.bind
    intro answer
    cases answer with
    | error error => exact Act.stamps_pure _
    | ok ps =>
      have hserve := (stamps_serveAll hb ⟨event.name, category, data⟩ ps).bind fun reports =>
        Act.stamps_pure (Except.ok (ε := Error) (⟨event.name, category, reports⟩ : Report))
      dsimp only
      split
      · exact (Act.stamps_note _).bind fun _ => hserve
      · exact hserve

/-- Stamps are drawn for the tokens of a run and for nothing else. -/
theorem stamps_performAll (hb : d.Books record noted) (hlist : d.provider.list.Keeps record)
    {errands : List (Errand σ)} (herrands : ∀ act, .disturb act ∈ errands → act.Keeps record) :
    (d.performAll errands).Stamps record noted := by
  induction errands with
  | nil => exact Act.stamps_pure _
  | cons errand rest ih =>
    have hrest := ih fun act hact => herrands act (List.mem_cons_of_mem errand hact)
    cases errand with
    | dispatch event category =>
      exact (stamps_dispatch hb hlist event category).caught.bind fun _ => hrest
    | disturb act =>
      exact (herrands act List.mem_cons_self).stamps_ofServices.caught.bind fun _ => hrest

end Dispatcher

namespace Dispatcher

variable {σ : Type} {d : Dispatcher σ} {o : Occurrence} {p : Profile}

/-- Without a payload nothing is handed over, and a profile that was skipped, or that nothing was encoded for, had
none. -/
theorem Decided.handed_eq_nil {stamp : Stamp} {s t : Scene σ} {out : Outcome} {handed : List Published}
    (h : d.Decided o p stamp s out handed t)
    (hout : (∀ route payload t₂, ¬ d.Encoded o p s route payload t₂) ∨ (∃ reason, out = .skipped reason)
      ∨ ∃ cause, out = .failed (.encoding cause)) : handed = [] := by
  cases h with
  | noRoute | managerPanics | ineligible | gatePanics | noEncoder | notEncoded | encoderPanics => rfl
  | notPublished hencoded | publisherPanics hencoded | published hencoded =>
    rcases hout with hnone | ⟨_, ⟨⟩⟩ | ⟨_, ⟨⟩⟩
    exact (hnone _ _ _ hencoded).elim

/-- A profile that no payload was made for leaves the stamper alone. -/
theorem exists_serve_undrawn (d : Dispatcher σ) (o : Occurrence) (p : Profile) (s : Scene (Issuing σ)) :
    ∃ report s', d.serve o p s = .ok report s'
      ∧ ((∀ route payload t₂, ¬ d.Encoded o p s.services route payload t₂)
          ∨ (∃ reason, report.outcome = .skipped reason)
          ∨ (∃ cause, report.outcome = .failed (.encoding cause)) →
        s'.state.stamper = s.state.stamper) := by
  obtain ⟨out, handed, t, hdecided⟩ := exists_decided d o p s.state.stamper.next s.services
  obtain ⟨s', hserve, _, hdrawn⟩ := hdecided.exists_serve_drawn
  refine ⟨_, s', hserve, fun hout => ?_⟩
  rw [hdecided.handed_eq_nil hout] at hdrawn
  exact hdrawn.eq_of_nil

end Dispatcher

/-! ## Several callers -/

namespace Act

variable {σ α : Type}

theorem keeps_stamper_ofServices (act : Act σ α) : act.ofServices.Keeps Issuing.stamper := by
  intro s
  rw [after_ofServices]

end Act

/-- A token is made of a payload that was encoded. -/
theorem Phase.made?_eq_none {σ : Type} {phase phase' : Phase σ}
    (h : ∀ route payload, phase ≠ .encoded route payload) : phase.made? phase' = none := by
  cases phase with
  | encoded route payload => exact (h route payload rfl).elim
  | reached | reported => rfl

namespace Dispatcher

variable {σ : Type} {d : Dispatcher σ}

/-- A step of a pipeline with gates still to be asked draws no stamp, and neither does any other but the one that
makes the token. -/
theorem keeps_stamper_proceed (d : Dispatcher σ) (o : Occurrence) (p : Profile) {progress : Progress σ}
    (h : ∀ route, progress ≠ .routed route []) : (d.proceed o p progress).Keeps Issuing.stamper := by
  cases progress with
  | entered =>
    apply (Act.keeps_ofExcept _ (d.catalog.route o.eventName o.category p)).bind
    intro routed
    cases routed <;> exact Act.keeps_pure _ _
  | routed route gates =>
    cases gates with
    | nil => exact (h route rfl).elim
    | cons gate rest =>
      apply (Act.keeps_stamper_ofServices (gate.check (gateInput o p route))).bind
      intro decision
      cases decision <;> exact Act.keeps_pure _ _
  | tokenReady route token =>
    have hpublish : (d.publish o p route token).Keeps Issuing.stamper := by
      apply (Act.keeps_stamper_ofServices (d.publisher.publish token (context o p route))).bind
      intro answer
      cases answer <;> exact Act.keeps_pure _ _
    exact hpublish.bind fun _ => Act.keeps_pure _ _
  | ended result => exact Act.keeps_pure _ _

theorem keeps_stamper_advance (d : Dispatcher σ) (o : Occurrence) (p : Profile) {progress : Progress σ}
    (h : ∀ route, progress ≠ .routed route []) : (d.advance o p progress).Keeps Issuing.stamper := by
  apply (keeps_stamper_proceed d o p h).caught.bind
  intro answer
  cases answer <;> exact Act.keeps_pure _ _

/-- Only the step that makes a token draws a stamp. -/
theorem keeps_stamper_step (d : Dispatcher σ) (o : Occurrence) (p : Profile) {phase : Phase σ}
    (h : ∀ route payload, phase ≠ .encoded route payload) : (d.step o p phase).Keeps Issuing.stamper := by
  have hadvance {progress : Progress σ} (hprogress : ∀ route, progress ≠ .routed route []) :
      (do return Phase.reached (← d.advance o p progress) : Act (Issuing σ) (Phase σ)).Keeps
        Issuing.stamper :=
    (keeps_stamper_advance d o p hprogress).bind fun _ => Act.keeps_pure _ _
  cases phase with
  | encoded route payload => exact (h route payload rfl).elim
  | reported report => exact Act.keeps_pure _ _
  | reached progress =>
    cases progress with
    | ended result => exact fun _ => rfl
    | entered | tokenReady => exact hadvance (by rintro route ⟨⟩)
    | routed route gates =>
      cases gates with
      | cons gate rest => exact hadvance (by rintro route ⟨⟩)
      | nil =>
        apply (keeps_encode fun _ _ => Act.keeps_stamper_ofServices _).caught.bind
        intro encoded
        rcases encoded with panic | stop | payload <;> exact Act.keeps_pure _ _

end Dispatcher

namespace Traffic

variable {σ : Type} {d : Dispatcher σ}

/-- A turn draws a stamp exactly if it makes a token, which is when a payload has been encoded; otherwise it leaves the
stamper alone. -/
theorem exists_play (d : Dispatcher σ) (t : Traffic σ) (turn : Turn σ) (s : Scene (Issuing σ)) :
    ∃ t' s', t.play d turn s = .ok t' s'
      ∧ ((s'.state.stamper = s.state.stamper ∧ t'.issued = t.issued)
        ∨ ∃ place o p route payload token, turn = .advance place
          ∧ t.strands[place]? = some ⟨o, p, .encoded route payload⟩ ∧ t'.issued = t.issued ++ [token]
          ∧ token.stamp = s.state.stamper.next ∧ s'.state.stamper = s.state.stamper.advance) := by
  cases turn with
  | ask event category =>
    have hkeeps := (Dispatcher.keeps_enter (Act.keeps_stamper_ofServices d.provider.list) event category).caught s
    obtain ⟨answer, s', hcaught⟩ := Act.exists_caught_eq_ok (d.enter event category) s
    rw [(Act.eq_ok_iff.1 hcaught).2] at hkeeps
    rcases answer with panic | error | strands <;>
      exact ⟨_, s', Act.bind_of_ok _ hcaught, .inl ⟨hkeeps, rfl⟩⟩
  | advance place =>
    rw [play]
    cases hplace : t.strands[place]? with
    | none => exact ⟨t, s, rfl, .inl ⟨rfl, rfl⟩⟩
    | some x =>
      obtain ⟨o, p, phase⟩ := x
      by_cases hencoded : ∃ route payload, phase = .encoded route payload
      · obtain ⟨route, payload, rfl⟩ := hencoded
        exact ⟨_, _, rfl, .inr ⟨place, o, p, route, payload, _, rfl, hplace, rfl, rfl, rfl⟩⟩
      · have hother : ∀ route payload, phase ≠ .encoded route payload :=
          fun route payload h => hencoded ⟨route, payload, h⟩
        have hkeeps := Dispatcher.keeps_stamper_step d o p hother s
        obtain ⟨phase', s', hstep⟩ := d.exists_step_eq o p phase s
        rw [(Act.eq_ok_iff.1 hstep).2] at hkeeps
        refine ⟨_, s', Act.bind_of_ok _ hstep, .inl ⟨hkeeps, ?_⟩⟩
        rw [Phase.made?_eq_none hother]
        exact List.append_nil _
  | disturb act =>
    have hkeeps := (Act.keeps_stamper_ofServices act).caught s
    obtain ⟨answer, s', hcaught⟩ := Act.exists_caught_eq_ok act.ofServices s
    rw [(Act.eq_ok_iff.1 hcaught).2] at hkeeps
    exact ⟨t, s', Act.bind_of_ok _ hcaught, .inl ⟨hkeeps, rfl⟩⟩

/-- The tokens that are made in turns have the stamps that are drawn meanwhile. -/
theorem exists_playAll (d : Dispatcher σ) (turns : List (Turn σ)) (t : Traffic σ) (s : Scene (Issuing σ)) :
    ∃ t' s' new, playAll d turns t s = .ok t' s' ∧ t'.issued = t.issued ++ new
      ∧ s.state.stamper.Draws (new.map Token.stamp) s'.state.stamper := by
  induction turns generalizing t s with
  | nil => exact ⟨t, s, [], rfl, (List.append_nil _).symm, .nil _⟩
  | cons turn rest ih =>
    obtain ⟨t₁, s₁, hplay, hturn⟩ := exists_play d t turn s
    obtain ⟨t₂, s₂, new, hrest, hissued, hdrawn⟩ := ih t₁ s₁
    have hall : playAll d (turn :: rest) t s = .ok t₂ s₂ := by
      rw [playAll, Act.bind_of_ok _ hplay, hrest]
    rcases hturn with ⟨hstamper, hsame⟩ | ⟨_, _, _, _, _, token, _, _, hissued₁, hstamp, hstamper⟩
    · exact ⟨t₂, s₂, new, hall, hsame ▸ hissued, hstamper ▸ hdrawn⟩
    · refine ⟨t₂, s₂, token :: new, hall, ?_, ?_⟩
      · rw [hissued, hissued₁, List.append_assoc]
        rfl
      · rw [List.map_cons, hstamp]
        exact .cons (hstamper ▸ hdrawn)

end Traffic

/-! ## Runs -/

namespace Dispatcher

variable {σ : Type}

/-- Issued-at never goes back. Whatever several callers do, in whatever order, the tokens that are made for them are
issued one after the other by the clock. A turn leaves the stamper alone unless it makes a token, for a payload that
was encoded before; so does a profile that is skipped or denied, or for which the encoder fails or panics. If one
caller dispatches one event after the other, the tokens that are handed over are issued so, and the times in the
record do not decrease over the run. -/
theorem issues_in_order (d : Dispatcher σ) {readings : Nat → Int64} {s : Scene (Issuing σ)}
    (hfresh : s.state.stamper.clock = { readings }) :
    (∀ turns, ∃ t s', Traffic.playAll d turns {} s = .ok t s' ∧ IssuedBy readings t.issued)
    ∧ (∀ (t : Traffic σ) turn s₁, ∃ t' s₂, t.play d turn s₁ = .ok t' s₂
        ∧ ((s₂.state.stamper = s₁.state.stamper ∧ t'.issued = t.issued)
          ∨ ∃ place o p route payload token, turn = .advance place
            ∧ t.strands[place]? = some ⟨o, p, .encoded route payload⟩ ∧ t'.issued = t.issued ++ [token]
            ∧ token.stamp = s₁.state.stamper.next ∧ s₂.state.stamper = s₁.state.stamper.advance))
    ∧ (∀ o p s₁, ∃ report s₂, d.serve o p s₁ = .ok report s₂
        ∧ ((∀ route payload t₂, ¬ d.Encoded o p s₁.services route payload t₂)
            ∨ (∃ reason, report.outcome = .skipped reason)
            ∨ (∃ cause, report.outcome = .failed (.encoding cause)) →
          s₂.state.stamper = s₁.state.stamper))
    ∧ ∀ record noted, d.Books record noted → d.provider.list.Keeps record →
      ∀ errands, (∀ act, .disturb act ∈ errands → act.Keeps record) →
        ∃ handed kept,
          record ((d.performAll errands).after s).state.services = record s.state.services ++ kept
          ∧ Kept noted handed kept ∧ IssuedBy readings (handed.map (·.token))
          ∧ (kept.map (·.token.issuedAt)).Pairwise (· ≤ ·) := by
  refine ⟨fun turns => ?_, Traffic.exists_play d, exists_serve_undrawn d, ?_⟩
  · obtain ⟨t, s', new, hplay, hissued, hdrawn⟩ := Traffic.exists_playAll d turns {} s
    obtain rfl : t.issued = new := hissued
    exact ⟨t, s', hplay, hdrawn.issuedBy hfresh⟩
  · intro record noted hb hlist errands herrands
    obtain ⟨handed, kept, hdrawn, hrecord, hkept⟩ := stamps_performAll hb hlist herrands s
    have hdrawn' : s.state.stamper.Draws ((handed.map (·.token)).map Token.stamp)
        ((d.performAll errands).after s).state.stamper := by
      rw [List.map_map]
      exact hdrawn
    have hissued := hdrawn'.issuedBy hfresh
    have hpairwise := hissued.pairwise
    rw [List.map_map] at hpairwise
    exact ⟨handed, kept, hrecord, hkept, hissued, hpairwise.sublist (hkept.sublist.map _)⟩

end Dispatcher

namespace Rehearsal

/-- The scene at the beginning, with a wall clock that steps back and once is before its epoch. -/
def steppingScene : Scene (Issuing Stage) where
  state :=
    { stamper := ⟨{ readings := fun n => if n = 0 then 7 else if n = 1 then -3 else 5 }, scene.state.stamper.supply⟩
      services := scene.state.services }

/-- The session ends twice. -/
def errands : List (Errand Stage) :=
  [.dispatch event .tokenRevoke, .dispatch event .tokenRevoke]

/-- Both times two profiles have the token recorded, while a third stamp is drawn for one whose publisher panics. -/
theorem length_recorded_errands :
    (Stage.recorded (((dispatcher 1).performAll errands).after steppingScene).state.services).length = 4 := by
  decide +kernel

end Rehearsal

theorem Dispatcher.rehearsed_issues_in_order :
    ∃ kept, Stage.recorded
          (((Rehearsal.dispatcher 1).performAll Rehearsal.errands).after Rehearsal.steppingScene).state.services
        = kept
      ∧ kept.length = 4 ∧ (kept.map (·.token.issuedAt)).Pairwise (· ≤ ·) := by
  have hdispatches : ∀ act, Errand.disturb act ∈ Rehearsal.errands → act.Keeps Stage.recorded := by
    simp only [Rehearsal.errands, List.mem_cons, List.not_mem_nil, reduceCtorEq, or_self, false_implies,
      implies_true]
  obtain ⟨handed, kept, hrecord, _, _, hpairwise⟩ :=
    (issues_in_order (Rehearsal.dispatcher 1) (s := Rehearsal.steppingScene) rfl).2.2.2 Stage.recorded isTaken
      (Rehearsal.books 1) (Provider.keeps_memory Rehearsal.aside) Rehearsal.errands hdispatches
  have hlength := Rehearsal.length_recorded_errands
  rw [hrecord] at hlength
  exact ⟨kept, hrecord, hlength, hpairwise⟩

end SecurityEvents
