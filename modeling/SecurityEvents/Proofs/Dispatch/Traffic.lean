import SecurityEvents.Dispatch.Traffic
import SecurityEvents.Proofs.Dispatch.Listing
set_option autoImplicit false

/-!
# Turns

A turn always leads somewhere: panics end the pipeline whose turn it is, or concern the caller who hands in an event.
To serve the profiles of a call one after the other is one way to take turns, and comes to a dispatch
(`exists_playAll_inTurn`).
-/

namespace SecurityEvents

namespace Dispatcher

variable {σ : Type}

theorem exists_step_eq (d : Dispatcher σ) (o : Occurrence) (p : Profile) (phase : Phase σ)
    (s : Scene (Issuing σ)) : ∃ phase' s', d.step o p phase s = .ok phase' s' := by
  have hadvance (progress : Progress σ) : ∃ progress' s', d.advance o p progress s = .ok progress' s' := by
    obtain ⟨answer, s', hcaught⟩ := Act.exists_caught_eq_ok (d.proceed o p progress) s
    cases answer <;> exact ⟨_, s', Act.bind_of_ok _ hcaught⟩
  cases phase with
  | encoded | reported => exact ⟨_, _, rfl⟩
  | reached progress =>
    cases progress with
    | ended result => exact ⟨_, _, rfl⟩
    | entered | tokenReady =>
      obtain ⟨progress', s', hprogress'⟩ := hadvance _
      exact ⟨_, s', Act.bind_of_ok _ hprogress'⟩
    | routed route gates =>
      cases gates with
      | cons gate rest =>
        obtain ⟨progress', s', hprogress'⟩ := hadvance _
        exact ⟨_, s', Act.bind_of_ok _ hprogress'⟩
      | nil =>
        obtain ⟨answer, s', hcaught⟩ := Act.exists_caught_eq_ok (d.encode o route.schema) s
        rcases answer with panic | stop | payload <;> exact ⟨_, s', Act.bind_of_ok _ hcaught⟩

theorem enter_eq_afterListing (d : Dispatcher σ) (event : Event) (category : Category) :
    d.enter event category = d.afterListing event fun data profiles =>
      pure (.ok (profiles.map fun p => ⟨⟨event.name, category, data⟩, p, .reached .entered⟩)) := rfl

/-- To hand in an event keeps a view that listing the profiles keeps. -/
theorem keeps_enter {κ : Type} {view : Issuing σ → κ} {d : Dispatcher σ}
    (h : d.provider.list.ofServices.Keeps view) (event : Event) (category : Category) :
    (d.enter event category).Keeps view := by
  unfold enter
  cases EventData.ofEvent event with
  | error error => exact Act.keeps_pure _ _
  | ok data =>
    apply h.bind
    intro answer
    cases answer with
    | error error => exact Act.keeps_pure _ _
    | ok ps =>
      dsimp only
      split
      · exact (Act.keeps_note _ _).bind fun _ => Act.keeps_pure _ _
      · exact Act.keeps_pure _ _

end Dispatcher

namespace Traffic

variable {σ : Type} {d : Dispatcher σ}

theorem exists_play_eq (d : Dispatcher σ) (t : Traffic σ) (turn : Turn σ) (s : Scene (Issuing σ)) :
    ∃ t' s', t.play d turn s = .ok t' s' := by
  cases turn with
  | ask event category =>
    obtain ⟨answer, s', hcaught⟩ := Act.exists_caught_eq_ok (d.enter event category) s
    rcases answer with panic | error | strands <;> exact ⟨_, s', Act.bind_of_ok _ hcaught⟩
  | advance place =>
    rw [play]
    cases t.strands[place]? with
    | none => exact ⟨t, s, rfl⟩
    | some x =>
      obtain ⟨phase', s', hstep⟩ := d.exists_step_eq x.occurrence x.profile x.phase s
      exact ⟨_, s', Act.bind_of_ok _ hstep⟩
  | disturb act =>
    obtain ⟨answer, s', hcaught⟩ := Act.exists_caught_eq_ok act.ofServices s
    exact ⟨t, s', Act.bind_of_ok _ hcaught⟩

theorem playAll_append (d : Dispatcher σ) (turns others : List (Turn σ)) (t : Traffic σ) :
    playAll d (turns ++ others) t = playAll d turns t >>= playAll d others := by
  induction turns generalizing t with
  | nil => rfl
  | cons turn rest ih => simp only [List.cons_append, playAll, bind_assoc, ih]

/-! ## One call at a time -/

/-- Turns of one pipeline only concern its place. -/
theorem exists_playAll_replicate {o : Occurrence} {p : Profile} {n place : Nat} {t : Traffic σ}
    {phase phase' : Phase σ} {s s' : Scene (Issuing σ)} (hplace : t.strands[place]? = some ⟨o, p, phase⟩)
    (h : d.stepBy o p n phase s = .ok phase' s') :
    ∃ issued, playAll d (List.replicate n (.advance place)) t s
      = .ok ⟨t.strands.set place ⟨o, p, phase'⟩, issued⟩ s' := by
  induction n generalizing t phase s with
  | zero =>
    cases h
    obtain ⟨hlt, hget⟩ := List.getElem?_eq_some_iff.1 hplace
    refine ⟨t.issued, ?_⟩
    rw [← hget, List.set_getElem_self]
    rfl
  | succ n ih =>
    obtain ⟨phase₁, s₁, hstep⟩ := d.exists_step_eq o p phase s
    rw [Dispatcher.stepBy, Act.bind_of_ok _ hstep] at h
    have hplay : t.play d (.advance place) s
        = .ok ⟨t.strands.set place ⟨o, p, phase₁⟩, t.issued ++ (phase.made? phase₁).toList⟩ s₁ := by
      rw [play, hplace]
      exact Act.bind_of_ok _ hstep
    have hlt : place < t.strands.length := (List.getElem?_eq_some_iff.1 hplace).1
    have hplace₁ : (t.strands.set place ⟨o, p, phase₁⟩)[place]? = some ⟨o, p, phase₁⟩ :=
      List.getElem?_set_self hlt
    obtain ⟨issued, hrest⟩ :=
      ih (t := ⟨t.strands.set place ⟨o, p, phase₁⟩, t.issued ++ (phase.made? phase₁).toList⟩) hplace₁ h
    refine ⟨issued, ?_⟩
    rw [List.replicate_succ, playAll, Act.bind_of_ok _ hplay, hrest, List.set_set]

/-- Pipelines that take all their turns one after the other serve the profiles one after the other. -/
theorem exists_playAll_serveAll (o : Occurrence) (ps : List Profile) (done : List (Strand σ))
    (issued : List Token) (s : Scene (Issuing σ)) :
    ∃ t' reports s', playAll d (inTurn d done.length ps.length)
        ⟨done ++ ps.map (⟨o, ·, .reached .entered⟩), issued⟩ s = .ok t' s'
      ∧ d.serveAll o ps s = .ok reports s' ∧ t'.reports = done.filterMap (·.phase.report?) ++ reports := by
  induction ps generalizing done issued s with
  | nil =>
    refine ⟨_, [], s, rfl, rfl, ?_⟩
    rw [reports, List.map_nil, List.append_nil, List.append_nil]
  | cons p rest ih =>
    obtain ⟨result, s₁, hcaught⟩ := Act.exists_caught_eq_ok (d.attempt o p) s
    have hserve : d.serve o p s = .ok ⟨p.name, p.version, Dispatcher.outcome p result⟩
        ((Act.note (Dispatcher.notice p result)).after s₁) := by
      rw [Dispatcher.serve, Act.bind_of_ok _ hcaught]
      rfl
    have hsteps := d.stepBy_entered o p ▸ Act.map_of_ok Phase.reported hserve
    have hplace : (done ++ (p :: rest).map (Strand.mk o · (.reached .entered)))[done.length]?
        = some ⟨o, p, .reached .entered⟩ := by
      rw [List.getElem?_append_right (Nat.le_refl _), Nat.sub_self]
      rfl
    obtain ⟨issued₁, hplay⟩ := exists_playAll_replicate (t := ⟨_, issued⟩) hplace hsteps
    have hset : (done ++ (p :: rest).map (Strand.mk o · (.reached .entered))).set done.length
          ⟨o, p, .reported ⟨p.name, p.version, Dispatcher.outcome p result⟩⟩
        = (done ++ [⟨o, p, .reported ⟨p.name, p.version, Dispatcher.outcome p result⟩⟩])
          ++ rest.map (Strand.mk o · (.reached .entered)) := by
      rw [List.set_append_right _ _ (Nat.le_refl _), Nat.sub_self, List.append_assoc]
      rfl
    obtain ⟨t', reports, s', hrest, hall, hreports⟩ :=
      ih (done ++ [⟨o, p, .reported ⟨p.name, p.version, Dispatcher.outcome p result⟩⟩]) issued₁ _
    rw [List.length_append, List.length_singleton] at hrest
    refine ⟨t', ⟨p.name, p.version, Dispatcher.outcome p result⟩ :: reports, s', ?_, ?_, ?_⟩
    · rw [List.length_cons, inTurn, playAll_append, Act.bind_of_ok _ hplay, hset, hrest]
    · rw [Dispatcher.serveAll, Act.bind_of_ok _ hserve, Act.bind_of_ok _ hall]
      rfl
    · rw [hreports, List.filterMap_append, List.append_assoc]
      rfl

/-- A dispatch is one way to take turns: its profiles are served one after the other, with nobody between. -/
theorem exists_playAll_inTurn {event : Event} (category : Category) {data : EventData}
    {s : Scene (Issuing σ)} {t : Scene σ} {ps : List Profile} (hdata : EventData.ofEvent event = .ok data)
    (hlisted : d.provider.list s.services = .ok (.ok ps) t) :
    ∃ t' s', playAll d (.ask event category :: inTurn d 0 ps.length) {} s = .ok t' s'
      ∧ d.dispatch event category s = .ok (.ok ⟨event.name, category, t'.reports⟩) s' := by
  obtain ⟨s₁, _, hnext⟩ := Dispatcher.exists_afterListing_eq hdata hlisted
  have henter : d.enter event category s
      = .ok (.ok (ps.map (⟨⟨event.name, category, data⟩, ·, .reached .entered⟩))) s₁ := by
    rw [Dispatcher.enter_eq_afterListing, hnext]
    rfl
  have hask : play d {} (.ask event category) s
      = .ok ⟨ps.map (⟨⟨event.name, category, data⟩, ·, .reached .entered⟩), []⟩ s₁ :=
    Act.bind_of_ok _ (Act.caught_of_ok henter)
  obtain ⟨t', reports, s', hplay, hserve, hreports⟩ :=
    exists_playAll_serveAll (d := d) ⟨event.name, category, data⟩ ps [] [] s₁
  have hreports' : t'.reports = reports := hreports
  refine ⟨t', s', ?_, ?_⟩
  · rw [playAll, Act.bind_of_ok _ hask]
    exact hplay
  · rw [Dispatcher.dispatch_eq_afterListing, hnext, Act.bind_of_ok _ hserve, hreports']
    rfl

end Traffic

end SecurityEvents
