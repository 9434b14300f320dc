import Mathlib.Data.List.Forall2
import SecurityEvents.Proofs.Dispatch.Prospect
import SecurityEvents.Proofs.Rehearsal
set_option autoImplicit false

/-!
# Isolation of profiles

A dispatch serves each profile as if there were no other. What a profile comes to is foreseeable from the
profile alone, so an induction over the snapshot gives the whole report, and what is recorded, entry by entry.
-/

namespace SecurityEvents

/-- What a dispatch came to for one profile: the report, and what was recorded. -/
structure Served where
  report : ProfileReport
  items : List Published

namespace Dispatcher

variable {σ : Type} {settled : σ → Prop} {record : σ → List Published} {d : Dispatcher σ}

theorem yields_serve {o : Occurrence} {p : Profile} {answer : Except Panic (Except Stop String)}
    {items : List Published} (h : (d.attempt o p).Yields settled record answer items) :
    (d.serve o p).Yields settled record (.ok ⟨p.name, p.version, outcome p answer⟩) items := by
  have hitems : items = items ++ ([] ++ []) := (List.append_nil items).symm
  rw [hitems]
  exact h.caught.bind ((Act.yields_note _).bind (Act.yields_pure _))

/-- The profile comes to this wherever it is served, up to the stamps of what is recorded. -/
structure ComesTo (d : Dispatcher σ) (settled : σ → Prop) (record : σ → List Published)
    (o : Occurrence) (p : Profile) (v : Served) : Prop where
  name_eq : v.report.name = p.name
  version_eq : v.report.version = p.version
  length_items : v.items.length = v.report.outcome.isPublished.toNat
  yields : (d.serve o p).Yields settled record (.ok v.report) (v.items.map Published.unstamped)

/-- Serving a profile always comes to something. -/
theorem exists_serve (hd : d.Steady settled) (hb : d.Books record isTaken) (o : Occurrence)
    (p : Profile) {s : Scene (Issuing σ)} (hs : settled s.state.services) :
    ∃ s' v, d.serve o p s = .ok v.report s' ∧ settled s'.state.services
      ∧ record s'.state.services = record s.state.services ++ v.items
      ∧ d.ComesTo settled record o p v := by
  have href : settled s.services.state := hs
  obtain ⟨answer, items, hattempt, hlength⟩ := foreseeable_attempt hd hb href o p
  have hserve := yields_serve hattempt
  obtain ⟨new, hnew, rfl⟩ := hserve.record_after s hs
  refine ⟨_, ⟨⟨p.name, p.version, outcome p answer⟩, new⟩, Act.eq_ok_iff.2 ⟨hserve.answer_eq s hs, rfl⟩,
    hserve.settled_after s hs, hnew, ⟨rfl, rfl, ?_, hserve⟩⟩
  rw [← hlength, List.length_map]

/-- The profiles of a list are served one after the other, each as if it were the only one. -/
theorem exists_serveAll (hd : d.Steady settled) (hb : d.Books record isTaken) (o : Occurrence)
    (ps : List Profile) {s : Scene (Issuing σ)} (hs : settled s.state.services) :
    ∃ s' served, d.serveAll o ps s = .ok (served.map Served.report) s'
      ∧ record s'.state.services = record s.state.services ++ served.flatMap Served.items
      ∧ List.Forall₂ (d.ComesTo settled record o) ps served := by
  induction ps generalizing s with
  | nil => exact ⟨s, [], rfl, (List.append_nil _).symm, .nil⟩
  | cons p rest ih =>
    obtain ⟨s₁, v, hserve, hs₁, hrecord, hv⟩ := exists_serve hd hb o p hs
    obtain ⟨s₂, served, hrest, hmore, hserved⟩ := ih hs₁
    refine ⟨s₂, v :: served, ?_, ?_, .cons hv hserved⟩
    · rw [serveAll, Act.bind_of_ok _ hserve, Act.bind_of_ok _ hrest]
      rfl
    · rw [hmore, hrecord, List.flatMap_cons, List.append_assoc]

/-- A dispatch comes to something for every profile that is listed. -/
theorem exists_dispatch (hd : d.Steady settled) (hb : d.Books record isTaken) {event : Event}
    (category : Category) {data : EventData} (hdata : EventData.ofEvent event = .ok data)
    {s : Scene (Issuing σ)} {ps : List Profile}
    (hlist : d.provider.Lists settled record s.services ps) :
    ∃ s' served, d.dispatch event category s
        = .ok (.ok ⟨event.name, category, served.map Served.report⟩) s'
      ∧ record s'.state.services = record s.state.services ++ served.flatMap Served.items
      ∧ List.Forall₂ (d.ComesTo settled record ⟨event.name, category, data⟩) ps served := by
  obtain ⟨t, hlisted, ht, hrecord⟩ := hlist.exists_eq
  obtain ⟨s₁, hs₁, hdispatch⟩ := exists_dispatch_eq_serveAll category hdata hlisted
  obtain ⟨s₂, served, hserve, hmore, hserved⟩ :=
    exists_serveAll hd hb ⟨event.name, category, data⟩ ps (hs₁ ▸ ht)
  refine ⟨s₂, served, hdispatch _ s₂ hserve, ?_, hserved⟩
  rw [hmore, hs₁, hrecord]
  rfl

theorem ComesTo.unique {o : Occurrence} {p : Profile} {v w : Served}
    (hv : d.ComesTo settled record o p v) (hw : d.ComesTo settled record o p w)
    {s : Scene (Issuing σ)} (hs : settled s.state.services) :
    v.report = w.report ∧ v.items.map Published.unstamped = w.items.map Published.unstamped := by
  obtain ⟨hreport, hitems⟩ := hv.yields.unique hw.yields hs
  exact ⟨Except.ok.inj hreport, hitems⟩

/-- Every profile that is listed has one entry in the report, in order, and the record grows by one token for
each entry that says so, in order, and by nothing else. A dispatch of the event to the profile alone, with
whatever provider and after whatever came before, gives the same entry and the same token up to its stamp. -/
theorem dispatch_isolates_profiles (hd : d.Steady settled) (hb : d.Books record isTaken)
    {event : Event} (category : Category) {data : EventData} (hdata : EventData.ofEvent event = .ok data)
    {s : Scene (Issuing σ)} {ps : List Profile} (hlist : d.provider.Lists settled record s.services ps) :
    ∃ s' served,
      d.dispatch event category s = .ok (.ok ⟨event.name, category, served.map Served.report⟩) s'
      ∧ record s'.state.services = record s.state.services ++ served.flatMap Served.items
      ∧ List.Forall₂ (fun p v =>
          v.report.name = p.name ∧ v.report.version = p.version
          ∧ v.items.length = (if v.report.outcome.isPublished then 1 else 0)
          ∧ ∀ (provider : Provider σ) (t : Scene (Issuing σ)),
              provider.Lists settled record t.services [p] →
              ∃ t' items,
                { d with provider }.dispatch event category t
                  = .ok (.ok ⟨event.name, category, [v.report]⟩) t'
                ∧ record t'.state.services = record t.state.services ++ items
                ∧ items.map Published.unstamped = v.items.map Published.unstamped) ps served := by
  obtain ⟨s', served, hdispatch, hrecord, hserved⟩ := exists_dispatch hd hb category hdata hlist
  refine ⟨s', served, hdispatch, hrecord, hserved.imp ?_⟩
  intro p v hv
  refine ⟨hv.name_eq, hv.version_eq, ?_, ?_⟩
  · rw [hv.length_items]
    cases v.report.outcome.isPublished <;> rfl
  intro provider t ht
  -- A dispatcher that differs in its provider only serves profiles in the same way.
  have hd' : { d with provider }.Steady settled :=
    ⟨hd.gate, hd.encoder, hd.publisher, hd.publisher_settled⟩
  have hb' : { d with provider }.Books record isTaken := ⟨hb.gate, hb.encoder, hb.publisher⟩
  obtain ⟨t', alone, halone, hmore, hentries⟩ := exists_dispatch hd' hb' category hdata ht
  obtain ⟨w, rest, hw, hnil, rfl⟩ := List.forall₂_cons_left_iff.1 hentries
  obtain rfl := List.forall₂_nil_left_iff.1 hnil
  have hw' : d.ComesTo settled record ⟨event.name, category, data⟩ p w :=
    ⟨hw.name_eq, hw.version_eq, hw.length_items, hw.yields⟩
  obtain ⟨hreport, hitems⟩ := hw'.unique hv (s := ⟨⟨t.state.stamper, _⟩, []⟩) ht.settled_after
  refine ⟨t', w.items, ?_, ?_, hitems⟩
  · rw [halone, List.map_cons, hreport]
    rfl
  · rw [hmore, List.flatMap_cons, List.flatMap_nil, List.append_nil]

theorem dispatch_isolates_rehearsed_profiles :
    ∃ (s' : Scene (Issuing Stage)) (served : List Served),
      (Rehearsal.dispatcher 1).dispatch Rehearsal.event .tokenRevoke Rehearsal.scene
        = .ok (.ok ⟨Rehearsal.event.name, .tokenRevoke, served.map Served.report⟩) s'
      ∧ Stage.recorded s'.state.services = served.flatMap Served.items
      ∧ served.length = 5 := by
  obtain ⟨s', served, hdispatch, hrecord, hserved⟩ := dispatch_isolates_profiles (Rehearsal.steady 1)
    (Rehearsal.books 1) .tokenRevoke Rehearsal.ofEvent_event (Rehearsal.lists 1)
  exact ⟨s', served, hdispatch, hrecord, hserved.length_eq.symm⟩

end Dispatcher

end SecurityEvents
