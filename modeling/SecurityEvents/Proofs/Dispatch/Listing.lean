import SecurityEvents.Dispatch.FanOut
import SecurityEvents.Proofs.Dispatch.Services
set_option autoImplicit false

/-!
# What a dispatch begins with

A dispatch extracts the data of the event and has the profiles listed. Either may fail, and the provider may
panic; then that is what the dispatch comes to. Otherwise it serves the profiles that were listed. A provider
that keeps the profiles in memory lists them as they are.
-/

namespace SecurityEvents

namespace Dispatcher

variable {σ : Type} {d : Dispatcher σ} {event : Event} {category : Category} {data : EventData}
  {s : Scene (Issuing σ)} {t : Scene σ}

/-- What is done with the data of an event and the profiles that are listed for it. -/
def afterListing {α : Type} (d : Dispatcher σ) (event : Event)
    (next : EventData → List Profile → Act (Issuing σ) (Except Error α)) :
    Act (Issuing σ) (Except Error α) := do
  match EventData.ofEvent event with
  | .error error => return .error error
  | .ok data =>
    match ← d.provider.list.ofServices with
    | .error error => return .error error
    | .ok profiles =>
      if profiles.isEmpty then Act.note .noProfiles
      next data profiles

theorem dispatch_eq_afterListing (d : Dispatcher σ) (event : Event) (category : Category) :
    d.dispatch event category = d.afterListing event fun data profiles => do
      return .ok ⟨event.name, category, ← d.serveAll ⟨event.name, category, data⟩ profiles⟩ := rfl

theorem fanOut_eq_afterListing (d : Dispatcher σ) (event : Event) (category : Category)
    (moves : List (Move σ)) :
    d.fanOut event category moves = d.afterListing event fun data profiles => do
      return .ok (← FanOut.playAll d ⟨event.name, category, data⟩ moves { waiting := profiles }) := rfl

section AfterListing

variable {α : Type} (next : EventData → List Profile → Act (Issuing σ) (Except Error α))

theorem afterListing_of_extraction_error {error : Error} (h : EventData.ofEvent event = .error error) :
    d.afterListing event next s = .ok (.error error) s := by
  rw [afterListing, h]
  rfl

theorem afterListing_of_panic {panic : Panic} (hdata : EventData.ofEvent event = .ok data)
    (h : d.provider.list s.services = .error panic t) :
    d.afterListing event next s = .error panic (s.withServices t) := by
  rw [afterListing, hdata]
  exact Act.bind_of_error _ (Act.ofServices_of_error h)

theorem afterListing_of_error {error : Error} (hdata : EventData.ofEvent event = .ok data)
    (h : d.provider.list s.services = .ok (.error error) t) :
    d.afterListing event next s = .ok (.error error) (s.withServices t) := by
  rw [afterListing, hdata]
  exact Act.bind_of_ok _ (Act.ofServices_of_ok h)

end AfterListing

/-- What is done with the profiles that are listed is done in the scene in which the provider leaves the
services. -/
theorem exists_afterListing_eq {ps : List Profile} (hdata : EventData.ofEvent event = .ok data)
    (h : d.provider.list s.services = .ok (.ok ps) t) :
    ∃ s₁, s₁.state.services = t.state
      ∧ ∀ {α : Type} (next : EventData → List Profile → Act (Issuing σ) (Except Error α)),
        d.afterListing event next s = next data ps s₁ := by
  have hlisted := Act.ofServices_of_ok h
  by_cases hempty : ps.isEmpty = true
  · refine ⟨(Act.note .noProfiles).after (s.withServices t), rfl, fun next => ?_⟩
    rw [afterListing, hdata]
    dsimp only
    rw [Act.bind_of_ok _ hlisted]
    dsimp only
    rw [if_pos hempty, Act.bind_of_ok _ (Act.eq_ok_iff.2 ⟨Act.answer_note _ _, rfl⟩)]
  · refine ⟨s.withServices t, rfl, fun next => ?_⟩
    rw [afterListing, hdata]
    dsimp only
    rw [Act.bind_of_ok _ hlisted]
    dsimp only
    rw [if_neg hempty]

/-- Once the profiles are listed, they are served. -/
theorem exists_dispatch_eq_serveAll (category : Category) {ps : List Profile}
    (hdata : EventData.ofEvent event = .ok data)
    (h : d.provider.list s.services = .ok (.ok ps) t) :
    ∃ s₁, s₁.state.services = t.state ∧ ∀ reports s₂,
      d.serveAll ⟨event.name, category, data⟩ ps s₁ = .ok reports s₂ →
      d.dispatch event category s = .ok (.ok ⟨event.name, category, reports⟩) s₂ := by
  obtain ⟨s₁, hs₁, hnext⟩ := exists_afterListing_eq hdata h
  refine ⟨s₁, hs₁, fun reports s₂ hserve => ?_⟩
  rw [dispatch_eq_afterListing, hnext, Act.bind_of_ok _ hserve]
  rfl

end Dispatcher

/-! ## Snapshots -/

/-- In this scene of the services the provider lists these profiles; it leaves the services settled and their
record as it is. -/
structure Provider.Lists {σ : Type} (provider : Provider σ) (settled : σ → Prop)
    (record : σ → List Published) (s : Scene σ) (ps : List Profile) : Prop where
  answer_eq : provider.list.answer s = .ok (.ok ps)
  settled_after : settled (provider.list.after s).state
  record_after : record (provider.list.after s).state = record s.state

theorem Provider.Lists.exists_eq {σ : Type} {provider : Provider σ} {settled : σ → Prop}
    {record : σ → List Published} {s : Scene σ} {ps : List Profile}
    (h : provider.Lists settled record s ps) :
    ∃ t, provider.list s = .ok (.ok ps) t ∧ settled t.state ∧ record t.state = record s.state :=
  ⟨_, Act.eq_ok_iff.2 ⟨h.answer_eq, rfl⟩, h.settled_after, h.record_after⟩

/-- The services do not depend on a part of their state, and neither does their record. -/
structure Part.Aside {σ τ : Type} (part : Part σ τ) (settled : σ → Prop)
    (record : σ → List Published) : Prop where
  settled_set : ∀ t s, settled s → settled (part.set t s)
  record_set : ∀ t s, record (part.set t s) = record s

theorem Provider.keeps_memory {σ : Type} {part : Part σ (List Profile)} {settled : σ → Prop}
    {record : σ → List Published} (h : part.Aside settled record) :
    (Provider.memory.on part).list.Keeps record := by
  intro s
  rw [Provider.on, Act.after_on]
  exact h.record_set _ _

/-- Profiles that are kept aside are listed as they are. -/
theorem Provider.lists_memory {σ : Type} {part : Part σ (List Profile)} {settled : σ → Prop}
    {record : σ → List Published} (h : part.Aside settled record) {s : Scene σ} (hs : settled s.state) :
    (Provider.memory.on part).Lists settled record s (part.get s.state) where
  answer_eq := Act.answer_on part Provider.memory.list s
  settled_after := by
    rw [Provider.on, Act.after_on]
    exact h.settled_set _ _ hs
  record_after := Provider.keeps_memory h s

end SecurityEvents
