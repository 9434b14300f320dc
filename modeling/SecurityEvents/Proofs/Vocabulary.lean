import SecurityEvents.Proofs.Dispatch.Ending
import SecurityEvents.Proofs.Payload.Subject
import SecurityEvents.Proofs.Payload.Support
set_option autoImplicit false

/-!
# A vocabulary and its profile

A vocabulary is read in two ways. As a manager it says where an event of a category is found: in the first channel
that has an event for the category, at the first such event (`Vocabulary.Leads`). As a profile it lists channels by
their URIs and events by their keys, and there the route is looked for by what the manager says. Where no two
channels have the same URI both ways lead to the same place: `routing_profile` says so. Keys may repeat in a
channel, and then the event that is found need not be the one that leads, but it has the same URI.
-/

namespace SecurityEvents

theorem Catalog.Routing.unique {c : Catalog} {eventName : String} {category : Category} {p : Profile}
    {x y : Except Panic (Except SkipReason Route)} (hx : c.Routing eventName category p x)
    (hy : c.Routing eventName category p y) : x = y :=
  (Catalog.routing_iff.1 hx).symm.trans (Catalog.routing_iff.1 hy)

theorem Category.index_injective {a b : Category} (h : a.index = b.index) : a = b := by
  have ha := Category.all_index a
  rw [h, Category.all_index b] at ha
  exact (Option.some.inj ha).symm

/-- An event of the vocabulary in its profile. -/
def VocabularyEvent.listing (event : VocabularyEvent) (channelUri : String) : ChannelEvent :=
  ⟨event.key, Vocabulary.eventUri channelUri event.key⟩

/-- A channel of the vocabulary in its profile. -/
def VocabularyChannel.listing (channel : VocabularyChannel) : Channel :=
  ⟨channel.name, channel.uri, channel.events.map (·.listing channel.uri)⟩

namespace Vocabulary

variable {v : Vocabulary} {category : Category}

/-! ## Categories -/

/-- Without repeats, categories that do not descend ascend strictly. -/
theorem pairwise_withoutRepeats {cs : List Category} (h : cs.Pairwise (·.index ≤ ·.index)) :
    (withoutRepeats cs).Pairwise (·.index < ·.index) := by
  induction cs using withoutRepeats.induct with
  | case1 a rest ih =>
    rw [withoutRepeats, if_pos rfl]
    exact ih h.of_cons
  | case2 a b rest hne ih =>
    rw [withoutRepeats, if_neg hne]
    refine List.pairwise_cons.2 ⟨fun c hc => ?_, ih h.of_cons⟩
    have hab : a.index < b.index :=
      Nat.lt_of_le_of_ne (List.rel_of_pairwise_cons h List.mem_cons_self)
        fun hsame => hne (Category.index_injective hsame)
    rcases List.mem_cons.1 (mem_withoutRepeats.1 hc) with rfl | hc
    · exact hab
    · exact Nat.lt_of_lt_of_le hab (List.rel_of_pairwise_cons h.of_cons hc)
  | case3 few hfew =>
    rcases few with _ | ⟨a, _ | ⟨b, rest⟩⟩
    · exact .nil
    · exact List.pairwise_singleton _ a
    · exact (hfew a b rest rfl).elim

/-- The categories are strictly ascending. -/
theorem pairwise_categories (v : Vocabulary) : v.categories.Pairwise (·.index < ·.index) := by
  have hsorted : (v.listed.mergeSort fun a b => decide (a.index ≤ b.index)).Pairwise (·.index ≤ ·.index) := by
    refine (List.pairwise_mergeSort ?_ ?_ _).imp of_decide_eq_true
    · simp only [decide_eq_true_eq]
      omega
    · simp only [Bool.or_eq_true, decide_eq_true_eq]
      omega
  exact pairwise_withoutRepeats hsorted

/-! ## The event that leads -/

/-- The first channel with an event for the category, and the first such event in it. -/
structure Leads (v : Vocabulary) (category : Category) (channel : VocabularyChannel)
    (event : VocabularyEvent) : Prop where
  channel_isFirst : IsFirst (fun c => ∃ e ∈ c.events, category ∈ e.categories) v.channels channel
  event_isFirst : IsFirst (category ∈ ·.categories) channel.events event

theorem find?_event_eq_some_iff {events : List VocabularyEvent} {event : VocabularyEvent} :
    events.find? (·.categories.contains category) = some event
      ↔ IsFirst (category ∈ ·.categories) events event := by
  simp only [List.find?_eq_some_iff_append, IsFirst, List.contains_iff_mem, Bool.not_eq_true',
    ← Bool.not_eq_true]

theorem find?_event_eq_none_iff {events : List VocabularyEvent} :
    events.find? (·.categories.contains category) = none ↔ ¬ ∃ e ∈ events, category ∈ e.categories := by
  simp only [List.find?_eq_none, List.contains_iff_mem, not_exists, not_and]

/-- The vocabulary locates the event that leads. -/
theorem locate_eq_some_iff {m : EventMetadata} :
    v.locate category = some m ↔
      ∃ channel event, v.Leads category channel event ∧ ⟨channel.uri, event.key⟩ = m := by
  rw [locate, List.findSome?_eq_some_iff]
  constructor
  · rintro ⟨before, channel, after, hsplit, hfind, hbefore⟩
    obtain ⟨event, hevent, rfl⟩ := Option.map_eq_some_iff.1 hfind
    have hfirst := find?_event_eq_some_iff.1 hevent
    refine ⟨channel, event, ⟨⟨⟨event, hfirst.mem, hfirst.1⟩, before, after, hsplit, ?_⟩, hfirst⟩, rfl⟩
    intro other hother
    exact find?_event_eq_none_iff.1 (Option.map_eq_none_iff.1 (hbefore other hother))
  · rintro ⟨channel, event, ⟨⟨_, before, after, hsplit, hbefore⟩, hfirst⟩, rfl⟩
    refine ⟨before, channel, after, hsplit, ?_, ?_⟩
    · rw [find?_event_eq_some_iff.2 hfirst]
      rfl
    · intro other hother
      rw [find?_event_eq_none_iff.2 (hbefore other hother)]
      rfl

theorem locate_eq_none_iff : v.locate category = none ↔ category ∉ v.categories := by
  rw [mem_categories, ← isSome_locate, Option.not_isSome_iff_eq_none]

/-- As a manager the vocabulary locates the events of its categories, whatever their names. -/
theorem mem_categories_iff_locates (v : Vocabulary) (eventName : String) (category : Category) :
    category ∈ v.categories ↔ ∃ m, v.manager.locate eventName category = .ok (some m) := by
  rw [mem_categories, ← isSome_locate, Option.isSome_iff_exists]
  exact exists_congr fun m => ⟨congrArg Except.ok, Except.ok.inj⟩

/-! ## The profile -/

/-- The URI of an event is not that of the channel. -/
theorem eventUri_ne (channelUri key : String) : eventUri channelUri key ≠ channelUri := by
  intro h
  have hlength := congrArg String.length h
  rw [eventUri, String.length_append, String.length_append] at hlength
  have hmiddle : "/event-type/".length = 12 := by decide
  omega

theorem manages_profile {c : Catalog} (h : c.managers.get? v.schema = some v.manager) :
    c.Manages v.profile v.schema v.manager := by
  refine ⟨?_, h⟩
  change Schema.ofProfileName? v.schema.name = some v.schema
  cases v.schema <;> rfl

/-- An event of the vocabulary is routed to the channel and the URI of the one that leads. -/
theorem routing_profile {c : Catalog} (hmanager : c.managers.get? v.schema = some v.manager)
    (hdistinct : (v.channels.map (·.uri)).Nodup) (eventName : String) {channel : VocabularyChannel}
    {event : VocabularyEvent} (h : v.Leads category channel event) :
    c.Routing eventName category v.profile
      (.ok (.ok ⟨v.schema, channel.listing, eventUri channel.uri event.key⟩)) := by
  have hlocate : v.manager.locate eventName category = .ok (some ⟨channel.uri, event.key⟩) :=
    congrArg Except.ok (locate_eq_some_iff.2 ⟨channel, event, h, rfl⟩)
  have hchannel : IsFirst (·.uri = channel.uri) v.profile.channels channel.listing :=
    (isFirst_of_nodup VocabularyChannel.uri hdistinct h.channel_isFirst.mem).map
  obtain ⟨other, hother⟩ := exists_isFirst VocabularyEvent.key h.event_isFirst.mem
  have hevent : IsFirst (·.key = event.key) channel.listing.events
      (other.listing channel.uri) := hother.map
  have hrouting := Catalog.Routing.byEvent (manages_profile hmanager) hlocate hchannel hevent
  -- Another event with the key has the same URI.
  have hkey : other.key = event.key := hother.1
  have huri : (other.listing channel.uri).uri = eventUri channel.uri event.key :=
    congrArg (eventUri channel.uri) hkey
  exact huri ▸ hrouting

/-- An event that the vocabulary does not have is not routed. -/
theorem routing_profile_of_not_mem {c : Catalog} (hmanager : c.managers.get? v.schema = some v.manager)
    (eventName : String) (h : category ∉ v.categories) :
    c.Routing eventName category v.profile (.ok (.error .noEventMetadata)) :=
  .noEventMetadata (manages_profile hmanager) (congrArg Except.ok (locate_eq_none_iff.2 h))

/-! ## What is reported and what is published -/

/-- The outcome is one that a vocabulary gives for its profile. -/
structure Answers {σ : Type} (v : Vocabulary) (d : Dispatcher σ) (category : Category) (out : Outcome) :
    Prop where
  noEventMetadata_iff : out = .skipped .noEventMetadata ↔ category ∉ v.categories
  ne_unsupportedSchema : out ≠ .skipped .unsupportedSchema
  ne_noChannel : ∀ uri, out ≠ .skipped (.noChannel uri)
  ne_noEventUri : ∀ key, out ≠ .skipped (.noEventUri key)
  /-- What is published is published under the URI of the event that leads. -/
  address : ∀ uri, out = .published uri →
    ∃ channel event, v.Leads category channel event ∧ uri = eventUri channel.uri event.key
  /-- Standard encoders support a standard vocabulary. -/
  supported : ∀ schema config, v = standard schema → d.encoders = .standard config →
    out ≠ .skipped .noEncoder ∧ ∀ other, out ≠ .failed (.encoding (.unsupportedCategory other))

/-- The token goes out for the channel of the event that leads, under the URI of that event, which is not the
channel's. -/
def Addresses (v : Vocabulary) (category : Category) (w : Published) : Prop :=
  ∃ channel event payload, v.Leads category channel event ∧ w.context.eventUri = channel.uri
    ∧ w.token.events = .single (eventUri channel.uri event.key) payload
    ∧ eventUri channel.uri event.key ≠ channel.uri

section Dispatch

variable {σ : Type} {d : Dispatcher σ} {o : Occurrence} {out : Outcome} {channel : VocabularyChannel}
  {event : VocabularyEvent}

theorem exists_leads (h : category ∈ v.categories) : ∃ channel event, v.Leads category channel event := by
  obtain ⟨m, hm⟩ := (mem_categories_iff_locates v "" category).1 h
  obtain ⟨channel, event, hleads, _⟩ := locate_eq_some_iff.1 (Except.ok.inj hm)
  exact ⟨channel, event, hleads⟩

/-- A standard encoder is there for what a standard vocabulary covers. -/
theorem find?_standard_of_mem {schema : Schema} (config : Configuration)
    (h : category ∈ (standard schema).categories) :
    (EncoderRegistry.standard config : EncoderRegistry σ).find? schema category
      = some (Encoder.standard config schema) := by
  rw [EncoderRegistry.find?_standard, Encoder.supports_standard, if_pos (mem_categories.1 h)]

theorem supported_of_endsOn {schema : Schema} {config : Configuration} {p : Profile} {route : Route}
    (hencoders : d.encoders = .standard config) (hschema : route.schema = schema)
    (hmem : o.category ∈ (standard schema).categories) (h : d.EndsOn o p route out) :
    out ≠ .skipped .noEncoder ∧ ∀ other, out ≠ .failed (.encoding (.unsupportedCategory other)) := by
  have hfind := find?_standard_of_mem (σ := σ) config hmem
  rw [← hschema, ← hencoders] at hfind
  cases h with
  | ineligible | notPublished | panics | published => exact ⟨(nomatch ·), fun _ => (nomatch ·)⟩
  | noEncoder hnone => cases hnone.symm.trans hfind
  | notEncoded hencoder hencode =>
    refine ⟨(nomatch ·), ?_⟩
    rintro other ⟨⟩
    cases hencoder.symm.trans hfind
    rw [Encoder.standard_encode] at hencode
    have hpayload := (EStateM.Result.ok.inj hencode).1
    have hcovers : (standard route.schema).covers o.category = true := hschema ▸ mem_categories.1 hmem
    exact Schema.supported_payload config o.data hcovers other hpayload

/-- However the serving of the profile ends, the outcome is one that the vocabulary gives. -/
theorem answers_of_ends (hmanager : d.catalog.managers.get? v.schema = some v.manager)
    (hdistinct : (v.channels.map (·.uri)).Nodup) (h : d.Ends o v.profile out) :
    v.Answers d o.category out := by
  by_cases hmem : o.category ∈ v.categories
  · obtain ⟨channel, event, hleads⟩ := exists_leads hmem
    have hrouting := routing_profile hmanager hdistinct o.eventName hleads
    cases h with
    | noRoute hroute | managerPanics hroute => cases hroute.unique hrouting
    | onRoute hroute hends =>
      cases hroute.unique hrouting
      have hsupported : ∀ schema config, v = standard schema → d.encoders = .standard config →
          out ≠ .skipped .noEncoder ∧ ∀ other, out ≠ .failed (.encoding (.unsupportedCategory other)) := by
        rintro schema config rfl hencoders
        exact supported_of_endsOn hencoders (standard_schema schema) hmem hends
      refine ⟨⟨fun hout => ?_, fun hnot => (hnot hmem).elim⟩, ?_, ?_, ?_, ?_, hsupported⟩
      · subst hout
        cases hends
      · rintro rfl
        cases hends
      · rintro uri rfl
        cases hends
      · rintro key rfl
        cases hends
      · rintro uri rfl
        cases hends
        exact ⟨channel, event, hleads, rfl⟩
  · have hrouting := routing_profile_of_not_mem hmanager o.eventName hmem
    cases h with
    | managerPanics hroute | onRoute hroute => cases hroute.unique hrouting
    | noRoute hroute =>
      cases hroute.unique hrouting
      exact ⟨⟨fun _ => hmem, fun _ => rfl⟩, (nomatch ·), fun _ => (nomatch ·), fun _ => (nomatch ·),
        fun _ => (nomatch ·), fun _ _ _ _ => ⟨(nomatch ·), fun _ => (nomatch ·)⟩⟩

/-- A token that announces an event to the profile is addressed by the event that leads. -/
theorem addresses_of_announces (hmanager : d.catalog.managers.get? v.schema = some v.manager)
    (hdistinct : (v.channels.map (·.uri)).Nodup) {w : Published} (h : d.Announces o v.profile w) :
    v.Addresses o.category w := by
  obtain ⟨route, payload, stamp, hroute, _, rfl⟩ := h
  by_cases hmem : o.category ∈ v.categories
  · obtain ⟨channel, event, hleads⟩ := exists_leads hmem
    cases hroute.unique (routing_profile hmanager hdistinct o.eventName hleads)
    exact ⟨channel, event, payload, hleads, rfl, rfl, eventUri_ne channel.uri event.key⟩
  · cases hroute.unique (routing_profile_of_not_mem hmanager o.eventName hmem)

end Dispatch

/-- A vocabulary and its profile agree. Its categories are strictly ascending, and they are those that it locates an
event for, whatever the name of the event. If no two channels have the same URI, and the vocabulary is the manager of
its schema, then wherever its profile is among those that are listed, the outcome for it is one that the vocabulary
gives, and what is published for it is addressed by the event that leads; in whatever order the profiles are served. -/
theorem agrees_with_profile (v : Vocabulary) (hdistinct : (v.channels.map (·.uri)).Nodup) :
    v.categories.Pairwise (·.index < ·.index)
    ∧ (∀ eventName category, category ∈ v.categories ↔
        ∃ m, v.manager.locate eventName category = .ok (some m))
    ∧ ∀ {σ : Type} (d : Dispatcher σ), d.catalog.managers.get? v.schema = some v.manager →
      ∀ record noted, d.Books record noted → d.provider.list.Keeps record →
      ∀ event category data s ps t, EventData.ofEvent event = .ok data →
        d.provider.list s.services = .ok (.ok ps) t →
        (∃ served s', d.dispatch event category s
            = .ok (.ok ⟨event.name, category, served.map Served.report⟩) s'
          ∧ record s'.state.services = record s.state.services ++ served.flatMap Served.items
          ∧ List.Forall₂ (fun p x => x.report.name = p.name ∧ x.report.version = p.version
              ∧ (p = v.profile → v.Answers d category x.report.outcome
                ∧ ∀ w ∈ x.items, v.Addresses category w)) ps served)
        ∧ ∀ moves, (∀ act, .disturb act ∈ moves → act.Keeps record) →
          ∃ f served new s', d.fanOut event category moves s = .ok (.ok f) s'
            ∧ (served ++ (f.inFlight.map Pipeline.profile ++ f.waiting)).Perm ps
            ∧ List.Forall₂ (fun p r => r.name = p.name ∧ r.version = p.version
                ∧ (p = v.profile → v.Answers d category r.outcome)) served f.reports
            ∧ record s'.state.services = record s.state.services ++ new
            ∧ ∀ w ∈ new, ∃ p ∈ ps, w.addressee = (p.name, p.version)
              ∧ (p = v.profile → v.Addresses category w) := by
  refine ⟨v.pairwise_categories, v.mem_categories_iff_locates, ?_⟩
  intro σ d hmanager record noted hb hlist event category data s ps t hdata hlisted
  constructor
  · obtain ⟨served, s', hdispatch, hrecord, hserved⟩ :=
      Dispatcher.exists_dispatch_accounts hb hlist category hdata hlisted
    refine ⟨served, s', hdispatch, hrecord, hserved.imp ?_⟩
    intro p x hx
    refine ⟨hx.reports.name_eq, hx.reports.version_eq, ?_⟩
    rintro rfl
    exact ⟨answers_of_ends hmanager hdistinct hx.reports.ends,
      fun w hw => addresses_of_announces hmanager hdistinct (hx.announces w hw)⟩
  · intro moves hmoves
    obtain ⟨f, served, new, s', hfanOut, haccounts, hrecord, hnew⟩ :=
      Dispatcher.exists_fanOut_accounts hb hlist category hdata hlisted hmoves
    refine ⟨f, served, new, s', hfanOut, haccounts.perm, haccounts.reports.imp ?_, hrecord, ?_⟩
    · intro p r hr
      refine ⟨hr.name_eq, hr.version_eq, ?_⟩
      rintro rfl
      exact answers_of_ends hmanager hdistinct hr.ends
    · intro w hw
      obtain ⟨p, hp, hannounces⟩ := hnew w hw
      refine ⟨p, hp, hannounces.addressee_eq, ?_⟩
      rintro rfl
      exact addresses_of_announces hmanager hdistinct hannounces

/-- The channels of the standard vocabularies have different URIs. -/
theorem nodup_uri_standard (schema : Schema) : ((standard schema).channels.map (·.uri)).Nodup := by
  cases schema <;> decide

/-- Each standard vocabulary is the manager of its schema in the standard catalog. -/
theorem get?_standardCatalog (schema : Schema) :
    standardCatalog.managers.get? schema = some (standard schema).manager := by
  cases schema <;> rfl

/-- Among the standard profiles is that of the WSO2 vocabulary, which has a channel for users. -/
theorem wso2_agrees_with_rehearsed_profile :
    ∃ (served : List Served) (s' : Scene (Issuing Stage)),
      Dispatcher.standardRehearsal.dispatch Dispatcher.lockedAccount .userLocked
          Dispatcher.standardScene
        = .ok (.ok ⟨Dispatcher.lockedAccount.name, .userLocked, served.map Served.report⟩) s'
      ∧ served.length = 3
      ∧ ∃ x ∈ served, wso2.Answers Dispatcher.standardRehearsal .userLocked x.report.outcome
        ∧ ∀ w ∈ x.items, wso2.Addresses .userLocked w := by
  have hlisted : Dispatcher.standardRehearsal.provider.list Dispatcher.standardScene.services
      = .ok (.ok standardProfiles) Dispatcher.standardScene.services := rfl
  obtain ⟨data, hdata⟩ : ∃ data, EventData.ofEvent Dispatcher.lockedAccount = .ok data := ⟨_, rfl⟩
  obtain ⟨⟨served, s', hdispatch, _, hserved⟩, _⟩ :=
    (agrees_with_profile wso2 (nodup_uri_standard .wso2)).2.2 Dispatcher.standardRehearsal
      (get?_standardCatalog .wso2) Stage.recorded isTaken Dispatcher.books_standardRehearsal
      (Provider.keeps_memory Rehearsal.aside) Dispatcher.lockedAccount .userLocked data
      Dispatcher.standardScene standardProfiles _ hdata hlisted
  obtain ⟨x, rest, hx, _, rfl⟩ := List.forall₂_cons_left_iff.1 hserved
  exact ⟨_, s', hdispatch, hserved.length_eq.symm, x, List.mem_cons_self, hx.2.2 rfl⟩

end Vocabulary

end SecurityEvents
