import SecurityEvents.Proofs.Dispatch.Handover
import SecurityEvents.Proofs.Dispatch.Logged
import SecurityEvents.Proofs.Firing
import SecurityEvents.Proofs.Rehearsal
set_option autoImplicit false

/-!
# One handler at most

Of the five standard handlers at most one takes an event, so that what is handed over is what one dispatch hands over:
at most one token for each profile that is listed. This holds if it serves one profile after the other
(`HandlerTable.exists_fire_standard_eq`), and if it serves several at a time while others act on the services
(`Firing.exists_run_standard`).
-/

namespace SecurityEvents

/-! ## One profile after the other -/

namespace HandlerTable

variable {σ : Type}

/-- Where one of the five classifiers takes an event, none declines. -/
theorem declined_eq_nil {event : Event} {a : Area} (h : a.classifier.accepts event = true) :
    Classifier.declined event Classifier.all = [] := by
  apply List.filterMap_eq_nil_iff.2
  intro c hc
  obtain ⟨b, rfl⟩ := Area.exists_classifier_eq hc
  obtain ⟨category, hcategory⟩ := Area.exists_classify_eq_of_accepts h b
  rw [hcategory]

theorem fire_standard (d : Dispatcher σ) (event : Event) (s : Scene (Issuing σ)) :
    (HandlerTable.mk (Handler.standard d)).fire event s
      = handleAll event ((Classifier.takers event).map fun c => Handler.dispatching c d)
          { s with notices := s.notices ++ Classifier.declined event Classifier.all } := by
  have hfire := fire_dispatching event (Classifier.all.map fun c => (c, d)) s
  rw [List.map_map, List.map_map, List.filter_map, List.map_map] at hfire
  exact hfire

/-- A standard table has one handler at most run for an event. It hands over at most one token for each profile
that is listed. -/
theorem exists_fire_standard_eq (d : Dispatcher σ) (event : Event) (s : Scene (Issuing σ)) :
    ∃ results s', (HandlerTable.mk (Handler.standard d)).fire event s = .ok results s'
      ∧ results.map (·.1) = (Classifier.takers event).map (·.name)
      ∧ ∀ ledger, d.Ledger ledger → d.provider.list.Keeps ledger → ∃ handed,
          ledger s'.state.services = ledger s.state.services ++ handed
          ∧ (handed = [] ∨ ∃ ps, d.provider.list.answer s.services = .ok (.ok ps)
            ∧ (handed.map Published.addressee).Sublist (ps.map fun p => (p.name, p.version))) := by
  rw [fire_standard]
  rcases Classifier.takers_eq_nil_or_singleton event with hnone | ⟨a, hone, haccepts⟩
  · rw [hnone]
    exact ⟨[], _, rfl, rfl, fun ledger _ _ => ⟨[], (List.append_nil _).symm, .inl rfl⟩⟩
  · obtain ⟨category, hcategory⟩ := Area.accepts_iff.1 haccepts
    obtain ⟨s', hhandle, hs'⟩ := Handler.exists_handle_eq hcategory d s
    rw [hone, declined_eq_nil haccepts, List.append_nil]
    refine ⟨[(a.classifier.name, Handler.entry ((d.dispatch event category).answer s))], s', ?_, rfl,
      fun ledger hb hlist => ?_⟩
    · rw [List.map_cons, handleAll, Act.bind_of_ok _ hhandle]
      rfl
    · obtain ⟨handed, hhanded, hlisted⟩ :=
        Dispatcher.exists_dispatch_recorded hb hlist event category s
      rw [hs']
      exact ⟨handed, hhanded, hlisted⟩

end HandlerTable

/-! ## Several profiles at a time -/

section Recorded

variable {σ : Type} {event : Event} {others : Act σ Unit → Prop} {record : σ → List Published}
  {hooks : List (Classifier × Dispatcher σ)} {results : List (String × Option Report)} {s s' : Scene (Issuing σ)}

/-- What all others keep is kept meanwhile. -/
theorem Meanwhile.record_eq (h : Meanwhile others s s') (hothers : ∀ act, others act → act.Keeps record) :
    record s'.state.services = record s.state.services := by
  induction h with
  | refl => rfl
  | tail _ hact ih =>
    obtain ⟨act, hother, rfl⟩ := hact
    exact ((hothers act hother).ofServices _).trans ih

theorem Handled.eq_of_nil (h : Handled event others s hooks results s') (hnil : hooks = []) : s' = s := by
  cases h with
  | nil => rfl
  | snoc => exact (List.append_ne_nil_of_right_ne_nil _ (List.cons_ne_nil _ _) hnil).elim

/-- At most one token is recorded for each profile that a dispatcher lists, in a scene that others have led to. -/
def RecordsListed (others : Act σ Unit → Prop) (record : σ → List Published) (d : Dispatcher σ)
    (s s' : Scene (Issuing σ)) : Prop :=
  ∃ kept, record s'.state.services = record s.state.services ++ kept
    ∧ (kept = [] ∨ ∃ t ps, Meanwhile others s t ∧ d.provider.list.answer t.services = .ok (.ok ps)
      ∧ (kept.map Published.addressee).Subperm (ps.map fun p => (p.name, p.version)))

end Recorded

namespace Firing

variable {σ : Type} {event : Event} {others : Act σ Unit → Prop} {record : σ → List Published}
  {noted : Except Panic (Except PublishError Unit) → Bool} {hooks : List (Classifier × Dispatcher σ)}
  {s s' : Scene (Issuing σ)} {f : Firing σ} {d : Dispatcher σ}

/-- Where at most one handler takes the event, no more is recorded than in one dispatch. -/
theorem Reached.recordsListed (h : Reached event others hooks s f s') (hone : hooks.length ≤ 1)
    (hhooks : ∀ x ∈ hooks, x.2 = d) (hb : d.Books record noted) (hlist : d.provider.list.Keeps record)
    (hothers : ∀ act, others act → act.Keeps record) : RecordsListed others record d s s' := by
  -- In either situation a handler that has begun is the only one, so that nobody was before it.
  have hfirst {before after : List (Classifier × Dispatcher σ)} {x : Classifier × Dispatcher σ}
      (hsplit : hooks = before ++ x :: after) : before = [] ∧ x.2 = d := by
    have hmem : x ∈ hooks := by
      rw [hsplit]
      exact List.mem_append_cons_self
    rw [hsplit, List.length_append, List.length_cons] at hone
    exact ⟨List.length_eq_zero_iff.1 (by omega), hhooks x hmem⟩
  have hfanOut {category : Category} {moves : List (Move σ)} {s₂ s₃ : Scene (Issuing σ)}
      (hmeanwhile : Meanwhile others s s₂) (hmoves : ∀ act, .disturb act ∈ moves → others act)
      (hstate : s₃.state = ((d.fanOut event category moves).after s₂).state) : RecordsListed others record d s s₃ := by
    obtain ⟨kept, hkept, hlisted⟩ :=
      Dispatcher.exists_fanOut_recorded hb hlist event category (fun act hact => hothers act (hmoves act hact)) s₂
    refine ⟨kept, ?_, hlisted.imp_right fun ⟨ps, hps, hless⟩ => ⟨s₂, ps, hmeanwhile, hps, hless⟩⟩
    rw [hstate, hkept, hmeanwhile.record_eq hothers]
  cases h with
  | @between handled waiting results s₁ _ hsplit hhandled hmeanwhile =>
    have hsame := hmeanwhile.record_eq hothers
    cases hhandled with
    | nil => exact ⟨[], hsame.trans (List.append_nil _).symm, .inl rfl⟩
    | @snoc before _ c d' category moves entry s₂ s₃ _ hbefore hmeanwhile₂ _ hmoves _ _ hstate =>
      obtain ⟨rfl, rfl⟩ := hfirst (hsplit.trans (List.append_assoc before [(c, d')] waiting))
      obtain rfl := hbefore.eq_of_nil rfl
      obtain ⟨kept, hkept, hlisted⟩ := hfanOut hmeanwhile₂ hmoves hstate
      exact ⟨kept, hsame.trans hkept, hlisted⟩
  | @within handled waiting results c d' category data moves fanOut s₁ s₂ _ hsplit hhandled hmeanwhile _ _ hmoves
      hrun _ =>
    obtain ⟨rfl, rfl⟩ := hfirst hsplit
    obtain rfl := hhandled.eq_of_nil rfl
    exact hfanOut hmeanwhile hmoves (by rw [(Act.eq_ok_iff.1 hrun).2])

/-- The entries are those of handlers that take the event, in their order. -/
theorem Reached.names_prefix (h : Reached event others hooks s f s') :
    f.results.map (·.1) <+: hooks.map (·.1.name) := by
  cases h with
  | between hsplit hhandled _ | within hsplit hhandled _ _ _ _ _ _ =>
    rw [hhandled.map_fst_eq, hsplit, List.map_append]
    exact List.prefix_append _ _

/-- With the standard handlers at most one handles an event, and it hands over at most one token for each profile that
is listed, however far it has come. -/
theorem exists_run_standard (d : Dispatcher σ) (event : Event) (moves : List (Move σ)) (s : Scene (Issuing σ)) :
    ∃ f s' s₁, run event (Classifier.all.map fun c => (c, d)) moves s = .ok f s' ∧ s₁.state = s.state
      ∧ f.results.map (·.1) <+: (Classifier.takers event).map (·.name)
      ∧ (f.isDone = true → f.results.map (·.1) = (Classifier.takers event).map (·.name))
      ∧ ∀ ledger, d.Ledger ledger → d.provider.list.Keeps ledger → (∀ act, .disturb act ∈ moves → act.Keeps ledger) →
          RecordsListed (fun act => .disturb act ∈ moves) ledger d s₁ s' := by
  have htakers : ((Classifier.all.map fun c => (c, d)).filter fun h => h.1.accepts event)
      = (Classifier.takers event).map fun c => (c, d) := by
    rw [List.filter_map]
    rfl
  obtain ⟨s₁, hs₁, hruns⟩ := exists_run_reached event (Classifier.all.map fun c => (c, d)) s
  obtain ⟨f, s', hrun, hreached⟩ := hruns moves
  rw [htakers] at hreached
  have hnames : ((Classifier.takers event).map fun c => (c, d)).map (·.1.name)
      = (Classifier.takers event).map (·.name) := by
    rw [List.map_map]
    rfl
  refine ⟨f, s', s₁, hrun, hs₁, hnames ▸ hreached.names_prefix, fun hdone => ?_,
    fun ledger hb hlist hothers => ?_⟩
  · obtain ⟨_, hhandled, _⟩ := hreached.exists_handled hdone
    rw [hhandled.map_fst_eq, hnames]
  · refine hreached.recordsListed ?_ (fun x hx => ?_) hb hlist hothers
    · rw [List.length_map]
      exact Classifier.length_takers_le_one event
    · obtain ⟨c, _, rfl⟩ := List.mem_map.1 hx
      rfl

end Firing

namespace HandlerTable

/-- Every event has one taker at most among the five classifiers, so that the standard table runs one handler
at most and hands over at most one token for each profile that is listed, also while it serves several at a time. In a
known flow a new user is taken by one of two, as created or registered; a new password is taken if it was reset. In an
unknown flow nobody takes them, and those who look at the flow say why. Nobody looks at the flow for another name, and a
blank name is missing for all. -/
theorem standard_takes_once (event : Event) :
    (Classifier.takers event).length ≤ 1
    ∧ (∀ (σ : Type) (d : Dispatcher σ) (s : Scene (Issuing σ)),
        ∃ results s', (HandlerTable.mk (Handler.standard d)).fire event s = .ok results s'
          ∧ results.map (·.1) = (Classifier.takers event).map (·.name)
          ∧ ∀ ledger, d.Ledger ledger → d.provider.list.Keeps ledger → ∃ handed,
              ledger s'.state.services = ledger s.state.services ++ handed
              ∧ (handed = [] ∨ ∃ ps, d.provider.list.answer s.services = .ok (.ok ps)
                ∧ (handed.map Published.addressee).Sublist (ps.map fun p => (p.name, p.version))))
    ∧ (∀ (σ : Type) (d : Dispatcher σ) (moves : List (Move σ)) (s : Scene (Issuing σ)),
        ∃ f s' s₁, Firing.run event (Classifier.all.map fun c => (c, d)) moves s = .ok f s' ∧ s₁.state = s.state
          ∧ f.results.map (·.1) <+: (Classifier.takers event).map (·.name)
          ∧ (f.isDone = true → f.results.map (·.1) = (Classifier.takers event).map (·.name))
          ∧ ∀ ledger, d.Ledger ledger → d.provider.list.Keeps ledger →
              (∀ act, .disturb act ∈ moves → act.Keeps ledger) →
              RecordsListed (fun act => .disturb act ∈ moves) ledger d s₁ s')
    ∧ (event.name = EventName.postAddUser → event.FlowIsKnown →
        (event.Registers → Classifier.takers event = [.registration]
          ∧ Classifier.registration.classify event = .ok (some .registrationSuccess))
        ∧ (¬ event.Registers → Classifier.takers event = [.userOperation]
          ∧ Classifier.userOperation.classify event = .ok (some .userCreated)))
    ∧ (event.name = EventName.postAddNewPassword →
        (event.Resets → Classifier.takers event = [.credential]
          ∧ Classifier.credential.classify event = .ok (some .credentialUpdate))
        ∧ (¬ event.Resets → Classifier.takers event = []))
    ∧ (event.name = EventName.postAddUser ∨ event.name = EventName.postAddNewPassword →
        ∀ f, event.flow = some f → FlowName.ofName? f.name = none →
          Classifier.takers event = []
          ∧ (∃ c ∈ Classifier.all, c.LooksAtFlow event)
          ∧ ∀ c ∈ Classifier.all, c.LooksAtFlow event ↔ c.classify event = .error (.unknownFlow f.name))
    ∧ (event.name ≠ EventName.postAddUser → event.name ≠ EventName.postAddNewPassword →
        ∀ c ∈ Classifier.all, ∀ flow, c.classify (event.capturedIn flow) = c.classify event)
    ∧ ((∀ char ∈ event.name.toList, Text.isBlank char = true) →
        ∀ c ∈ Classifier.all, c.classify event = .error .missingEventName) := by
  refine ⟨Classifier.length_takers_le_one event, fun σ d s => exists_fire_standard_eq d event s,
    fun σ d moves s => Firing.exists_run_standard d event moves s, Classifier.takers_newUser,
    Classifier.takers_newPassword, fun hname f hflow hunknown => ?_, fun huser hpassword c hc flow => ?_,
    fun hblank c hc => ?_⟩
  · exact ⟨Classifier.takers_of_unknown hflow hunknown hname,
      Classifier.exists_looksAtFlow_of_unknown hflow hunknown hname,
      fun c hc => Classifier.looksAtFlow_iff_of_unknown hflow hunknown hname hc⟩
  · obtain ⟨a, rfl⟩ := Area.exists_classifier_eq hc
    exact a.classify_capturedIn huser hpassword flow
  · obtain ⟨a, rfl⟩ := Area.exists_classifier_eq hc
    exact a.classify_of_blank (List.all_eq_true.2 hblank)

/-- A dispatcher of broadcasts with standard gates, which serves two profiles at a time and keeps a log of the tokens
that it hands over. -/
def loggedBroadcast : Dispatcher (Stage × List Published) :=
  { Rehearsal.dispatcher 2 with
    gates := Gate.standard {} PublisherKind.broadcasting.publisher
    publisher := PublisherKind.broadcasting.publisher }.logged fun _ => true

/-- The stage with an empty log. -/
def loggedScene : Scene (Issuing (Stage × List Published)) where
  state := ⟨Rehearsal.scene.state.stamper, (Rehearsal.scene.state.services, [])⟩

/-- Two profiles are served at a time, the second ahead of the first, and the profiles are replaced when the first two
have been begun. -/
def loggedMoves : List (Move (Stage × List Published)) :=
  [.start, .start, .start, .disturb (((Provider.replace []).on Stage.profilesPart).on (.unlogged Stage))]
    ++ (List.replicate 20 [.advance 1, .advance 0, .start]).flatten

/-- The end of a session is broadcast to nobody; all tokens were handed over. -/
theorem standard_takes_broadcast_once :
    ∃ f s' s₁, Firing.run Rehearsal.event (Classifier.all.map fun c => (c, loggedBroadcast)) loggedMoves loggedScene
        = .ok f s'
      ∧ f.results.map (·.1) = ["TokensEventHook"]
      ∧ RecordsListed (fun act => .disturb act ∈ loggedMoves) Prod.snd loggedBroadcast s₁ s'
      ∧ s'.state.services.2.map Published.addressee = [("WSO2", "1"), ("WSO2", "1"), ("RISC", "1")] := by
  obtain ⟨f, s', s₁, hrun, _, _, hnames, hrecords⟩ :=
    (standard_takes_once Rehearsal.event).2.2.1 _ loggedBroadcast loggedMoves loggedScene
  have hkeeps : ∀ act, .disturb act ∈ loggedMoves → act.Keeps Prod.snd := by
    intro act hact
    simp [loggedMoves] at hact
    rw [hact]
    exact Act.keeps_on_unlogged _
  have hdone : ((Firing.run Rehearsal.event (Classifier.all.map fun c => (c, loggedBroadcast)) loggedMoves).answer
      loggedScene).toOption.any (·.isDone) = true := by decide +kernel
  have hhanded : ((Firing.run Rehearsal.event (Classifier.all.map fun c => (c, loggedBroadcast)) loggedMoves).after
      loggedScene).state.services.2.map Published.addressee = [("WSO2", "1"), ("WSO2", "1"), ("RISC", "1")] := by
    decide +kernel
  obtain ⟨hanswer, hafter⟩ := Act.eq_ok_iff.1 hrun
  rw [hanswer] at hdone
  rw [hafter] at hhanded
  refine ⟨f, s', s₁, hrun, ?_, ?_, hhanded⟩
  · rw [hnames hdone]
    decide
  · exact hrecords Prod.snd (Dispatcher.books_logged _ _) (Dispatcher.keeps_list_logged _ _) hkeeps

end HandlerTable

end SecurityEvents
