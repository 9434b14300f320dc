import Mathlib.Data.List.Perm.Subperm
import SecurityEvents.Proofs.Dispatch.Announcing
import SecurityEvents.Proofs.Dispatch.Completion
set_option autoImplicit false

/-!
# At most one token for each profile

A pipeline that has not ended may still hand over one token, for its profile, and ends as it does. So what was handed
over and what may still be never become more, whatever the moves: `FanOut.handsOver_play` says so of one move. A
dispatch that serves several profiles at a time therefore records at most one token for each profile that was listed
(`Dispatcher.exists_fanOut_recorded`).
-/

namespace SecurityEvents

/-- For whom the pipeline may still hand over a token. -/
def Pipeline.addressees {σ : Type} (x : Pipeline σ) : List (String × String) :=
  match x.progress with
  | .ended _ => []
  | _ => [(x.profile.name, x.profile.version)]

theorem Pipeline.addressees_sublist {σ : Type} (p : Profile) (progress : Progress σ) :
    (Pipeline.mk p progress).addressees.Sublist [(p.name, p.version)] := by
  cases progress with
  | ended result => exact List.nil_sublist _
  | entered | routed | tokenReady => exact List.Sublist.refl _

namespace Dispatcher

variable {σ : Type} {d : Dispatcher σ} {record : σ → List Published}
  {noted : Except Panic (Except PublishError Unit) → Bool} {o : Occurrence} {p : Profile}

/-! ## A step -/

/-- Nothing is recorded before a token is ready. -/
theorem keeps_proceed (hb : d.Books record noted) {progress : Progress σ} (h : d.OnTheWay o p progress)
    (hready : ∀ route token, progress ≠ .tokenReady route token) :
    (d.proceed o p progress).Keeps fun i => record i.services := by
  cases progress with
  | entered =>
    apply (Act.keeps_ofExcept _ (d.catalog.route o.eventName o.category p)).bind
    intro routed
    cases routed <;> exact Act.keeps_pure _ _
  | routed route gates =>
    cases gates with
    | nil =>
      have hencode : (d.encode o route.schema).Keeps fun i => record i.services :=
        keeps_encode fun encoder hfind => (hb.encoder _ _ encoder hfind o.data).ofServices
      have hissue : (d.issue o p route).Keeps fun i => record i.services := by
        apply hencode.bind
        intro encoded
        cases encoded <;> exact fun _ => rfl
      apply hissue.bind
      intro issued
      cases issued <;> exact Act.keeps_pure _ _
    | cons gate rest =>
      have hgate : gate ∈ d.gates := h.2 gate List.mem_cons_self
      apply (hb.gate gate hgate (gateInput o p route)).ofServices.bind
      intro decision
      cases decision <;> exact Act.keeps_pure _ _
  | tokenReady route token => exact (hready route token rfl).elim
  | ended result => exact Act.keeps_pure _ _

theorem keeps_advance (hb : d.Books record noted) {progress : Progress σ} (h : d.OnTheWay o p progress)
    (hready : ∀ route token, progress ≠ .tokenReady route token) :
    (d.advance o p progress).Keeps fun i => record i.services := by
  apply (keeps_proceed hb h hready).caught.bind
  intro answer
  cases answer <;> exact Act.keeps_pure _ _

/-- The token that is ready is recorded at most, and it is for the profile. -/
theorem exists_publish_handed (hb : d.Books record noted) (o : Occurrence) (p : Profile) (route : Route) (token : Token)
    (s : Scene (Issuing σ)) :
    ∃ new, record ((d.publish o p route token).after s).state.services = record s.state.services ++ new
      ∧ (new.map Published.addressee).Sublist [(p.name, p.version)] := by
  have hpublish : ((d.publisher.publish token (context o p route)).ofServices.after s).state.services
      = ((d.publisher.publish token (context o p route)).after s.services).state := by
    rw [Act.after_ofServices]
  have hafter : ((d.publish o p route token).after s).state.services
      = ((d.publisher.publish token (context o p route)).after s.services).state := by
    unfold publish
    rw [← hpublish]
    cases hanswer : (d.publisher.publish token (context o p route)).ofServices.answer s with
    | error panic => rw [Act.after_bind_of_error _ hanswer]
    | ok answer =>
      rw [Act.after_bind_of_ok _ hanswer]
      cases answer <;> rfl
  refine ⟨_, (congrArg record hafter).trans (hb.publisher token (context o p route) s.services), ?_⟩
  split
  · exact List.Sublist.refl _
  · exact List.nil_sublist _

/-- A token that is ready is handed over, which ends the pipeline. -/
theorem advance_tokenReady (d : Dispatcher σ) (o : Occurrence) (p : Profile) (route : Route) (token : Token)
    (s : Scene (Issuing σ)) :
    d.advance o p (.tokenReady route token) s
      = .ok (.ended ((d.publish o p route token).answer s)) ((d.publish o p route token).after s) := by
  have hadvance : d.advance o p (.tokenReady route token) = .ended <$> (d.publish o p route token).caught := by
    rw [← advanceBy_tokenReady, advanceBy]
    exact (bind_pure _).symm
  rw [hadvance, Act.map_of_ok _ (Act.eq_ok_iff.2 ⟨Act.answer_caught _ s, Act.after_caught _ s⟩)]

/-- A pipeline that takes a step hands over at most one token, and none afterwards if it does. -/
theorem exists_advance_handed (hb : d.Books record noted) {progress progress' : Progress σ}
    (h : d.OnTheWay o p progress) (hbusy : ∀ result, progress ≠ .ended result) {s s' : Scene (Issuing σ)}
    (hadvance : d.advance o p progress s = .ok progress' s') :
    ∃ new, record s'.state.services = record s.state.services ++ new
      ∧ (new.map Published.addressee ++ (Pipeline.mk p progress').addressees).Sublist
          (Pipeline.mk p progress).addressees := by
  cases progress with
  | ended result => exact (hbusy result rfl).elim
  | entered | routed =>
    refine ⟨[], ?_, Pipeline.addressees_sublist p progress'⟩
    rw [List.append_nil]
    exact (keeps_advance hb h (by rintro _ _ ⟨⟩)).of_eq_ok hadvance
  | tokenReady route token =>
    obtain ⟨new, hnew, haddressed⟩ := exists_publish_handed hb o p route token s
    rw [advance_tokenReady] at hadvance
    cases hadvance
    refine ⟨new, hnew, ?_⟩
    rw [Pipeline.addressees, List.append_nil]
    exact haddressed

end Dispatcher

/-! ## Moves -/

namespace FanOut

variable {σ : Type} {d : Dispatcher σ} {record : σ → List Published}
  {noted : Except Panic (Except PublishError Unit) → Bool} {o : Occurrence} {ps : List Profile} {f f' : FanOut σ}
  {s s' : Scene (Issuing σ)}

/-- For whom the fan-out may still hand over tokens. -/
def addressees (f : FanOut σ) : List (String × String) :=
  f.inFlight.flatMap Pipeline.addressees ++ f.waiting.map fun p => (p.name, p.version)

theorem addressees_of_inFlight {before after : List (Pipeline σ)} (h : f.inFlight = before ++ after) :
    f.addressees = before.flatMap Pipeline.addressees
      ++ (after.flatMap Pipeline.addressees ++ f.waiting.map fun p => (p.name, p.version)) := by
  rw [addressees, h, List.flatMap_append, List.append_assoc]

/-- What is recorded from one scene to another, and what may still be, is no more than what might be before. -/
def HandsOver (record : σ → List Published) (f : FanOut σ) (s : Scene (Issuing σ)) (f' : FanOut σ)
    (s' : Scene (Issuing σ)) : Prop :=
  ∃ new, record s'.state.services = record s.state.services ++ new
    ∧ (new.map Published.addressee ++ f'.addressees).Subperm f.addressees

theorem HandsOver.of_keeps (hrecord : record s'.state.services = record s.state.services)
    (h : f'.addressees.Subperm f.addressees) : HandsOver record f s f' s' :=
  ⟨[], hrecord.trans (List.append_nil _).symm, h⟩

theorem HandsOver.trans {f'' : FanOut σ} {s'' : Scene (Issuing σ)} (h : HandsOver record f s f' s')
    (h' : HandsOver record f' s' f'' s'') : HandsOver record f s f'' s'' := by
  obtain ⟨new, hnew, hless⟩ := h
  obtain ⟨more, hmore, hrest⟩ := h'
  refine ⟨new ++ more, ?_, ?_⟩
  · rw [hmore, hnew, List.append_assoc]
  · rw [List.map_append, List.append_assoc]
    exact ((List.subperm_append_left _).2 hrest).trans hless

theorem addressees_start (f : FanOut σ) (limit : Nat) : (f.start limit).addressees = f.addressees := by
  unfold start
  split
  · rfl
  · rename_i p rest hwaiting
    split
    · simp only [addressees, hwaiting, List.flatMap_append, List.flatMap_cons, List.flatMap_nil, Pipeline.addressees,
        List.map_cons, List.append_assoc, List.singleton_append]
    · rfl

theorem handsOver_advance (hb : d.Books record noted) (h : f.OnTheWay d o ps) {place : Nat}
    (hadvance : f.advance d o place s = .ok f' s') : HandsOver record f s f' s' := by
  unfold advance at hadvance
  cases hplace : f.inFlight[place]? with
  | none =>
    rw [hplace] at hadvance
    cases hadvance
    exact .of_keeps rfl (List.Subperm.refl _)
  | some x =>
    obtain ⟨p, progress⟩ := x
    obtain ⟨before, after, _, hsplit, herase, hset⟩ := exists_split_of_getElem? hplace
    rw [hplace] at hadvance
    cases progress with
    | ended result =>
      cases hadvance
      have hsame : f.addressees = FanOut.addressees { f with inFlight := f.inFlight.eraseIdx place } := by
        rw [addressees_of_inFlight hsplit]
        exact (addressees_of_inFlight (f := { f with inFlight := f.inFlight.eraseIdx place }) herase).symm
      exact .of_keeps rfl (List.Perm.of_eq hsame.symm).subperm
    | entered | routed | tokenReady =>
      obtain ⟨progress', s₁, hstep, hend⟩ := Act.bind_eq_ok_iff.1 hadvance
      cases hend
      obtain ⟨new, hnew, hless⟩ := Dispatcher.exists_advance_handed hb
        (h.inFlight _ (List.mem_of_getElem? hplace)).2 (by rintro _ ⟨⟩) hstep
      refine ⟨new, hnew, ?_⟩
      rw [addressees_of_inFlight (hset _), addressees_of_inFlight hsplit, List.flatMap_cons, List.flatMap_cons]
      refine (List.perm_append_comm_assoc _ _ _).subperm.trans ((List.subperm_append_left _).2 ?_)
      rw [List.append_assoc, List.append_assoc, ← List.append_assoc]
      exact (List.Sublist.append_right hless _).subperm

/-- A move hands over no more than might be handed over before. -/
theorem handsOver_play (hb : d.Books record noted) (h : f.OnTheWay d o ps) {move : Move σ}
    (hmove : ∀ act, move = .disturb act → act.Keeps record) (hplay : f.play d o move s = .ok f' s') :
    f'.OnTheWay d o ps ∧ HandsOver record f s f' s' := by
  cases move with
  | start =>
    cases hplay
    refine ⟨onTheWay_start h _, .of_keeps rfl ?_⟩
    rw [addressees_start]
  | advance place => exact ⟨(records_advance hb h place).good_answer s f' s' hplay, handsOver_advance hb h hplay⟩
  | disturb act =>
    obtain ⟨answer, s₁, hcaught, hend⟩ := Act.bind_eq_ok_iff.1 hplay
    cases hend
    exact ⟨h, .of_keeps ((hmove act rfl).ofServices.caught.of_eq_ok hcaught) (List.Subperm.refl _)⟩

/-- Moves hand over no more than might be handed over before. -/
theorem handsOver_playAll (hb : d.Books record noted) {moves : List (Move σ)}
    (hmoves : ∀ act, .disturb act ∈ moves → act.Keeps record) (h : f.OnTheWay d o ps)
    (hplay : playAll d o moves f s = .ok f' s') : HandsOver record f s f' s' := by
  induction moves generalizing f s with
  | nil =>
    cases hplay
    exact .of_keeps rfl (List.Subperm.refl _)
  | cons move rest ih =>
    obtain ⟨f₁, s₁, hmove, hrest⟩ := Act.bind_eq_ok_iff.1 hplay
    obtain ⟨hwaiting, hfirst⟩ := handsOver_play hb h (fun act hact => hmoves act (hact ▸ List.mem_cons_self)) hmove
    exact hfirst.trans (ih (fun act hact => hmoves act (List.mem_cons_of_mem move hact)) hwaiting hrest)

end FanOut

/-! ## A dispatch -/

namespace Dispatcher

variable {σ : Type} {d : Dispatcher σ} {record : σ → List Published}
  {noted : Except Panic (Except PublishError Unit) → Bool}

/-- A dispatch that serves several profiles at a time records at most one token for each profile that is listed, however
far it has come and whatever others do meanwhile, as long as they leave the record alone. -/
theorem exists_fanOut_recorded (hb : d.Books record noted) (hlist : d.provider.list.Keeps record) (event : Event)
    (category : Category) {moves : List (Move σ)} (hmoves : ∀ act, .disturb act ∈ moves → act.Keeps record)
    (s : Scene (Issuing σ)) :
    ∃ kept, record ((d.fanOut event category moves).after s).state.services = record s.state.services ++ kept
      ∧ (kept = [] ∨ ∃ ps, d.provider.list.answer s.services = .ok (.ok ps)
        ∧ (kept.map Published.addressee).Subperm (ps.map fun p => (p.name, p.version))) := by
  have hnothing {s' : Scene (Issuing σ)} (hafter : (d.fanOut event category moves).after s = s')
      (hsame : record s'.state.services = record s.state.services) :
      record ((d.fanOut event category moves).after s).state.services = record s.state.services ++ [] := by
    rw [hafter, hsame, List.append_nil]
  rcases fails_or_panics_or_lists d event s with
    ⟨error, s', hfails⟩ | ⟨data, panic, t, hdata, hlisted⟩ | ⟨data, ps, t, hdata, hlisted⟩
  · exact ⟨[], hnothing (Act.eq_ok_iff.1 (hfails.afterListing_eq _)).2 (hfails.view_eq hlist), .inl rfl⟩
  · exact ⟨[], hnothing (Act.eq_error_iff.1 (afterListing_of_panic _ hdata hlisted)).2
      (hlist.of_eq_error hlisted), .inl rfl⟩
  · obtain ⟨s₁, hs₁, hnext⟩ := exists_afterListing_eq hdata hlisted
    obtain ⟨_, s₂, hbegin, _⟩ := exists_begin_eq d ⟨event.name, category, data⟩ moves ps s₁
    obtain ⟨f, s₂, hplay, hend⟩ := Act.bind_eq_ok_iff.1 hbegin
    cases hend
    obtain ⟨kept, hkept, hless⟩ := FanOut.handsOver_playAll hb hmoves (FanOut.onTheWay_waiting d _ ps) hplay
    have hafter : (d.fanOut event category moves).after s = s₂ := by
      rw [fanOut_eq_afterListing]
      exact (Act.eq_ok_iff.1 ((hnext _).trans hbegin)).2
    refine ⟨kept, ?_, .inr ⟨ps, (Act.eq_ok_iff.1 hlisted).1, ?_⟩⟩
    · rw [hafter, hkept, hs₁, hlist.of_eq_ok hlisted]
      rfl
    · exact (List.sublist_append_left _ _).subperm.trans hless

end Dispatcher

end SecurityEvents
