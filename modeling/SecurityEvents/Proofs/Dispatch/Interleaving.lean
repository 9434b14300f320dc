import SecurityEvents.Proofs.Dispatch.Progress
set_option autoImplicit false

/-!
# Fan-out keeps what is dispatched

Whatever order the steps of several pipelines are taken in, and whoever replaces the profiles meanwhile, a
dispatch comes to the same as one that serves the profiles of its snapshot one after the other, except for the
order. What carries the proof is an account of a dispatch under way: its reports and the prospects of what is
outstanding are always the same list, and so are what it has recorded and what it will still record. A move
keeps both accounts up to order (`exists_play`), and so do moves (`exists_playAll`). Where only the first
pipeline in flight takes steps, the order is kept as well.
-/

namespace SecurityEvents

/-- The same things, and in the same order where order is kept. -/
def Agree {α : Type} (ordered : Prop) (xs ys : List α) : Prop :=
  xs.Perm ys ∧ (ordered → xs = ys)

namespace Agree

variable {α : Type} {ordered : Prop} {xs ys zs : List α}

theorem of_eq (h : xs = ys) : Agree ordered xs ys :=
  ⟨h ▸ List.Perm.refl xs, fun _ => h⟩

theorem trans (h : Agree ordered xs ys) (h' : Agree ordered ys zs) : Agree ordered xs zs :=
  ⟨h.1.trans h'.1, fun hordered => (h.2 hordered).trans (h'.2 hordered)⟩

theorem append_left (ws : List α) (h : Agree ordered xs ys) : Agree ordered (ws ++ xs) (ws ++ ys) :=
  ⟨h.1.append_left ws, fun hordered => by rw [h.2 hordered]⟩

/-- What stands in the middle may be taken out to the front; nothing is before it where order is kept. -/
theorem middle {before : List α} (h : ordered → before = []) (xs after : List α) :
    Agree ordered (xs ++ (before ++ after)) (before ++ (xs ++ after)) := by
  constructor
  · rw [← List.append_assoc, ← List.append_assoc]
    exact List.perm_append_comm.append_right after
  · intro hordered
    rw [h hordered, List.nil_append, List.nil_append]

end Agree

/-- The place of an item divides a list. -/
theorem exists_split_of_getElem? {α : Type} {l : List α} {place : Nat} {x : α}
    (h : l[place]? = some x) :
    ∃ before after, before.length = place ∧ l = before ++ x :: after
      ∧ l.eraseIdx place = before ++ after ∧ ∀ y, l.set place y = before ++ y :: after := by
  obtain ⟨hlt, rfl⟩ := List.getElem?_eq_some_iff.1 h
  refine ⟨l.take place, l.drop (place + 1), ?_, ?_, List.eraseIdx_eq_take_drop_succ l place, fun y => ?_⟩
  · rw [List.length_take]
    omega
  · rw [← List.drop_eq_getElem_cons hlt, List.take_append_drop]
  · rw [List.set_eq_take_append_cons_drop, if_pos hlt]

/-- The act of somebody else leaves the services settled and their record as it is. -/
def Act.Harmless {σ α : Type} (settled : σ → Prop) (record : σ → List Published) (act : Act σ α) : Prop :=
  ∀ s, settled s.state → settled (act.after s).state ∧ record (act.after s).state = record s.state

/-- The move takes no pipeline before another that was begun earlier. -/
def Move.InOrder {σ : Type} (limit : Nat) : Move σ → Prop
  | .advance place => limit ≤ 1 ∨ place = 0
  | _ => True

namespace FanOut

variable {σ : Type}

/-- The pipelines that were not begun. -/
def pending (f : FanOut σ) : List (Pipeline σ) :=
  f.waiting.map fun p => ⟨p, .entered⟩

/-- The pipelines that have not reported. -/
def outstanding (f : FanOut σ) : List (Pipeline σ) :=
  f.inFlight ++ f.pending

/-- The reports that there are, and those that are to come. -/
def foreseen (d : Dispatcher σ) (record : σ → List Published) (o : Occurrence) (ref : Scene (Issuing σ))
    (f : FanOut σ) : List ProfileReport :=
  f.reports ++ f.outstanding.map fun x => (d.prospect record o ref x).report

/-- What is still to be recorded. -/
def dues (d : Dispatcher σ) (record : σ → List Published) (o : Occurrence) (ref : Scene (Issuing σ))
    (f : FanOut σ) : List Published :=
  f.outstanding.flatMap fun x => (d.prospect record o ref x).items

/-- What is in flight fits the dispatcher: it asks its gates only, and there is room for it. -/
structure Fits (d : Dispatcher σ) (f : FanOut σ) : Prop where
  within : ∀ x ∈ f.inFlight, x.progress.Within d.gates
  room : f.inFlight.length ≤ d.config.profileConcurrency

/-- A dispatch went on from a scene to another and kept its accounts. -/
structure Continues (d : Dispatcher σ) (settled : σ → Prop) (record : σ → List Published)
    (o : Occurrence) (ref : Scene (Issuing σ)) (ordered : Prop) (f : FanOut σ)
    (s : Scene (Issuing σ)) (f' : FanOut σ) (s' : Scene (Issuing σ)) : Prop where
  fits : f'.Fits d
  settled_after : settled s'.state.services
  foreseen_agree : Agree ordered (f'.foreseen d record o ref) (f.foreseen d record o ref)
  dues_agree : ∃ new, record s'.state.services = record s.state.services ++ new
    ∧ Agree ordered (new.map Published.unstamped ++ f'.dues d record o ref) (f.dues d record o ref)

section Done

variable {d : Dispatcher σ} {record : σ → List Published} {o : Occurrence} {ref : Scene (Issuing σ)}
  {f : FanOut σ}

theorem outstanding_of_isDone (h : f.isDone = true) : f.outstanding = [] := by
  rw [isDone, Bool.and_eq_true, List.isEmpty_iff, List.isEmpty_iff] at h
  rw [outstanding, pending, h.1, h.2]
  rfl

theorem foreseen_of_isDone (h : f.isDone = true) : f.foreseen d record o ref = f.reports := by
  rw [foreseen, outstanding_of_isDone h, List.map_nil, List.append_nil]

theorem dues_of_isDone (h : f.isDone = true) : f.dues d record o ref = [] := by
  rw [dues, outstanding_of_isDone h, List.flatMap_nil]

end Done

section Continues

variable {d : Dispatcher σ} {settled : σ → Prop} {record : σ → List Published} {o : Occurrence}
  {ref s s' : Scene (Issuing σ)} {ordered : Prop} {f f' : FanOut σ}

theorem Continues.refl (hf : f.Fits d) (hs : settled s.state.services) :
    Continues d settled record o ref ordered f s f s :=
  ⟨hf, hs, .of_eq rfl, [], (List.append_nil _).symm, .of_eq rfl⟩

theorem Continues.trans {f'' : FanOut σ} {s'' : Scene (Issuing σ)}
    (h : Continues d settled record o ref ordered f s f' s')
    (h' : Continues d settled record o ref ordered f' s' f'' s'') :
    Continues d settled record o ref ordered f s f'' s'' := by
  obtain ⟨new, hnew, hdues⟩ := h.dues_agree
  obtain ⟨more, hmore, hdues'⟩ := h'.dues_agree
  refine ⟨h'.fits, h'.settled_after, h'.foreseen_agree.trans h.foreseen_agree, new ++ more, ?_, ?_⟩
  · rw [hmore, hnew, List.append_assoc]
  · rw [List.map_append, List.append_assoc]
    exact (hdues'.append_left _).trans hdues

/-- Where nothing is recorded and nothing moves, the accounts are kept. -/
theorem Continues.of_same (hf : f'.Fits d) (hs : settled s'.state.services)
    (hrecord : record s'.state.services = record s.state.services) (hreports : f'.reports = f.reports)
    (houtstanding : f'.outstanding = f.outstanding) :
    Continues d settled record o ref ordered f s f' s' := by
  refine ⟨hf, hs, .of_eq ?_, [], ?_, .of_eq ?_⟩
  · rw [foreseen, foreseen, hreports, houtstanding]
  · rw [hrecord, List.append_nil]
  · rw [List.map_nil, List.nil_append, dues, dues, houtstanding]

/-- To begin a profile only moves it from those that wait to those in flight. -/
theorem continues_start (hf : f.Fits d) (hs : settled s.state.services) :
    Continues d settled record o ref ordered f s (f.start d.config.profileConcurrency) s := by
  unfold start
  split
  · exact .refl hf hs
  · rename_i p rest hwaiting
    split
    · rename_i hroom
      have hwithin : ∀ x ∈ f.inFlight ++ [⟨p, .entered⟩], x.progress.Within d.gates := by
        intro x hx
        rcases List.mem_append.1 hx with hx | hx
        · exact hf.within x hx
        · obtain rfl := List.mem_singleton.1 hx
          trivial
      refine .of_same ⟨hwithin, ?_⟩ hs rfl rfl ?_
      · rw [List.length_append, List.length_singleton]
        exact hroom
      · simp only [outstanding, pending, hwaiting, List.map_cons, List.append_assoc,
          List.singleton_append]
    · exact .refl hf hs

/-! ## A pipeline in flight -/

theorem foreseen_of_inFlight {before after : List (Pipeline σ)} (h : f.inFlight = before ++ after) :
    f.foreseen d record o ref = f.reports ++ (before.map (fun x => (d.prospect record o ref x).report)
      ++ (after ++ f.pending).map fun x => (d.prospect record o ref x).report) := by
  simp only [foreseen, outstanding, h, List.map_append, List.append_assoc]

theorem dues_of_inFlight {before after : List (Pipeline σ)} (h : f.inFlight = before ++ after) :
    f.dues d record o ref = before.flatMap (fun x => (d.prospect record o ref x).items)
      ++ (after ++ f.pending).flatMap fun x => (d.prospect record o ref x).items := by
  simp only [dues, outstanding, h, List.flatMap_append, List.append_assoc]

/-- Where moves are in order, nothing that is in flight is before the pipeline that moves. -/
theorem before_eq_nil (hf : f.Fits d) {before after : List (Pipeline σ)} {x : Pipeline σ}
    (h : f.inFlight = before ++ x :: after)
    (hmove : (Move.advance before.length : Move σ).InOrder d.config.profileConcurrency) : before = [] := by
  have hroom := hf.room
  rw [h, List.length_append, List.length_cons] at hroom
  apply List.length_eq_zero_iff.1
  rcases hmove with hlimit | hplace
  · omega
  · exact hplace

/-- A pipeline that has ended reports what was foreseen for it. -/
theorem continues_report (hf : f.Fits d) (hs : settled s.state.services) {place : Nat} {p : Profile}
    {result : Except Panic (Except Stop String)} (hplace : f.inFlight[place]? = some ⟨p, .ended result⟩)
    (hmove : ordered → (Move.advance place : Move σ).InOrder d.config.profileConcurrency)
    (notices : List Notice) :
    Continues d settled record o ref ordered f s
      { f with
        inFlight := f.inFlight.eraseIdx place
        reports := f.reports ++ [⟨p.name, p.version, Dispatcher.outcome p result⟩] }
      { s with notices } := by
  obtain ⟨before, after, rfl, hsplit, herase, _⟩ := exists_split_of_getElem? hplace
  have hprospect : d.prospect record o ref ⟨p, .ended result⟩ =
      ⟨⟨p.name, p.version, Dispatcher.outcome p result⟩, []⟩ := d.prospect_ended o ref p result
  have hwithin : ∀ x ∈ f.inFlight.eraseIdx before.length, x.progress.Within d.gates :=
    fun x hx => hf.within x (List.mem_of_mem_eraseIdx hx)
  have hroom : (f.inFlight.eraseIdx before.length).length ≤ d.config.profileConcurrency :=
    Nat.le_trans (List.length_eraseIdx_le _ _) hf.room
  refine ⟨⟨hwithin, hroom⟩, hs, ?_, [], (List.append_nil _).symm, .of_eq ?_⟩
  · rw [foreseen_of_inFlight herase, foreseen_of_inFlight hsplit, List.cons_append, List.map_cons,
      hprospect, List.append_assoc]
    refine Agree.append_left f.reports (.middle ?_ _ _)
    intro hordered
    rw [before_eq_nil hf hsplit (hmove hordered), List.map_nil]
  · rw [dues_of_inFlight herase, dues_of_inFlight hsplit, List.cons_append, List.flatMap_cons, hprospect]
    rfl

/-- A pipeline that takes a step records a part of what was due. -/
theorem exists_continues_advance (hd : d.Steady settled) (hb : d.Books record isTaken)
    (href : settled ref.state.services) (hf : f.Fits d) (hs : settled s.state.services) {place : Nat}
    {p : Profile} {progress : Progress σ} (hplace : f.inFlight[place]? = some ⟨p, progress⟩)
    (hmove : ordered → (Move.advance place : Move σ).InOrder d.config.profileConcurrency) :
    ∃ progress' s', d.advance o p progress s = .ok progress' s'
      ∧ Continues d settled record o ref ordered f s
          { f with inFlight := f.inFlight.set place ⟨p, progress'⟩ } s' := by
  obtain ⟨before, after, rfl, hsplit, _, hset⟩ := exists_split_of_getElem? hplace
  have hwithin : progress.Within d.gates := hf.within _ (List.mem_of_getElem? hplace)
  obtain ⟨progress', s', new, hadvance, hwithin', hs', hnew, hreport, hitems⟩ :=
    Dispatcher.exists_advance hd hb o href hs p hwithin
  have hallWithin : ∀ x ∈ f.inFlight.set before.length ⟨p, progress'⟩, x.progress.Within d.gates := by
    intro x hx
    rcases List.mem_or_eq_of_mem_set hx with hx | rfl
    · exact hf.within x hx
    · exact hwithin'
  have hroom : (f.inFlight.set before.length ⟨p, progress'⟩).length ≤ d.config.profileConcurrency := by
    rw [List.length_set]
    exact hf.room
  refine ⟨progress', s', hadvance, ⟨hallWithin, hroom⟩, hs', .of_eq ?_, new, hnew, ?_⟩
  · rw [foreseen_of_inFlight hsplit, foreseen_of_inFlight (hset _), List.cons_append, List.cons_append,
      List.map_cons, List.map_cons, hreport]
    rfl
  · rw [dues_of_inFlight hsplit, dues_of_inFlight (hset _), List.cons_append, List.cons_append,
      List.flatMap_cons, List.flatMap_cons, ← hitems, List.append_assoc]
    refine .middle ?_ _ _
    intro hordered
    rw [before_eq_nil hf hsplit (hmove hordered), List.flatMap_nil]

end Continues

/-! ## Moves -/

section Moves

variable {d : Dispatcher σ} {settled : σ → Prop} {record : σ → List Published} {o : Occurrence}
  {ref : Scene (Issuing σ)} {ordered : Prop}

/-- A move keeps the accounts. -/
theorem exists_play (hd : d.Steady settled) (hb : d.Books record isTaken)
    (href : settled ref.state.services) {f : FanOut σ} (hf : f.Fits d) {s : Scene (Issuing σ)}
    (hs : settled s.state.services) (move : Move σ)
    (hharmless : ∀ act, move = .disturb act → act.Harmless settled record)
    (hmove : ordered → move.InOrder d.config.profileConcurrency) :
    ∃ f' s', f.play d o move s = .ok f' s' ∧ Continues d settled record o ref ordered f s f' s' := by
  cases move with
  | start => exact ⟨_, s, rfl, continues_start hf hs⟩
  | advance place =>
    rw [play, advance]
    cases hplace : f.inFlight[place]? with
    | none => exact ⟨f, s, rfl, .refl hf hs⟩
    | some x =>
      obtain ⟨p, progress⟩ := x
      cases progress with
      | ended result => exact ⟨_, _, rfl, continues_report hf hs hplace hmove _⟩
      | entered | routed | tokenReady =>
        obtain ⟨progress', s', hadvance, hcontinues⟩ :=
          exists_continues_advance hd hb href hf hs hplace hmove
        exact ⟨_, s', Act.bind_of_ok _ hadvance, hcontinues⟩
  | disturb act =>
    have hcaught := Act.eq_ok_iff.2 ⟨Act.answer_caught act.ofServices s, rfl⟩
    obtain ⟨hs', hrecord⟩ := hharmless act rfl s.services hs
    rw [play, Act.bind_of_ok _ hcaught, Act.after_caught, Act.after_ofServices]
    exact ⟨f, _, rfl, .of_same hf hs' hrecord rfl rfl⟩

/-- Moves keep the accounts. -/
theorem exists_playAll (hd : d.Steady settled) (hb : d.Books record isTaken)
    (href : settled ref.state.services) {moves : List (Move σ)}
    (hharmless : ∀ act, .disturb act ∈ moves → act.Harmless settled record)
    (hmoves : ordered → ∀ move ∈ moves, move.InOrder d.config.profileConcurrency)
    {f : FanOut σ} (hf : f.Fits d) {s : Scene (Issuing σ)} (hs : settled s.state.services) :
    ∃ f' s', playAll d o moves f s = .ok f' s' ∧ Continues d settled record o ref ordered f s f' s' := by
  induction moves generalizing f s with
  | nil => exact ⟨f, s, rfl, .refl hf hs⟩
  | cons move rest ih =>
    have hharmlessMove : ∀ act, move = .disturb act → act.Harmless settled record :=
      fun act h => hharmless act (h ▸ List.mem_cons_self)
    have hharmlessRest : ∀ act, .disturb act ∈ rest → act.Harmless settled record :=
      fun act h => hharmless act (List.mem_cons_of_mem move h)
    have hmove : ordered → move.InOrder d.config.profileConcurrency :=
      fun hordered => hmoves hordered move List.mem_cons_self
    have hrestMoves : ordered → ∀ m ∈ rest, m.InOrder d.config.profileConcurrency :=
      fun hordered m hm => hmoves hordered m (List.mem_cons_of_mem move hm)
    obtain ⟨f₁, s₁, hplay, hfirst⟩ := exists_play (o := o) hd hb href hf hs move hharmlessMove hmove
    obtain ⟨f₂, s₂, hplayAll, hrest⟩ := ih hharmlessRest hrestMoves hfirst.fits hfirst.settled_after
    refine ⟨f₂, s₂, ?_, hfirst.trans hrest⟩
    rw [playAll, Act.bind_of_ok _ hplay, hplayAll]

end Moves

end FanOut

namespace Dispatcher

variable {σ : Type} {settled : σ → Prop} {record : σ → List Published} {d : Dispatcher σ}

/-- To dispatch is one way to fan out. -/
theorem fanOut_inTurn (h : 0 < d.config.profileConcurrency) (event : Event) (category : Category)
    {s : Scene (Issuing σ)} {t : Scene σ} {ps : List Profile}
    (hlisted : d.provider.list s.services = .ok (.ok ps) t) :
    d.fanOut event category (FanOut.inTurn d ps.length) s =
      (Except.map (fun report => ⟨[], [], report.profiles⟩) <$> d.dispatch event category) s := by
  cases hdata : EventData.ofEvent event with
  | error error =>
    rw [fanOut_eq_afterListing, dispatch_eq_afterListing, afterListing_of_extraction_error _ hdata,
      Act.map_of_ok _ (afterListing_of_extraction_error _ hdata)]
    rfl
  | ok data =>
    obtain ⟨s₁, _, hnext⟩ := exists_afterListing_eq hdata hlisted
    rw [fanOut_eq_afterListing, dispatch_eq_afterListing, hnext]
    refine Eq.trans ?_ (Act.map_eq_of_eq _ (hnext _)).symm
    rw [FanOut.playAll_inTurn d ⟨event.name, category, data⟩ h ps []]
    simp only [map_eq_pure_bind, bind_assoc, pure_bind, List.nil_append]
    rfl

/-! ## The run and the account -/

/-- What a profile comes to is its prospect when it is begun. -/
theorem ComesTo.prospect_eq (hd : d.Steady settled) (hb : d.Books record isTaken) {o : Occurrence}
    {ref : Scene (Issuing σ)} (href : settled ref.state.services) {p : Profile} {v : Served}
    (h : d.ComesTo settled record o p v) :
    d.prospect record o ref ⟨p, .entered⟩ = ⟨v.report, v.items.map Published.unstamped⟩ := by
  have href' : settled ref.services.state := href
  obtain ⟨answer, items, hattempt, _⟩ := foreseeable_attempt hd hb href' o p
  obtain ⟨hreport, hitems⟩ := (yields_serve hattempt).unique h.yields href
  rw [Dispatcher.prospect_eq (x := ⟨p, .entered⟩) href hattempt, Except.ok.inj hreport, hitems]

/-- The accounts at the beginning are what a dispatch of the profiles one after the other comes to. -/
theorem accounts_of_comesTo (hd : d.Steady settled) (hb : d.Books record isTaken) {o : Occurrence}
    {ref : Scene (Issuing σ)} (href : settled ref.state.services) {ps : List Profile}
    {served : List Served} (h : List.Forall₂ (d.ComesTo settled record o) ps served) :
    FanOut.foreseen d record o ref { waiting := ps } = served.map Served.report
      ∧ FanOut.dues d record o ref { waiting := ps } =
        (served.flatMap Served.items).map Published.unstamped := by
  induction h with
  | nil => exact ⟨rfl, rfl⟩
  | @cons p v rest served hv _ ih =>
    have hprospect := hv.prospect_eq hd hb href
    obtain ⟨hreports, hitems⟩ := ih
    constructor
    · rw [List.map_cons, ← hreports, FanOut.foreseen, FanOut.outstanding, FanOut.pending]
      exact congrArg (fun x => x.report :: _) hprospect
    · rw [List.flatMap_cons, List.map_append, ← hitems, FanOut.dues, FanOut.outstanding, FanOut.pending]
      exact congrArg (fun x => x.items ++ _) hprospect

/-- When all profiles were served, the reports and what was recorded are what the profiles come to. -/
theorem agree_of_isDone (hd : d.Steady settled) (hb : d.Books record isTaken) {o : Occurrence}
    {ref s s' : Scene (Issuing σ)} (href : settled ref.state.services) {ps : List Profile}
    {served : List Served} (hserved : List.Forall₂ (d.ComesTo settled record o) ps served) {ordered : Prop}
    {f : FanOut σ} (h : FanOut.Continues d settled record o ref ordered { waiting := ps } s f s')
    (hdone : f.isDone = true) {tokens : List Published}
    (htokens : record s'.state.services = record s.state.services ++ tokens) :
    Agree ordered f.reports (served.map Served.report)
      ∧ Agree ordered (tokens.map Published.unstamped) ((served.flatMap Served.items).map Published.unstamped) := by
  obtain ⟨hreports, hitems⟩ := accounts_of_comesTo hd hb href hserved
  obtain ⟨new, hnew, hdues⟩ := h.dues_agree
  obtain rfl := List.append_cancel_left (hnew.symm.trans htokens)
  rw [FanOut.dues_of_isDone hdone, hitems, List.append_nil] at hdues
  have hforeseen := h.foreseen_agree
  rw [FanOut.foreseen_of_isDone hdone, hreports] at hforeseen
  exact ⟨hforeseen, hdues⟩

/-- To replace profiles that are kept aside is harmless. -/
theorem harmless_replace {part : Part σ (List Profile)} (h : part.Aside settled record)
    (profiles : List Profile) : ((Provider.replace profiles).on part).Harmless settled record := by
  intro s hs
  rw [Act.after_on]
  exact ⟨h.settled_set _ _ hs, h.record_set _ _⟩

/-- A fan-out always leads somewhere, and its accounts are those of the snapshot. -/
theorem exists_fanOut (hd : d.Steady settled) (hb : d.Books record isTaken) {event : Event}
    (category : Category) {data : EventData} (hdata : EventData.ofEvent event = .ok data)
    {s ref : Scene (Issuing σ)} (href : settled ref.state.services) {ps : List Profile}
    (hlist : d.provider.Lists settled record s.services ps) {ordered : Prop} {moves : List (Move σ)}
    (hharmless : ∀ act, .disturb act ∈ moves → act.Harmless settled record)
    (hmoves : ordered → ∀ move ∈ moves, move.InOrder d.config.profileConcurrency) :
    ∃ f s₁ s', d.fanOut event category moves s = .ok (.ok f) s'
      ∧ record s₁.state.services = record s.state.services
      ∧ FanOut.Continues d settled record ⟨event.name, category, data⟩ ref ordered
        { waiting := ps } s₁ f s' := by
  obtain ⟨t, hlisted, ht, hrecord⟩ := hlist.exists_eq
  obtain ⟨s₁, hs₁, hnext⟩ := exists_afterListing_eq hdata hlisted
  have hfits : FanOut.Fits d { waiting := ps } := ⟨fun _ hx => (List.not_mem_nil hx).elim, Nat.zero_le _⟩
  obtain ⟨f, s', hplay, hcontinues⟩ :=
    FanOut.exists_playAll (o := ⟨event.name, category, data⟩) hd hb href hharmless hmoves hfits (hs₁ ▸ ht)
  refine ⟨f, s₁, s', ?_, hs₁ ▸ hrecord, hcontinues⟩
  rw [fanOut_eq_afterListing, hnext, Act.bind_of_ok _ hplay]
  rfl

/-- Several profiles may be served at a time, in whatever order their steps are taken, and the profiles in
memory may be replaced meanwhile. No profile of the snapshot is lost, served twice or exchanged, and there are
never more in flight than the configuration allows. When all are done, the reports are those of a dispatch to
the same profiles one after the other, and so are the tokens that were published, up to their stamps; only the
order may differ. It does not differ if profiles are served one at a time, or if only the first pipeline in
flight takes steps. -/
theorem fanOut_keeps_dispatch {part : Part σ (List Profile)}
    (hprovider : d.provider = Provider.memory.on part)
    (hpart : part.Aside settled record) (hd : d.Steady settled) (hb : d.Books record isTaken)
    {event : Event} (category : Category) {data : EventData} (hdata : EventData.ofEvent event = .ok data)
    {s : Scene (Issuing σ)} (hs : settled s.state.services) (moves : List (Move σ))
    (hmoves : ∀ act, .disturb act ∈ moves → ∃ profiles, act = (Provider.replace profiles).on part) :
    ∃ f s' tokens,
      d.fanOut event category moves s = .ok (.ok f) s'
      ∧ record s'.state.services = record s.state.services ++ tokens
      ∧ f.inFlight.length ≤ d.config.profileConcurrency
      ∧ (f.reports.map (fun r => (r.name, r.version))
          ++ (f.inFlight.map Pipeline.profile ++ f.waiting).map fun p => (p.name, p.version)).Perm
        ((part.get s.state.services).map fun p => (p.name, p.version))
      ∧ (f.isDone = true → ∀ t : Scene (Issuing σ), settled t.state.services →
          part.get t.state.services = part.get s.state.services →
          ∃ report t' others,
            d.dispatch event category t = .ok (.ok report) t'
            ∧ record t'.state.services = record t.state.services ++ others
            ∧ f.reports.Perm report.profiles
            ∧ (tokens.map Published.unstamped).Perm (others.map Published.unstamped)
            ∧ (d.config.profileConcurrency ≤ 1 ∨ (∀ place, .advance place ∈ moves → place = 0) →
                f.reports = report.profiles
                ∧ tokens.map Published.unstamped = others.map Published.unstamped)) := by
  have hlist (t : Scene (Issuing σ)) (ht : settled t.state.services) :
      d.provider.Lists settled record t.services (part.get t.state.services) := by
    rw [hprovider]
    exact Provider.lists_memory hpart ht
  have hharmless : ∀ act, .disturb act ∈ moves → act.Harmless settled record := by
    intro act hact
    obtain ⟨profiles, rfl⟩ := hmoves act hact
    exact harmless_replace hpart profiles
  have hordered : (d.config.profileConcurrency ≤ 1 ∨ ∀ place, .advance place ∈ moves → place = 0) →
      ∀ move ∈ moves, move.InOrder d.config.profileConcurrency := by
    intro hkept move hmove
    cases move with
    | advance place => exact hkept.imp id fun hfirst => hfirst place hmove
    | start | disturb => trivial
  obtain ⟨f, s₁, s', hrun, hrecord, hcontinues⟩ :=
    exists_fanOut hd hb category hdata hs (hlist s hs) hharmless hordered
  obtain ⟨tokens, htokens, _⟩ := hcontinues.dues_agree
  refine ⟨f, s', tokens, hrun, hrecord ▸ htokens, hcontinues.fits.room, ?_, fun hdone t ht hsame => ?_⟩
  · have hnames := hcontinues.foreseen_agree.1.map fun r => (r.name, r.version)
    simpa [FanOut.foreseen, FanOut.outstanding, FanOut.pending, prospect, Function.comp_def] using hnames
  · obtain ⟨t', served, hdispatch, hmore, hserved⟩ :=
      exists_dispatch hd hb category hdata (hsame ▸ hlist t ht)
    obtain ⟨hreports, hitems⟩ := agree_of_isDone hd hb hs hserved hcontinues hdone htokens
    exact ⟨_, t', _, hdispatch, hmore, hreports.1, hitems.1, fun hkept => ⟨hreports.2 hkept, hitems.2 hkept⟩⟩

theorem fanOut_keeps_rehearsed_dispatch :
    ∃ (f : FanOut Stage) (s' : Scene (Issuing Stage)) (report : Report) (t' : Scene (Issuing Stage)),
      (Rehearsal.dispatcher 2).fanOut Rehearsal.event .tokenRevoke Rehearsal.moves Rehearsal.scene
        = .ok (.ok f) s'
      ∧ f.isDone = true
      ∧ (Rehearsal.dispatcher 2).dispatch Rehearsal.event .tokenRevoke Rehearsal.scene = .ok (.ok report) t'
      ∧ f.reports.Perm report.profiles := by
  have hmoves : ∀ act, .disturb act ∈ Rehearsal.moves →
      ∃ profiles, act = (Provider.replace profiles).on Stage.profilesPart := by
    intro act hact
    simp [Rehearsal.moves] at hact
    exact ⟨[], hact⟩
  obtain ⟨f, s', _, hrun, _, _, _, hdone⟩ :=
    fanOut_keeps_dispatch rfl Rehearsal.aside (Rehearsal.steady 2) (Rehearsal.books 2) .tokenRevoke
      Rehearsal.ofEvent_event Rehearsal.told_scene Rehearsal.moves hmoves
  have hisDone : f.isDone = true := by
    have hall : (((Rehearsal.dispatcher 2).fanOut Rehearsal.event .tokenRevoke Rehearsal.moves).answer
        Rehearsal.scene).toOption.any (·.toOption.any FanOut.isDone) = true := by decide +kernel
    rw [(Act.eq_ok_iff.1 hrun).1] at hall
    exact hall
  obtain ⟨report, t', _, hdispatch, _, hperm, _⟩ := hdone hisDone Rehearsal.scene Rehearsal.told_scene rfl
  exact ⟨f, s', report, t', hrun, hisDone, hdispatch, hperm⟩

end Dispatcher

end SecurityEvents
