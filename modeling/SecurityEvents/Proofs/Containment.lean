import Mathlib.Data.Prod.Lex
import SecurityEvents.Proofs.Firing
import SecurityEvents.Proofs.Rehearsal
set_option autoImplicit false

/-!
# Nothing escapes from a table

Firing an event always comes to an end, whatever the services of the dispatchers do, if each dispatcher may serve a
profile: a move that is possible brings the end nearer (`Firing.rank_play`), and until then some move is possible
(`Firing.exists_possible`). Then there is one entry for each handler that takes the event. Where a dispatcher may not
serve any profile, a firing that has come to it does not end (`Firing.exists_playAll_stuck`).
-/

namespace SecurityEvents

/-- Whether the move changes what the handlers do. -/
def Move.PossibleIn {σ : Type} (f : Firing σ) (move : Move σ) : Prop :=
  match f.task with
  | some task => move.Possible task.dispatcher.config.profileConcurrency task.fanOut
  | none =>
    match move with
    | .start => f.waiting ≠ []
    | .advance _ | .disturb _ => False

namespace Firing

variable {σ : Type} {event : Event} {others : Act σ Unit → Prop} {hooks : List (Classifier × Dispatcher σ)}
  {s s' : Scene (Issuing σ)} {f f' : Firing σ}

/-! ## To the end -/

/-- How many handlers wait, and then how many moves there are at most in the dispatch that is under way. -/
def rank (f : Firing σ) : ℕ ×ₗ ℕ :=
  toLex (f.waiting.length, f.task.elim 0 fun task => task.fanOut.stepsLeft task.dispatcher + 1)

theorem rank_lt_of_waiting_lt (h : f'.waiting.length < f.waiting.length) : f'.rank < f.rank := by
  unfold rank
  exact Prod.Lex.toLex_lt_toLex.2 (.inl h)

theorem waiting_reach (f : Firing σ) (c : Classifier) (d : Dispatcher σ) (handling : Handling σ) :
    (f.reach c d handling).waiting = f.waiting := by
  cases handling <;> rfl

/-- A dispatch that has fewer moves left, or has served all profiles, is nearer to the end. -/
theorem rank_reach_lt {c : Classifier} {d : Dispatcher σ} {o : Occurrence} {fanOut fanOut' : FanOut σ}
    (htask : f.task = some ⟨c, d, o, fanOut⟩) (h : fanOut'.stepsLeft d < fanOut.stepsLeft d) :
    (f.reach c d (Handling.underWay o fanOut').settled).rank < f.rank := by
  unfold rank
  rw [waiting_reach, htask, Prod.Lex.toLex_lt_toLex]
  refine .inr ⟨rfl, ?_⟩
  cases hdone : fanOut'.isDone with
  | true =>
    rw [Handling.settled, hdone]
    exact Nat.zero_lt_succ _
  | false =>
    rw [Handling.settled, hdone]
    exact Nat.succ_lt_succ h

/-- A move that does nothing in a dispatch under way leaves the handlers as they are. -/
theorem reach_eq_self {c : Classifier} {d : Dispatcher σ} {o : Occurrence} {fanOut : FanOut σ}
    (htask : f.task = some ⟨c, d, o, fanOut⟩) (hbusy : fanOut.isDone = false) :
    f.reach c d (Handling.underWay o fanOut).settled = f := by
  obtain ⟨waiting, task, results⟩ := f
  cases htask
  rw [Handling.settled, hbusy]
  rfl

/-- Where a dispatch is under way, it makes the move. -/
theorem play_of_task {c : Classifier} {d : Dispatcher σ} {o : Occurrence} {fanOut : FanOut σ}
    (htask : f.task = some ⟨c, d, o, fanOut⟩) (event : Event) (move : Move σ) :
    f.play event move = (do return f.reach c d (Handling.underWay o (← fanOut.play d o move)).settled) := by
  unfold play
  rw [htask]

/-- A move that is possible brings the end nearer, and any other leaves it where it is. -/
theorem rank_play (hbusy : ∀ task, f.task = some task → task.fanOut.isDone = false) {move : Move σ}
    (hplay : f.play event move s = .ok f' s') :
    (move.PossibleIn f → f'.rank < f.rank) ∧ (¬ move.PossibleIn f → f' = f) := by
  unfold Move.PossibleIn
  cases htask : f.task with
  | some task =>
    obtain ⟨c, d, o, fanOut⟩ := task
    obtain ⟨fanOut', s₁, hmoved, hnearer, hsame⟩ := FanOut.exists_play_nearer d o fanOut move s
    rw [play_of_task htask, Act.bind_of_ok _ hmoved] at hplay
    cases hplay
    refine ⟨fun hpossible => rank_reach_lt htask (hnearer hpossible), fun hnot => ?_⟩
    rw [hsame hnot]
    exact reach_eq_self htask (hbusy _ htask)
  | none =>
    unfold play at hplay
    rw [htask] at hplay
    cases move with
    | advance place =>
      cases hplay
      exact ⟨False.elim, fun _ => rfl⟩
    | disturb act =>
      obtain ⟨answer, s₁, _, hend⟩ := Act.bind_eq_ok_iff.1 hplay
      cases hend
      exact ⟨False.elim, fun _ => rfl⟩
    | start =>
      cases hwaiting : f.waiting with
      | nil =>
        rw [hwaiting] at hplay
        cases hplay
        exact ⟨fun hne => (hne rfl).elim, fun _ => rfl⟩
      | cons h rest =>
        rw [hwaiting] at hplay
        obtain ⟨handling, s₁, _, hend⟩ := Act.bind_eq_ok_iff.1 hplay
        cases hend
        refine ⟨fun _ => rank_lt_of_waiting_lt ?_, fun hnot => (hnot (List.cons_ne_nil _ _)).elim⟩
        rw [waiting_reach, hwaiting]
        exact Nat.lt_succ_self _

/-- Until all handlers have answered, some move is possible, if each dispatcher may serve a profile. -/
theorem exists_possible (hlimit : ∀ h ∈ hooks, 0 < h.2.config.profileConcurrency)
    (h : Reached event others hooks s f s') (hdone : f.isDone = false) : ∃ move : Move σ, move.PossibleIn f := by
  cases h with
  | @between handled waiting results s₁ _ hhooks hhandled hmeanwhile =>
    refine ⟨.start, ?_⟩
    rintro rfl
    cases hdone
  | @within handled waiting results c d category data moves fanOut s₁ s₂ _ hhooks hhandled hmeanwhile hcategory hdata
      hmoves hfanOut hbusy =>
    have hmem : (c, d) ∈ hooks := by
      rw [hhooks]
      exact List.mem_append_cons_self
    exact FanOut.exists_possible (hlimit _ hmem) hbusy

/-- From wherever a firing has come to, moves finish it. -/
theorem exists_finish (haccept : ∀ h ∈ hooks, h.1.accepts event = true)
    (hlimit : ∀ h ∈ hooks, 0 < h.2.config.profileConcurrency) (h : Reached event others hooks s f s') :
    ∃ moves f' s'', playAll event moves f s' = .ok f' s'' ∧ f'.isDone = true := by
  -- On the rank: some move is possible until the firing is done, and it lowers the rank.
  induction hrank : f.rank using WellFoundedLT.induction generalizing f s' with
  | ind rank ih =>
    cases hdone : f.isDone with
    | true => exact ⟨[], f, s', rfl, hdone⟩
    | false =>
      obtain ⟨move, hpossible⟩ := exists_possible hlimit h hdone
      have hact : ∀ act, move = .disturb act → others act := by
        rintro act rfl
        unfold Move.PossibleIn at hpossible
        split at hpossible <;> exact hpossible.elim
      obtain ⟨f₁, s₁, hplay, hreached⟩ := exists_play_reached haccept h hact
      have hlower := (rank_play (fun task htask => h.isDone_eq_false htask) hplay).1 hpossible
      obtain ⟨moves, f₂, s₂, hrest, hend⟩ := ih _ (hrank ▸ hlower) hreached rfl
      exact ⟨move :: moves, f₂, s₂, (Act.bind_of_ok _ hplay).trans hrest, hend⟩

/-! ## Schedules -/

theorem playAll_append (event : Event) (moves more : List (Move σ)) (f : Firing σ) :
    playAll event (moves ++ more) f = playAll event moves f >>= playAll event more := by
  induction moves generalizing f with
  | nil => rfl
  | cons move rest ih => simp only [List.cons_append, playAll, bind_assoc, ih]

theorem run_append (event : Event) (hooks : List (Classifier × Dispatcher σ)) (moves more : List (Move σ)) :
    run event hooks (moves ++ more) = run event hooks moves >>= playAll event more := by
  simp only [run, playAll_append, bind_assoc]

/-- A schedule that says what happens next, without end, and in which again and again comes a move that is possible,
until all handlers have answered. -/
def Fair (event : Event) (hooks : List (Classifier × Dispatcher σ)) (s : Scene (Issuing σ)) (schedule : ℕ → Move σ) :
    Prop :=
  ∀ n, ∃ m ≥ n, ∀ f s', run event hooks ((List.range m).map schedule) s = .ok f s' →
    f.isDone = true ∨ (schedule m).PossibleIn f

/-- One more move of a schedule. -/
theorem exists_run_succ (event : Event) (hooks : List (Classifier × Dispatcher σ)) (s : Scene (Issuing σ))
    (schedule : ℕ → Move σ) {n : ℕ} {f : Firing σ} {s' : Scene (Issuing σ)}
    (hrun : run event hooks ((List.range n).map schedule) s = .ok f s') :
    ∃ f' s'', run event hooks ((List.range (n + 1)).map schedule) s = .ok f' s''
      ∧ ((schedule n).PossibleIn f → f'.rank < f.rank) ∧ f'.rank ≤ f.rank := by
  obtain ⟨s₁, _, hreached⟩ := exists_run_reached event hooks s
  obtain ⟨g, t, hg, hbefore⟩ := hreached ((List.range n).map schedule)
  cases hrun.symm.trans hg
  obtain ⟨f', s'', hsucc, _⟩ := hreached ((List.range (n + 1)).map schedule)
  have hplay := hsucc
  rw [List.range_succ, List.map_append, run_append, Act.bind_of_ok _ hrun] at hplay
  obtain ⟨f₁, s₂, hmove, hend⟩ := Act.bind_eq_ok_iff.1 hplay
  cases hend
  obtain ⟨hlower, hsame⟩ := rank_play (fun task htask => hbefore.isDone_eq_false htask) hmove
  refine ⟨f', s'', hsucc, hlower, ?_⟩
  by_cases hpossible : (schedule n).PossibleIn f
  · exact (hlower hpossible).le
  · rw [hsame hpossible]

/-- A fair schedule comes to the end. -/
theorem Fair.exists_isDone {schedule : ℕ → Move σ} (h : Fair event hooks s schedule) :
    ∃ n f s', run event hooks ((List.range n).map schedule) s = .ok f s' ∧ f.isDone = true := by
  have hlater {n : ℕ} {f : Firing σ} {s' : Scene (Issuing σ)}
      (hrun : run event hooks ((List.range n).map schedule) s = .ok f s') {m : ℕ} (hm : m ≥ n) :
      ∃ f' s'', run event hooks ((List.range m).map schedule) s = .ok f' s'' ∧ f'.rank ≤ f.rank := by
    induction m, hm using Nat.le_induction with
    | base => exact ⟨f, s', hrun, le_rfl⟩
    | succ m _ ih =>
      obtain ⟨f₁, s₁, hrun₁, hle₁⟩ := ih
      obtain ⟨f₂, s₂, hrun₂, _, hle₂⟩ := exists_run_succ event hooks s schedule hrun₁
      exact ⟨f₂, s₂, hrun₂, hle₂.trans hle₁⟩
  -- On the rank: it never rises, and it falls when the possible move comes that a fair schedule has in store.
  have hend (rank : ℕ ×ₗ ℕ) : ∀ n f s', run event hooks ((List.range n).map schedule) s = .ok f s' → f.rank = rank →
      ∃ n f s', run event hooks ((List.range n).map schedule) s = .ok f s' ∧ f.isDone = true := by
    induction rank using WellFoundedLT.induction with
    | ind rank ih =>
      rintro n f s' hrun rfl
      obtain ⟨m, hm, hfair⟩ := h n
      obtain ⟨f₁, s₁, hrun₁, hle⟩ := hlater hrun hm
      rcases hfair f₁ s₁ hrun₁ with hdone | hpossible
      · exact ⟨m, f₁, s₁, hrun₁, hdone⟩
      · obtain ⟨f₂, s₂, hrun₂, hlower, _⟩ := exists_run_succ event hooks s schedule hrun₁
        exact ih f₂.rank ((hlower hpossible).trans_le hle) (m + 1) f₂ s₂ hrun₂ rfl
  obtain ⟨s₁, _, hreached⟩ := exists_run_reached event hooks s
  obtain ⟨f, s', hrun, _⟩ := hreached ((List.range 0).map schedule)
  exact hend f.rank 0 f s' hrun rfl

end Firing

/-! ## One profile after the other -/

namespace FanOut

variable {σ : Type} {d : Dispatcher σ} {o : Occurrence} {f : FanOut σ}

/-- To serve profiles one after the other does not need anybody else. -/
theorem disturb_not_mem_inTurn (d : Dispatcher σ) (n : Nat) (act : Act σ Unit) : .disturb act ∉ inTurn d n := by
  induction n with
  | zero => exact List.not_mem_nil
  | succ n ih =>
    intro hact
    rcases List.mem_append.1 hact with hact | hact
    · simp [solo] at hact
    · exact ih hact

/-- When all profiles were served, nothing changes unless somebody else acts. -/
theorem playAll_of_isDone {moves : List (Move σ)} (hquiet : ∀ act, .disturb act ∉ moves) (hdone : f.isDone = true) :
    playAll d o moves f = pure f := by
  rw [isDone, Bool.and_eq_true, List.isEmpty_iff, List.isEmpty_iff] at hdone
  induction moves with
  | nil => rfl
  | cons move rest ih =>
    have hplay : f.play d o move = pure f := by
      cases move with
      | disturb act => exact (hquiet act List.mem_cons_self).elim
      | start => rw [play, start, hdone.1]
      | advance place => rw [play, advance, hdone.2, List.getElem?_nil]
    rw [playAll, hplay, pure_bind]
    exact ih fun act hact => hquiet act (List.mem_cons_of_mem move hact)

end FanOut

namespace Firing

variable {σ : Type} {event : Event}

/-- Moves that serve all profiles lead to the answer of the handler; those that come later are left out. -/
theorem exists_playAll_settled (event : Event) (waiting : List (Classifier × Dispatcher σ))
    (results : List (String × Option Report)) (task : Option (Task σ)) (c : Classifier) {d : Dispatcher σ}
    {o : Occurrence} {moves : List (Move σ)} {f₀ fanOut : FanOut σ} {s s' : Scene (Issuing σ)}
    (hquiet : ∀ act, .disturb act ∉ moves) (hplay : FanOut.playAll d o moves f₀ s = .ok fanOut s')
    (hdone : fanOut.isDone = true) :
    ∃ more, (∀ act, .disturb act ∉ more)
      ∧ playAll event more (Firing.reach ⟨waiting, task, results⟩ c d (Handling.underWay o f₀).settled) s
        = .ok ⟨waiting, none, results ++ [(c.name, some ⟨o.eventName, o.category, fanOut.reports⟩)]⟩ s' := by
  induction moves generalizing f₀ s task with
  | nil =>
    cases hplay
    rw [Handling.settled, hdone]
    exact ⟨[], fun _ => List.not_mem_nil, rfl⟩
  | cons move rest ih =>
    cases hbusy : f₀.isDone with
    | true =>
      rw [FanOut.playAll_of_isDone hquiet hbusy] at hplay
      cases hplay
      rw [Handling.settled, hbusy]
      exact ⟨[], fun _ => List.not_mem_nil, rfl⟩
    | false =>
      obtain ⟨f₁, s₁, hmove, hrest⟩ := Act.bind_eq_ok_iff.1 hplay
      obtain ⟨more, hmore, hend⟩ :=
        ih (some ⟨c, d, o, f₀⟩) (fun act hact => hquiet act (List.mem_cons_of_mem move hact)) hrest
      refine ⟨move :: more, fun act hact => ?_, ?_⟩
      · rcases List.mem_cons.1 hact with rfl | hact
        · exact hquiet act List.mem_cons_self
        · exact hmore act hact
      · have hplayed : play event ⟨waiting, some ⟨c, d, o, f₀⟩, results⟩ move s
            = .ok (Firing.reach ⟨waiting, some ⟨c, d, o, f₀⟩, results⟩ c d (Handling.underWay o f₁).settled) s₁ :=
          Act.bind_of_ok _ hmove
        rw [Handling.settled, hbusy]
        exact (Act.bind_of_ok _ hplayed).trans hend

/-- A handler that serves one profile after the other handles an event as some moves do. -/
theorem exists_playAll_handle {c : Classifier} (haccepts : c.accepts event = true) {d : Dispatcher σ}
    (hlimit : 0 < d.config.profileConcurrency) (waiting : List (Classifier × Dispatcher σ))
    (results : List (String × Option Report)) (s : Scene (Issuing σ)) :
    ∃ entry s' moves, (Handler.dispatching c d).handle event s = .ok entry s' ∧ (∀ act, .disturb act ∉ moves)
      ∧ playAll event moves ⟨(c, d) :: waiting, none, results⟩ s
        = .ok ⟨waiting, none, results ++ [(c.name, entry)]⟩ s' := by
  obtain ⟨category, hcategory⟩ := Area.accepts_iff.1 haccepts
  have hstart (more : List (Move σ)) {handling : Handling σ} {s₁ : Scene (Issuing σ)}
      (henter : Handler.enter c d event s = .ok handling s₁) :
      playAll event (.start :: more) ⟨(c, d) :: waiting, none, results⟩ s
        = playAll event more (Firing.reach ⟨waiting, none, results⟩ c d handling) s₁ :=
    Act.bind_of_ok _ (Act.bind_of_ok _ henter)
  rcases Handler.exists_enter_eq hcategory d s with ⟨data, ps, s₁, _, henter, hnext⟩ | ⟨_, s₁, henter, hhandle, _⟩
  · obtain ⟨reports, s₂, hserve, _⟩ := d.exists_serveAll_eq ⟨event.name, category, data⟩ ps s₁
    have hdispatch : d.dispatch event category s = .ok (.ok ⟨event.name, category, reports⟩) s₂ :=
      (hnext _).trans (Act.bind_of_ok _ hserve)
    have hturn : FanOut.playAll d ⟨event.name, category, data⟩ (FanOut.inTurn d ps.length) { waiting := ps } s₁
        = .ok ⟨[], [], reports⟩ s₂ := by
      rw [FanOut.playAll_inTurn d _ hlimit ps []]
      exact Act.bind_of_ok _ hserve
    obtain ⟨more, hmore, hend⟩ :=
      exists_playAll_settled event waiting results none c (FanOut.disturb_not_mem_inTurn d _) hturn rfl
    refine ⟨some ⟨event.name, category, reports⟩, s₂, .start :: more, ?_, fun act hact => ?_,
      (hstart more henter).trans hend⟩
    · simp only [Handler.dispatching, Handler.classified, hcategory, pure_bind]
      exact Act.bind_of_ok _ (Act.caught_of_ok hdispatch)
    · rcases List.mem_cons.1 hact with hact | hact
      · cases hact
      · exact hmore act hact
  · refine ⟨none, s₁, [.start], hhandle, fun act hact => ?_, hstart [] henter⟩
    cases List.mem_singleton.1 hact

/-- Handlers that serve one profile after the other handle an event as some moves do. -/
theorem exists_playAll_handleAll {waiting : List (Classifier × Dispatcher σ)}
    (haccept : ∀ h ∈ waiting, h.1.accepts event = true)
    (hlimit : ∀ h ∈ waiting, 0 < h.2.config.profileConcurrency) (results : List (String × Option Report))
    (s : Scene (Issuing σ)) :
    ∃ entries s' moves,
      HandlerTable.handleAll event (waiting.map fun h => Handler.dispatching h.1 h.2) s = .ok entries s'
      ∧ (∀ act, .disturb act ∉ moves)
      ∧ playAll event moves ⟨waiting, none, results⟩ s = .ok ⟨[], none, results ++ entries⟩ s' := by
  induction waiting generalizing results s with
  | nil => exact ⟨[], s, [], rfl, fun _ => List.not_mem_nil, by rw [List.append_nil]; rfl⟩
  | cons h rest ih =>
    obtain ⟨entry, s₁, moves, hhandle, hquiet, hplay⟩ :=
      exists_playAll_handle (haccept h List.mem_cons_self) (hlimit h List.mem_cons_self) rest results s
    obtain ⟨entries, s₂, more, hrest, hmore, hend⟩ := ih (fun x hx => haccept x (List.mem_cons_of_mem h hx))
      (fun x hx => hlimit x (List.mem_cons_of_mem h hx)) (results ++ [(h.1.name, entry)]) s₁
    refine ⟨(h.1.name, entry) :: entries, s₂, moves ++ more, ?_, fun act hact => ?_, ?_⟩
    · rw [List.map_cons, HandlerTable.handleAll, Act.bind_of_ok _ hhandle, Act.bind_of_ok _ hrest]
      rfl
    · exact (List.mem_append.1 hact).elim (hquiet act) (hmore act)
    · rw [playAll_append, Act.bind_of_ok _ hplay, hend, List.append_assoc]
      rfl

/-- To serve one profile after the other is one way to fire. -/
theorem exists_run_fire (event : Event) {hooks : List (Classifier × Dispatcher σ)}
    (hlimit : ∀ h ∈ hooks, 0 < h.2.config.profileConcurrency) (s : Scene (Issuing σ)) :
    ∃ moves f s', (∀ act, .disturb act ∉ moves) ∧ run event hooks moves s = .ok f s' ∧ f.isDone = true
      ∧ (HandlerTable.mk (hooks.map fun h => Handler.dispatching h.1 h.2)).fire event s = .ok f.results s' := by
  obtain ⟨entries, s', moves, hhandle, hquiet, hplay⟩ :=
    exists_playAll_handleAll (fun h hh => (List.mem_filter.1 hh).2) (fun h hh => hlimit h (List.mem_filter.1 hh).1) []
      { s with notices := s.notices ++ Classifier.declined event (hooks.map (·.1)) }
  refine ⟨moves, ⟨[], none, entries⟩, s', hquiet, ?_, rfl, ?_⟩
  · exact (Act.bind_of_ok _ (takers_eq event hooks s)).trans hplay
  · rw [HandlerTable.fire_dispatching]
    exact hhandle

/-! ## No end -/

/-- Where a dispatcher may not serve any profile, a dispatch that has begun stays as it is. -/
theorem exists_playAll_stuck {f : Firing σ} {c : Classifier} {d : Dispatcher σ} {o : Occurrence} {fanOut : FanOut σ}
    (htask : f.task = some ⟨c, d, o, fanOut⟩) (hlimit : d.config.profileConcurrency = 0)
    (hflight : fanOut.inFlight = []) (hbusy : fanOut.isDone = false) (event : Event) (moves : List (Move σ))
    (s : Scene (Issuing σ)) : ∃ s', playAll event moves f s = .ok f s' := by
  induction moves generalizing s with
  | nil => exact ⟨s, rfl⟩
  | cons move rest ih =>
    obtain ⟨s₁, hmoves⟩ := FanOut.exists_playAll_stuck hlimit o [move] hflight s
    obtain ⟨_, _, hmove, hend⟩ := Act.bind_eq_ok_iff.1 hmoves
    cases hend
    obtain ⟨s₂, hrest⟩ := ih s₁
    refine ⟨s₂, ?_⟩
    rw [playAll, play_of_task htask, bind_assoc, Act.bind_of_ok _ hmove, pure_bind, reach_eq_self htask hbusy, hrest]

/-! ## Whatever happens -/

/-- How those of the handlers that take an event have answered when a firing is done. -/
structure Answers (event : Event) (others : Act σ Unit → Prop) (hooks : List (Classifier × Dispatcher σ))
    (s : Scene (Issuing σ)) (results : List (String × Option Report)) (s' : Scene (Issuing σ)) : Prop where
  handled : ∃ s₁, Handled event others s (hooks.filter fun h => h.1.accepts event) results s₁ ∧ Meanwhile others s₁ s'
  names : results.map (·.1) = (hooks.filter fun h => h.1.accepts event).map (·.1.name)
  nodup_names : (hooks.map (·.1.name)).Nodup → (results.map (·.1)).Nodup

theorem Reached.answers {event : Event} {others : Act σ Unit → Prop} {hooks : List (Classifier × Dispatcher σ)}
    {s s' : Scene (Issuing σ)} {f : Firing σ}
    (h : Reached event others (hooks.filter fun h => h.1.accepts event) s f s') (hdone : f.isDone = true) :
    Answers event others hooks s f.results s' := by
  obtain ⟨s₁, hhandled, hmeanwhile⟩ := h.exists_handled hdone
  refine ⟨⟨s₁, hhandled, hmeanwhile⟩, hhandled.map_fst_eq, fun hnames => ?_⟩
  rw [hhandled.map_fst_eq]
  exact hnames.sublist (List.filter_sublist.map _)

/-- Firing an event never panics, and if each dispatcher may serve a profile it comes to an end: moves finish it from
wherever it has come to, and a schedule does in which possible moves keep coming. Then those handlers whose classifiers
accept the event have one entry each, in the order of the table, and the entry is the report of its dispatch or nothing
if the event was dropped there. To serve one profile after the other is one way to fire. Asked in any scene, a handler
takes the event exactly if its classifier accepts it; one that does not answers nothing and calls no service, even if it
is made to handle the event. -/
theorem run_answers (event : Event) {hooks : List (Classifier × Dispatcher σ)}
    (hlimit : ∀ h ∈ hooks, 0 < h.2.config.profileConcurrency) (s : Scene (Issuing σ)) :
    (∃ s₁ : Scene (Issuing σ), s₁.state = s.state ∧ ∀ moves, ∃ f s', run event hooks moves s = .ok f s'
      ∧ (f.isDone = true → Answers event (fun act => .disturb act ∈ moves) hooks s₁ f.results s')
      ∧ ∃ more f' s'', run event hooks (moves ++ more) s = .ok f' s'' ∧ f'.isDone = true)
    ∧ (∀ schedule, Fair event hooks s schedule →
        ∃ n f s', run event hooks ((List.range n).map schedule) s = .ok f s' ∧ f.isDone = true)
    ∧ (∃ moves f s', (∀ act, .disturb act ∉ moves) ∧ run event hooks moves s = .ok f s' ∧ f.isDone = true
        ∧ (HandlerTable.mk (hooks.map fun h => Handler.dispatching h.1 h.2)).fire event s = .ok f.results s')
    ∧ ∀ c : Classifier,
        (∃ noted, ∀ (d : Dispatcher σ) (s : Scene (Issuing σ)),
          (Handler.dispatching c d).takes event s = .ok (c.accepts event) ⟨s.state, s.notices ++ noted⟩)
        ∧ (c.accepts event = false → ∃ notice, ∀ (d : Dispatcher σ) (s : Scene (Issuing σ)),
          (Handler.dispatching c d).handle event s = .ok none ⟨s.state, s.notices ++ [notice]⟩
          ∧ Handler.enter c d event s = .ok (.answered none) ⟨s.state, s.notices ++ [notice]⟩) := by
  refine ⟨?_, fun schedule hfair => hfair.exists_isDone, exists_run_fire event hlimit s,
    fun c => ⟨⟨_, fun d s => Handler.takes_dispatching c d event s⟩, fun hc => Handler.exists_decline_eq hc⟩⟩
  obtain ⟨s₁, hs₁, hreached⟩ := exists_run_reached event hooks s
  refine ⟨s₁, hs₁, fun moves => ?_⟩
  obtain ⟨f, s', hrun, hmoved⟩ := hreached moves
  obtain ⟨more, f', s'', hfinish, hdone⟩ := exists_finish (fun h hh => (List.mem_filter.1 hh).2)
    (fun h hh => hlimit h (List.mem_filter.1 hh).1) hmoved
  refine ⟨f, s', hrun, fun hdone => hmoved.answers hdone, more, f', s'', ?_, hdone⟩
  rw [run_append, Act.bind_of_ok _ hrun, hfinish]

/-- A classifier that takes every event for the end of a session. -/
def auditing : Classifier :=
  ⟨"AuditEventHook", fun _ => .ok (some .tokenRevoke)⟩

/-- Two handlers that take the end of a session. The provider of the first panics. -/
def rehearsedHooks : List (Classifier × Dispatcher Stage) :=
  [(auditing, { Rehearsal.dispatcher 1 with provider := .panicking (.text "no profiles") }),
    (.tokens, Rehearsal.dispatcher 2)]

theorem run_rehearsed_answers :
    ∃ f s' s₁, run Rehearsal.event rehearsedHooks (.start :: .start :: Rehearsal.moves) Rehearsal.scene = .ok f s'
      ∧ Answers Rehearsal.event (fun act => .disturb act ∈ .start :: .start :: Rehearsal.moves) rehearsedHooks s₁
        f.results s'
      ∧ f.results.map (fun r => (r.1, r.2.isSome)) = [("AuditEventHook", false), ("TokensEventHook", true)] := by
  have hlimit : ∀ h ∈ rehearsedHooks, 0 < h.2.config.profileConcurrency := by
    intro h hh
    simp only [rehearsedHooks, List.mem_cons, List.not_mem_nil, or_false] at hh
    rcases hh with rfl | rfl <;> decide
  obtain ⟨⟨s₁, _, hrun⟩, _⟩ := run_answers Rehearsal.event hlimit Rehearsal.scene
  obtain ⟨f, s', hf, hanswers, _⟩ := hrun (.start :: .start :: Rehearsal.moves)
  have hresults : ((run Rehearsal.event rehearsedHooks (.start :: .start :: Rehearsal.moves)).answer
      Rehearsal.scene).toOption.any (fun f => f.isDone && f.results.map (fun r => (r.1, r.2.isSome))
        == [("AuditEventHook", false), ("TokensEventHook", true)]) = true := by
    decide +kernel
  rw [(Act.eq_ok_iff.1 hf).1] at hresults
  obtain ⟨hdone, hnames⟩ := Bool.and_eq_true_iff.1 hresults
  exact ⟨f, s', s₁, hf, hanswers hdone, eq_of_beq hnames⟩

/-- The end of a session is being handled, and no profile may be served. -/
def unserved : Firing Stage where
  waiting := []
  task := some ⟨.tokens, Rehearsal.dispatcher 0, ⟨Rehearsal.event.name, .tokenRevoke, Rehearsal.data⟩,
    { waiting := Rehearsal.profiles }⟩

/-- With a dispatcher that may not serve any profile, the standard handlers never come to an end with an event once one
of them has begun, whatever happens then. -/
theorem never_done_without_room :
    ¬ ∃ moves f s', run Rehearsal.event (Classifier.all.map fun c => (c, Rehearsal.dispatcher 0)) (.start :: moves)
        Rehearsal.scene = .ok f s' ∧ f.isDone = true := by
  rintro ⟨moves, f, s', hrun, hdone⟩
  obtain ⟨s₁, hbegin⟩ : ∃ s₁, run Rehearsal.event (Classifier.all.map fun c => (c, Rehearsal.dispatcher 0)) [.start]
      Rehearsal.scene = .ok unserved s₁ := ⟨_, rfl⟩
  obtain ⟨s₂, hrest⟩ := exists_playAll_stuck (f := unserved) rfl rfl rfl rfl Rehearsal.event moves s₁
  rw [← List.singleton_append, run_append, Act.bind_of_ok _ hbegin, hrest] at hrun
  cases hrun
  cases hdone

end Firing

end SecurityEvents
