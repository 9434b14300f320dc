import SecurityEvents.Proofs.Dispatch.Failure
import SecurityEvents.Proofs.Dispatch.Interleaving
set_option autoImplicit false

/-!
# Fan-outs come to an end

A step of a pipeline leaves fewer steps to be taken, whatever the services answer (`ensures_proceed_nearer`), and so
does every move that is possible in a fan-out (`FanOut.exists_play_nearer`). As long as at least one profile may be
served at a time, some move is possible until all profiles were served, so a fan-out can be finished from wherever it
has come to (`FanOut.exists_finish`). If none may be served, nothing is ever begun (`FanOut.exists_playAll_stuck`).
-/

namespace SecurityEvents

/-- How many steps there are at most until the pipeline has reported, if it is to ask so many gates once it has a
route. -/
def Progress.stepsLeft {σ : Type} (gates : Nat) : Progress σ → Nat
  | .entered => gates + 4
  | .routed _ rest => rest.length + 3
  | .tokenReady _ _ => 2
  | .ended _ => 1

namespace Dispatcher

variable {σ : Type} {d : Dispatcher σ}

/-- The next step of a pipeline that has not ended leaves fewer steps. -/
theorem ensures_proceed_nearer (d : Dispatcher σ) (o : Occurrence) (p : Profile) {progress : Progress σ}
    (h : ∀ result, progress ≠ .ended result) :
    (d.proceed o p progress).Ensures fun progress' =>
      progress'.stepsLeft d.gates.length < progress.stepsLeft d.gates.length := by
  cases progress with
  | entered =>
    apply (Act.ensures_true (Act.ofExcept (d.catalog.route o.eventName o.category p))).bind
    intro routed _
    cases routed with
    | error reason => exact Act.ensures_pure (by simp only [Progress.stepsLeft]; omega)
    | ok route => exact Act.ensures_pure (Nat.lt_succ_self _)
  | routed route gates =>
    cases gates with
    | nil =>
      apply (Act.ensures_true (d.issue o p route)).bind
      intro issued _
      cases issued with
      | error stop => exact Act.ensures_pure (by simp [Progress.stepsLeft])
      | ok token => exact Act.ensures_pure (Nat.lt_succ_self _)
    | cons gate rest =>
      apply (Act.ensures_true (gate.check (gateInput o p route)).ofServices).bind
      intro decision _
      cases decision with
      | deny reason => exact Act.ensures_pure (by simp only [Progress.stepsLeft]; omega)
      | allow => exact Act.ensures_pure (Nat.lt_succ_self _)
  | tokenReady route token =>
    exact (Act.ensures_true (d.publish o p route token)).bind fun _ _ => Act.ensures_pure (Nat.lt_succ_self _)
  | ended result => exact (h result rfl).elim

/-- A panic ends the pipeline, which leaves it only to report. -/
theorem exists_advance_nearer (d : Dispatcher σ) (o : Occurrence) (p : Profile) {progress : Progress σ}
    (h : ∀ result, progress ≠ .ended result) (s : Scene (Issuing σ)) :
    ∃ progress' s', d.advance o p progress s = .ok progress' s'
      ∧ progress'.stepsLeft d.gates.length < progress.stepsLeft d.gates.length := by
  cases hproceed : d.proceed o p progress s with
  | ok progress' t =>
    exact ⟨progress', t, Act.bind_of_ok _ (Act.caught_of_ok hproceed),
      (ensures_proceed_nearer d o p h).good_answer s progress' t hproceed⟩
  | error panic t =>
    refine ⟨.ended (.error panic), t, Act.bind_of_ok _ (Act.caught_of_error hproceed), ?_⟩
    cases progress with
    | ended result => exact (h result rfl).elim
    | entered | routed | tokenReady =>
      simp only [Progress.stepsLeft]
      omega

end Dispatcher

/-- Whether the move changes the fan-out, where so many profiles may be served at a time. -/
def Move.Possible {σ : Type} (limit : Nat) (f : FanOut σ) : Move σ → Prop
  | .start => f.waiting ≠ [] ∧ f.inFlight.length < limit
  | .advance place => place < f.inFlight.length
  | .disturb _ => False

namespace FanOut

variable {σ : Type} {d : Dispatcher σ} {o : Occurrence} {f : FanOut σ}

/-- How many steps there are at most until these pipelines have reported. -/
def stepsOf (gates : Nat) : List (Pipeline σ) → Nat
  | [] => 0
  | x :: rest => x.progress.stepsLeft gates + stepsOf gates rest

theorem stepsOf_append (gates : Nat) (xs ys : List (Pipeline σ)) :
    stepsOf gates (xs ++ ys) = stepsOf gates xs + stepsOf gates ys := by
  induction xs with
  | nil => rw [List.nil_append, stepsOf, Nat.zero_add]
  | cons x xs ih => rw [List.cons_append, stepsOf, stepsOf, ih, Nat.add_assoc]

/-- How many moves there are at most until all profiles were served. -/
def stepsLeft (d : Dispatcher σ) (f : FanOut σ) : Nat :=
  f.waiting.length * (d.gates.length + 5) + stepsOf d.gates.length f.inFlight

theorem stepsLeft_of_inFlight {before after : List (Pipeline σ)} (h : f.inFlight = before ++ after) :
    f.stepsLeft d = f.waiting.length * (d.gates.length + 5)
      + (stepsOf d.gates.length before + stepsOf d.gates.length after) := by
  rw [stepsLeft, h, stepsOf_append]

/-- A pipeline that has entered leaves one step less than a profile that waits. -/
theorem stepsLeft_start_lt {limit : Nat} (h : (Move.start : Move σ).Possible limit f) :
    (f.start limit).stepsLeft d < f.stepsLeft d := by
  obtain ⟨hwaiting, hroom⟩ := h
  obtain ⟨p, rest, hlist⟩ := List.exists_cons_of_ne_nil hwaiting
  have hstart : f.start limit = { f with waiting := rest, inFlight := f.inFlight ++ [⟨p, .entered⟩] } := by
    simp only [start, hlist, if_pos hroom]
  rw [hstart, stepsLeft, stepsLeft, hlist]
  simp only [List.length_cons, stepsOf_append, stepsOf, Progress.stepsLeft, Nat.add_mul]
  omega

theorem start_eq_of_not_possible {limit : Nat} (h : ¬ (Move.start : Move σ).Possible limit f) :
    f.start limit = f := by
  unfold start
  split
  · rfl
  · rename_i p rest hwaiting
    exact if_neg fun hroom => h ⟨hwaiting ▸ List.cons_ne_nil p rest, hroom⟩

/-- A pipeline in flight takes a step or reports. -/
theorem exists_advance_nearer (d : Dispatcher σ) (o : Occurrence) {place : Nat}
    (h : place < f.inFlight.length) (s : Scene (Issuing σ)) :
    ∃ f' s', f.advance d o place s = .ok f' s' ∧ f'.stepsLeft d < f.stepsLeft d := by
  obtain ⟨⟨p, progress⟩, hplace⟩ : ∃ x, f.inFlight[place]? = some x := ⟨_, List.getElem?_eq_getElem h⟩
  obtain ⟨before, after, rfl, hsplit, herase, hset⟩ := exists_split_of_getElem? hplace
  have hadvance (hnot : ∀ result, progress ≠ .ended result) :=
    Dispatcher.exists_advance_nearer d o p hnot s
  rw [advance, hplace, stepsLeft_of_inFlight hsplit, stepsOf]
  cases progress with
  | ended result =>
    refine ⟨_, _, rfl, ?_⟩
    rw [stepsLeft_of_inFlight herase]
    dsimp only [Progress.stepsLeft]
    omega
  | entered | routed | tokenReady =>
    obtain ⟨progress', s', hadvance, hnearer⟩ := hadvance (by rintro result ⟨⟩)
    refine ⟨_, s', Act.bind_of_ok _ hadvance, ?_⟩
    rw [stepsLeft_of_inFlight (hset _), stepsOf]
    dsimp only
    omega

/-- A move always leads somewhere. If it is possible there are fewer moves left, and otherwise nothing was moved. -/
theorem exists_play_nearer (d : Dispatcher σ) (o : Occurrence) (f : FanOut σ) (move : Move σ)
    (s : Scene (Issuing σ)) :
    ∃ f' s', f.play d o move s = .ok f' s'
      ∧ (move.Possible d.config.profileConcurrency f → f'.stepsLeft d < f.stepsLeft d)
      ∧ (¬ move.Possible d.config.profileConcurrency f → f' = f) := by
  cases move with
  | start => exact ⟨_, s, rfl, stepsLeft_start_lt, start_eq_of_not_possible⟩
  | advance place =>
    by_cases hplace : place < f.inFlight.length
    · obtain ⟨f', s', hadvance, hnearer⟩ := exists_advance_nearer d o hplace s
      exact ⟨f', s', hadvance, fun _ => hnearer, fun hnot => (hnot hplace).elim⟩
    · refine ⟨f, s, ?_, fun hpossible => (hplace hpossible).elim, fun _ => rfl⟩
      rw [play, advance, List.getElem?_eq_none (Nat.le_of_not_lt hplace)]
      rfl
  | disturb act =>
    obtain ⟨answer, s', hcaught⟩ := Act.exists_caught_eq_ok act.ofServices s
    exact ⟨f, s', Act.bind_of_ok _ hcaught, False.elim, fun _ => rfl⟩

/-- Until all profiles were served, some move is possible if one may be served at a time. -/
theorem exists_possible {limit : Nat} (hlimit : 0 < limit) (h : f.isDone = false) :
    ∃ move : Move σ, move.Possible limit f := by
  cases hflight : f.inFlight with
  | cons x rest =>
    refine ⟨.advance 0, ?_⟩
    rw [Move.Possible, hflight]
    exact Nat.zero_lt_succ _
  | nil =>
    have hwaiting : f.waiting ≠ [] := by
      rintro hnil
      rw [isDone, hnil, hflight] at h
      cases h
    refine ⟨.start, hwaiting, ?_⟩
    rw [hflight]
    exact hlimit

/-- From wherever a fan-out has come to, moves finish it, and no more of them than are left. -/
theorem exists_finish (h : 0 < d.config.profileConcurrency) (o : Occurrence) (f : FanOut σ)
    (s : Scene (Issuing σ)) :
    ∃ moves f' s', playAll d o moves f s = .ok f' s' ∧ f'.isDone = true ∧ moves.length ≤ f.stepsLeft d := by
  -- On the moves that are left: some move is possible until the fan-out is done, and it leaves fewer of them.
  induction hleft : f.stepsLeft d using Nat.strongRecOn generalizing f s with
  | ind left ih =>
    cases hdone : f.isDone with
    | true => exact ⟨[], f, s, rfl, hdone, Nat.zero_le _⟩
    | false =>
      obtain ⟨move, hpossible⟩ := exists_possible h hdone
      obtain ⟨f₁, s₁, hplay, hnearer, _⟩ := exists_play_nearer d o f move s
      have hless : f₁.stepsLeft d < left := hleft ▸ hnearer hpossible
      obtain ⟨moves, f₂, s₂, hrest, hend, hlength⟩ := ih _ hless f₁ s₁ rfl
      refine ⟨move :: moves, f₂, s₂, ?_, hend, ?_⟩
      · rw [playAll, Act.bind_of_ok _ hplay, hrest]
      · rw [List.length_cons]
        omega

/-- Where no profile may be served, no move does anything to profiles that wait. -/
theorem exists_playAll_stuck (h : d.config.profileConcurrency = 0) (o : Occurrence) (moves : List (Move σ))
    (hflight : f.inFlight = []) (s : Scene (Issuing σ)) : ∃ s', playAll d o moves f s = .ok f s' := by
  induction moves generalizing s with
  | nil => exact ⟨s, rfl⟩
  | cons move rest ih =>
    have hnot : ¬ move.Possible d.config.profileConcurrency f := by
      cases move with
      | start => exact fun hpossible => Nat.not_lt_zero _ (h ▸ hpossible.2)
      | advance place =>
        rw [Move.Possible, hflight]
        exact Nat.not_lt_zero place
      | disturb act => exact not_false
    obtain ⟨f₁, s₁, hplay, _, hsame⟩ := exists_play_nearer d o f move s
    obtain rfl := hsame hnot
    obtain ⟨s₂, hrest⟩ := ih s₁
    exact ⟨s₂, by rw [playAll, Act.bind_of_ok _ hplay, hrest]⟩

end FanOut

end SecurityEvents
