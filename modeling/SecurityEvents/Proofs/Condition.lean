set_option autoImplicit false

/-!
# Results that rest on conditions

Data are extracted and payloads are encoded in steps, and every step may find that something is missing or wrong. What
is asked for on the way is a list of conditions, in the order in which they are looked at. A result *rests on* them if
it is good exactly when all are met, and otherwise tells of the first that is not met (`RestsOn`). Two steps in a row
rest on the conditions of the one and then on those of the other (`RestsOn.bind`).
-/

namespace SecurityEvents

/-- Something that is asked for, and what is told where it is not so. -/
structure Condition (ε : Type) where
  Met : Prop
  Tells : ε → Prop

namespace Condition

variable {ε : Type} {c : Condition ε} {rest conditions : List (Condition ε)} {cause : ε}

/-- The cause is what the first condition that is not met tells. -/
def FirstTold (conditions : List (Condition ε)) (cause : ε) : Prop :=
  ∃ before c after, conditions = before ++ c :: after ∧ (∀ b ∈ before, b.Met) ∧ ¬ c.Met ∧ c.Tells cause

theorem FirstTold.exists_unmet (h : FirstTold conditions cause) : ∃ c ∈ conditions, ¬ c.Met := by
  obtain ⟨before, c, after, rfl, _, hunmet, _⟩ := h
  exact ⟨c, List.mem_append_right before List.mem_cons_self, hunmet⟩

/-- Either the first condition tells, or it is met and left to the others. -/
theorem firstTold_cons_iff :
    FirstTold (c :: rest) cause ↔ (¬ c.Met ∧ c.Tells cause) ∨ (c.Met ∧ FirstTold rest cause) := by
  constructor
  · rintro ⟨before, d, after, hconditions, hbefore, hunmet, htells⟩
    cases before with
    | nil =>
      obtain ⟨rfl, rfl⟩ := List.cons.inj hconditions
      exact .inl ⟨hunmet, htells⟩
    | cons b before =>
      obtain ⟨rfl, rfl⟩ := List.cons.inj hconditions
      exact .inr ⟨hbefore _ List.mem_cons_self,
        before, d, after, rfl, fun b hb => hbefore b (List.mem_cons_of_mem _ hb), hunmet, htells⟩
  · rintro (⟨hunmet, htells⟩ | ⟨hmet, before, d, after, rfl, hbefore, hunmet, htells⟩)
    · exact ⟨[], c, rest, rfl, fun _ hb => (List.not_mem_nil hb).elim, hunmet, htells⟩
    · refine ⟨c :: before, d, after, rfl, fun b hb => ?_, hunmet, htells⟩
      rcases List.mem_cons.1 hb with rfl | hb
      · exact hmet
      · exact hbefore b hb

theorem firstTold_append_iff :
    FirstTold (conditions ++ rest) cause
      ↔ FirstTold conditions cause ∨ (∀ c ∈ conditions, c.Met) ∧ FirstTold rest cause := by
  induction conditions with
  | nil =>
    have hnone : ¬ FirstTold [] cause := fun h => h.exists_unmet.elim fun _ hc => (List.not_mem_nil hc.1).elim
    simp [hnone]
  | cons c conditions ih =>
    rw [List.cons_append, firstTold_cons_iff, ih, firstTold_cons_iff, List.forall_mem_cons]
    grind

end Condition

/-- What is made of a first thing that went well went well itself, and what it was made of. -/
theorem exists_of_bind_eq_ok {ε α β : Type} {x : Except ε α} {next : α → Except ε β} {b : β}
    (h : x >>= next = .ok b) : ∃ a, x = .ok a ∧ next a = .ok b := by
  cases x with
  | error e => cases h
  | ok a => exact ⟨a, rfl, h⟩

open Condition

/-- The result is good exactly if all conditions are met, and an error is what the first one that is not met tells. -/
structure RestsOn {ε α : Type} (x : Except ε α) (conditions : List (Condition ε)) : Prop where
  exists_ok_iff : (∃ a, x = .ok a) ↔ ∀ c ∈ conditions, c.Met
  eq_error_iff : ∀ cause, x = .error cause ↔ FirstTold conditions cause

section RestsOn

variable {ε α β : Type} {c : Condition ε} {rest conditions : List (Condition ε)}

theorem restsOn_ok_iff {a : α} : RestsOn (.ok a) conditions ↔ ∀ c ∈ conditions, c.Met := by
  refine ⟨fun h => h.exists_ok_iff.1 ⟨a, rfl⟩, fun hmet => ⟨iff_of_true ⟨a, rfl⟩ hmet, fun cause => ?_⟩⟩
  refine iff_of_false (fun h => nomatch h) fun htold => ?_
  obtain ⟨c, hc, hunmet⟩ := htold.exists_unmet
  exact hunmet (hmet c hc)

theorem restsOn_error_iff {cause : ε} :
    RestsOn (.error cause : Except ε α) conditions ↔ ∀ e, FirstTold conditions e ↔ e = cause := by
  constructor
  · intro h e
    rw [← h.eq_error_iff, Except.error.injEq, eq_comm]
  · intro htold
    refine ⟨iff_of_false (fun ⟨_, h⟩ => nomatch h) fun hmet => ?_, fun e => ?_⟩
    · obtain ⟨c, hc, hunmet⟩ := ((htold cause).2 rfl).exists_unmet
      exact hunmet (hmet c hc)
    · rw [htold, Except.error.injEq, eq_comm]

/-- Conditions that something rests on are all met, or there is one thing that is told first. -/
theorem RestsOn.met_or_firstTold {x : Except ε α} (h : RestsOn x conditions) :
    (∀ c ∈ conditions, c.Met) ∨ ∃ cause, ∀ e, FirstTold conditions e ↔ e = cause := by
  cases x with
  | ok a => exact .inl (restsOn_ok_iff.1 h)
  | error cause => exact .inr ⟨cause, restsOn_error_iff.1 h⟩

theorem restsOn_ok (a : α) : RestsOn (.ok a : Except ε α) [] :=
  restsOn_ok_iff.2 fun _ hc => (List.not_mem_nil hc).elim

/-- What the first condition tells is the error, whatever else is asked for. -/
theorem restsOn_error {cause : ε} (hunmet : ¬ c.Met) (htells : ∀ e, c.Tells e ↔ e = cause) :
    RestsOn (.error cause : Except ε α) (c :: rest) := by
  refine restsOn_error_iff.2 fun e => ?_
  rw [firstTold_cons_iff, htells]
  exact ⟨fun h => h.elim And.right fun h => (hunmet h.1).elim, fun h => .inl ⟨hunmet, h⟩⟩

/-- A condition that is met leaves the result to the others. -/
theorem RestsOn.of_met {x : Except ε α} (h : RestsOn x rest) (hmet : c.Met) : RestsOn x (c :: rest) where
  exists_ok_iff := by
    rw [h.exists_ok_iff, List.forall_mem_cons]
    exact (and_iff_right hmet).symm
  eq_error_iff cause := by
    rw [h.eq_error_iff, firstTold_cons_iff]
    exact ⟨fun htold => .inr ⟨hmet, htold⟩, fun h => h.elim (fun h => (h.1 hmet).elim) And.right⟩

/-- What a step rests on comes before what the rest does. -/
theorem RestsOn.bind {x : Except ε α} {next : α → Except ε β} (h : RestsOn x conditions)
    (hnext : ∀ a, x = .ok a → RestsOn (next a) rest) : RestsOn (x >>= next) (conditions ++ rest) := by
  cases x with
  | ok a =>
    have hmet := restsOn_ok_iff.1 h
    have hrest : RestsOn (next a) rest := hnext a rfl
    refine ⟨?_, fun cause => ?_⟩
    · rw [List.forall_mem_append]
      exact hrest.exists_ok_iff.trans (and_iff_right hmet).symm
    · rw [firstTold_append_iff]
      have hnone : ¬ FirstTold conditions cause := fun htold => nomatch (h.eq_error_iff cause).2 htold
      exact (hrest.eq_error_iff cause).trans ⟨fun h => .inr ⟨hmet, h⟩, fun h => (h.resolve_left hnone).2⟩
  | error cause =>
    have htold := restsOn_error_iff.1 h
    obtain ⟨c, hc, hunmet⟩ := ((htold cause).2 rfl).exists_unmet
    refine restsOn_error_iff.2 fun e => ?_
    rw [firstTold_append_iff, htold]
    exact or_iff_left fun h => hunmet (h.1 c hc)

theorem RestsOn.map {x : Except ε α} (h : RestsOn x conditions) (f : α → β) : RestsOn (x.map f) conditions := by
  cases x with
  | ok a => exact restsOn_ok_iff.2 (restsOn_ok_iff.1 h)
  | error cause => exact restsOn_error_iff.2 (restsOn_error_iff.1 h)

/-- To return something that is made of a result asks for nothing more. -/
theorem RestsOn.bind_ok {x : Except ε α} (h : RestsOn x conditions) (f : α → β) :
    RestsOn (x >>= fun a => .ok (f a)) conditions :=
  h.map f

end RestsOn

end SecurityEvents
