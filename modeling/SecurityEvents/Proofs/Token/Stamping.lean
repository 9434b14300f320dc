import SecurityEvents.Token.Stamp
set_option autoImplicit false

/-!
# Stamps that are drawn

Whoever draws stamps, the clock remembers the greatest of zero and all that the wall clock was read as
(`Clock.Sound`), and that is what it gives. `Stamper.Draws` says which stamps lead from a stamper to another; the
time in each of them is known from the readings alone, and times do not decrease.
-/

namespace SecurityEvents

/-- The time is the greatest of zero and the first readings of the wall clock. -/
def IsLatest (readings : Nat → Int64) (n : Nat) (time : Int64) : Prop :=
  (0 :: (List.range n).map fun i => (readings i).toInt).max? = some time.toInt

/-- It is not before any of these readings. -/
theorem IsLatest.reading_le {readings : Nat → Int64} {n : Nat} {time : Int64} (h : IsLatest readings n time)
    {i : Nat} (hi : i < n) : readings i ≤ time := by
  obtain ⟨_, hmax⟩ := List.max?_eq_some_iff.1 h
  have hread : (readings i).toInt ∈ 0 :: (List.range n).map fun i => (readings i).toInt :=
    List.mem_cons_of_mem 0 (List.mem_map_of_mem (List.mem_range.2 hi))
  exact Int64.le_iff_toInt_le.2 (hmax _ hread)

namespace Clock

variable {c : Clock}

/-- What the clock gave last is the greatest of zero and what the wall clock was read as. -/
def Sound (c : Clock) : Prop :=
  IsLatest c.readings c.taken c.last

/-- A clock that was never asked is sound. -/
theorem sound_fresh (readings : Nat → Int64) : Sound { readings } := rfl

/-- The time is that of the last token or that of the wall clock, whichever is later. -/
theorem toInt_now (c : Clock) : c.now.toInt = max c.last.toInt (c.readings c.taken).toInt := by
  change (if c.last ≤ c.readings c.taken then c.readings c.taken else c.last).toInt = _
  split
  · rename_i h
    exact (Int.max_eq_right (Int64.le_iff_toInt_le.1 h)).symm
  · rename_i h
    rw [Int64.le_iff_toInt_le] at h
    exact (Int.max_eq_left (Int.le_of_lt (Int.not_le.1 h))).symm

/-- To ask a sound clock takes one more reading into account, and leaves it sound. -/
theorem Sound.tick (h : c.Sound) : c.tick.Sound := by
  have hlast : c.tick.last.toInt = max c.last.toInt (c.readings c.taken).toInt := c.toInt_now
  obtain ⟨hmem, hmax⟩ := List.max?_eq_some_iff.1 h
  change (0 :: (List.range (c.taken + 1)).map fun i => (c.readings i).toInt).max? = some c.tick.last.toInt
  rw [hlast, List.range_succ, List.map_append, ← List.cons_append, List.max?_eq_some_iff]
  constructor
  · rcases Int.le_total c.last.toInt (c.readings c.taken).toInt with hle | hle
    · rw [Int.max_eq_right hle]
      exact List.mem_append_right _ List.mem_cons_self
    · rw [Int.max_eq_left hle]
      exact List.mem_append_left _ hmem
  · intro time htime
    rcases List.mem_append.1 htime with htime | htime
    · exact Int.le_trans (hmax time htime) (Int.le_max_left _ _)
    · rw [List.mem_singleton.1 htime]
      exact Int.le_max_right _ _

end Clock

namespace Stamper

/-- From a stamper to another these stamps are drawn, one after the other. -/
inductive Draws : Stamper → List Stamp → Stamper → Prop where
  | nil (s : Stamper) : Draws s [] s
  | cons {s s' : Stamper} {stamps : List Stamp} (h : Draws s.advance stamps s') : Draws s (s.next :: stamps) s'

namespace Draws

variable {s s' s'' : Stamper} {stamps others : List Stamp} {stamp : Stamp}

theorem single (s : Stamper) : s.Draws [s.next] s.advance := .cons (.nil s.advance)

theorem append (h : s.Draws stamps s') (hothers : s'.Draws others s'') : s.Draws (stamps ++ others) s'' := by
  induction h with
  | nil => exact hothers
  | cons _ ih => exact .cons (ih hothers)

theorem eq_of_nil (h : s.Draws [] s') : s' = s := by
  cases h
  rfl

/-- Each time is the greatest of zero and the readings up to then. -/
theorem isLatest (h : s.Draws stamps s') (hs : s.clock.Sound) {k : Nat} (hk : stamps[k]? = some stamp) :
    IsLatest s.clock.readings (s.clock.taken + k + 1) stamp.issuedAt := by
  induction h generalizing k with
  | nil => cases hk
  | @cons s s' stamps _ ih =>
    cases k with
    | zero =>
      cases hk
      exact hs.tick
    | succ k =>
      have htaken : s.clock.taken + (k + 1) + 1 = s.advance.clock.taken + k + 1 := by
        change s.clock.taken + (k + 1) + 1 = s.clock.taken + 1 + k + 1
        omega
      rw [htaken]
      exact ih hs.tick hk

theorem last_le (h : s.Draws stamps s') : s.clock.last ≤ s'.clock.last := by
  induction h with
  | nil => exact Int64.le_refl _
  | @cons s s' stamps _ ih => exact Int64.le_trans s.clock.last_le_now ih

/-- Every time lies between what the clock gave last before and after. -/
theorem last_le_issuedAt (h : s.Draws stamps s') :
    ∀ stamp ∈ stamps, s.clock.last ≤ stamp.issuedAt ∧ stamp.issuedAt ≤ s'.clock.last := by
  induction h with
  | nil => exact fun _ hstamp => (List.not_mem_nil hstamp).elim
  | @cons s s' stamps hrest ih =>
    intro stamp hstamp
    rcases List.mem_cons.1 hstamp with rfl | hstamp
    · exact ⟨s.clock.last_le_now, hrest.last_le⟩
    · exact ⟨Int64.le_trans s.clock.last_le_now (ih stamp hstamp).1, (ih stamp hstamp).2⟩

/-- Times do not decrease. -/
theorem pairwise_issuedAt (h : s.Draws stamps s') : (stamps.map (·.issuedAt)).Pairwise (· ≤ ·) := by
  induction h with
  | nil => exact .nil
  | @cons s s' stamps hrest ih =>
    refine .cons (fun time htime => ?_) ih
    obtain ⟨stamp, hstamp, rfl⟩ := List.mem_map.1 htime
    exact (hrest.last_le_issuedAt stamp hstamp).1

end Draws

end Stamper

/-- The stamp of a token. -/
def Token.stamp (t : Token) : Stamp :=
  ⟨t.issuedAt, t.id⟩

/-- The tokens were issued one after the other by a clock with these readings: each at the latest time so far, hence
not before its own reading, and not before a token that was issued earlier. -/
structure IssuedBy (readings : Nat → Int64) (tokens : List Token) : Prop where
  isLatest : ∀ k token, tokens[k]? = some token → IsLatest readings (k + 1) token.issuedAt
  reading_le : ∀ k token, tokens[k]? = some token → readings k ≤ token.issuedAt
  pairwise : (tokens.map (·.issuedAt)).Pairwise (· ≤ ·)

/-- Tokens with the stamps that are drawn from a fresh clock on were issued by it. -/
theorem Stamper.Draws.issuedBy {s s' : Stamper} {tokens : List Token} {readings : Nat → Int64}
    (h : s.Draws (tokens.map Token.stamp) s') (hfresh : s.clock = { readings }) : IssuedBy readings tokens := by
  have hlatest : ∀ k token, tokens[k]? = some token → IsLatest readings (k + 1) token.issuedAt := by
    intro k token hk
    have hstamp : (tokens.map Token.stamp)[k]? = some token.stamp := by
      rw [List.getElem?_map, hk]
      rfl
    have hsound : s.clock.Sound := hfresh ▸ Clock.sound_fresh readings
    have htime := h.isLatest hsound hstamp
    rw [hfresh, Nat.zero_add] at htime
    exact htime
  refine ⟨hlatest, fun k token hk => (hlatest k token hk).reading_le (Nat.lt_succ_self k), ?_⟩
  have hpairwise := h.pairwise_issuedAt
  rw [List.map_map] at hpairwise
  exact hpairwise

end SecurityEvents
