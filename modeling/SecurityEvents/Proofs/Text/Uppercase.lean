import SecurityEvents.Text.Blank
import SecurityEvents.Text.Uppercase
set_option autoImplicit false

/-!
# Blank text in upper case

Blank characters are their own uppercase form, and the uppercase form of any other character has one that is not blank.
So a text is blank exactly if it is blank in upper case: `isBlank_uppercase_iff`.
-/

namespace SecurityEvents.Text

/-- The code points of the blank characters. -/
def blanks : List Nat :=
  [0x09, 0x0A, 0x0B, 0x0C, 0x0D, 0x20, 0x85, 0xA0, 0x1680, 0x2000, 0x2001, 0x2002, 0x2003, 0x2004, 0x2005, 0x2006,
    0x2007, 0x2008, 0x2009, 0x200A, 0x2028, 0x2029, 0x202F, 0x205F, 0x3000]

theorem isBlank_iff_mem_blanks {c : Char} : isBlank c = true ↔ c.toNat ∈ blanks := by
  simp only [isBlank, blanks, Bool.or_eq_true, Bool.and_eq_true, decide_eq_true_eq, beq_iff_eq, List.mem_cons,
    List.not_mem_nil, or_false]
  omega

theorem uppercaseChar_of_isBlank {c : Char} (h : isBlank c = true) : uppercaseChar c = [c] := by
  have hall : ∀ code ∈ blanks, uppercaseChar (Char.ofNat code) = [Char.ofNat code] := by decide +kernel
  have hc := hall c.toNat (isBlank_iff_mem_blanks.1 h)
  rwa [Char.ofNat_toNat] at hc

/-- No run moves a character to a blank one. -/
theorem isBlank_ofNat_move {run : UppercaseRun} (hrun : run ∈ uppercaseRuns) {code : Nat}
    (hcovers : run.covers code = true) : isBlank (Char.ofNat (run.move code)) = false := by
  have hapart : ∀ run ∈ uppercaseRuns, ∀ blank ∈ blanks,
      blank < run.target ∨ run.target + (run.last - run.first) < blank := by
    decide +kernel
  have htarget : run.target ≤ run.move code ∧ run.move code ≤ run.target + (run.last - run.first) := by
    simp only [UppercaseRun.covers, Bool.and_eq_true, decide_eq_true_eq] at hcovers
    simp only [UppercaseRun.move]
    omega
  rw [Bool.eq_false_iff]
  intro hblank
  have hmem := isBlank_iff_mem_blanks.1 hblank
  by_cases hvalid : (run.move code).isValidChar
  · rw [Char.ofNat, dif_pos hvalid] at hmem
    have hmove : run.move code ∈ blanks := hmem
    have := hapart run hrun _ hmove
    omega
  -- A code point without a character counts as `U+0000`, which is not blank either.
  · rw [Char.ofNat, dif_neg hvalid] at hmem
    exact absurd hmem (by decide)

theorem exists_mem_uppercaseChar {c : Char} (h : isBlank c = false) : ∃ u ∈ uppercaseChar c, isBlank u = false := by
  have hlonger : ∀ expansion ∈ uppercaseExpansions, ∃ code ∈ expansion.2, isBlank (Char.ofNat code) = false := by
    decide +kernel
  unfold uppercaseChar
  split
  · rename_i codes hlookup
    obtain ⟨before, after, hsplit, _⟩ := List.lookup_eq_some_iff.1 hlookup
    obtain ⟨code, hcode, hblank⟩ := hlonger (c.toNat, codes) (by simp [hsplit])
    exact ⟨_, List.mem_map_of_mem hcode, hblank⟩
  · split
    · rename_i run hfind
      have hcovers := List.find?_some hfind
      exact ⟨_, List.mem_singleton_self _, isBlank_ofNat_move (List.mem_of_find?_eq_some hfind) hcovers⟩
    · exact ⟨c, List.mem_singleton_self c, h⟩

/-- A text is as blank as its uppercase form. -/
theorem isBlank_uppercase_iff {s : String} :
    (∀ c ∈ (uppercase s).toList, isBlank c = true) ↔ ∀ c ∈ s.toList, isBlank c = true := by
  simp only [uppercase, String.toList_ofList, List.mem_flatMap]
  constructor
  · intro hupper c hc
    cases hblank : isBlank c with
    | true => rfl
    | false =>
      obtain ⟨u, hu, hother⟩ := exists_mem_uppercaseChar hblank
      exact hother.symm.trans (hupper u ⟨c, hc, hu⟩)
  · rintro hblank u ⟨c, hc, hu⟩
    rw [uppercaseChar_of_isBlank (hblank c hc), List.mem_singleton] at hu
    rw [hu]
    exact hblank c hc

end SecurityEvents.Text
