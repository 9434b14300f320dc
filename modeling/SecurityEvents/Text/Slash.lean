set_option autoImplicit false

/-!
# Texts cut at a slash

Qualified user names (`STORE/name`) are cut at their first slash, locations (`…/Users/id`) at their last,
and issuers lose the slashes they end with.
-/

namespace SecurityEvents.Text

/-- The characters of a text with a separator of one character in it. -/
theorem toList_separated {separator : String} {c : Char} (h : separator.toList = [c]) (before after : String) :
    (before ++ separator ++ after).toList = before.toList ++ c :: after.toList := by
  rw [String.toList_append, String.toList_append, h, List.append_assoc, List.singleton_append]

/-- What stands before and after the first slash. -/
def cutAtSlash? : List Char → Option (List Char × List Char)
  | [] => none
  | c :: rest =>
    if c = '/' then some ([], rest)
    else (cutAtSlash? rest).map fun (before, after) => (c :: before, after)

/-- What stands after the last slash: the whole text where there is none. -/
def afterLastSlash (cs : List Char) : List Char :=
  (cs.reverse.takeWhile (· != '/')).reverse

/-- The text without the slashes at its end. -/
def dropTrailingSlashes (cs : List Char) : List Char :=
  (cs.reverse.dropWhile (· == '/')).reverse

/-- A cut puts a slash-free text in front and loses nothing but the slash. -/
theorem eq_of_cutAtSlash? {cs before after : List Char} (h : cutAtSlash? cs = some (before, after)) :
    cs = before ++ '/' :: after ∧ '/' ∉ before := by
  induction cs generalizing before with
  | nil => simp [cutAtSlash?] at h
  | cons c cs ih =>
    simp only [cutAtSlash?] at h
    split at h
    · rename_i hc
      simp only [Option.some.injEq, Prod.mk.injEq] at h
      obtain ⟨rfl, rfl⟩ := h
      simp [hc]
    · rename_i hc
      obtain ⟨⟨b, a⟩, hcut, heq⟩ := Option.map_eq_some_iff.1 h
      simp only [Prod.mk.injEq] at heq
      obtain ⟨rfl, rfl⟩ := heq
      obtain ⟨rfl, hb⟩ := ih hcut
      exact ⟨rfl, by simp [hb, Ne.symm hc]⟩

/-- What stands in front of a slash and has none is cut off there. -/
theorem cutAtSlash?_append {before : List Char} (after : List Char) (h : '/' ∉ before) :
    cutAtSlash? (before ++ '/' :: after) = some (before, after) := by
  induction before with
  | nil => simp [cutAtSlash?]
  | cons c before ih =>
    obtain ⟨hc, hbefore⟩ := not_or.1 (h ∘ List.mem_cons.2)
    rw [List.cons_append, cutAtSlash?, if_neg (Ne.symm hc), ih hbefore]
    rfl

theorem cutAtSlash?_eq_some_iff {text before after : String} :
    cutAtSlash? text.toList = some (before.toList, after.toList)
      ↔ text = before ++ "/" ++ after ∧ '/' ∉ before.toList := by
  have hseparator : "/".toList = ['/'] := rfl
  rw [← String.toList_inj, toList_separated hseparator]
  constructor
  · exact eq_of_cutAtSlash?
  · rintro ⟨htext, hbefore⟩
    rw [htext, cutAtSlash?_append _ hbefore]

/-- There is no cut exactly where there is no slash. -/
theorem cutAtSlash?_eq_none_iff {cs : List Char} : cutAtSlash? cs = none ↔ '/' ∉ cs := by
  induction cs with
  | nil => simp [cutAtSlash?]
  | cons c cs ih =>
    simp only [cutAtSlash?]
    split
    · rename_i hc
      simp [hc]
    · rename_i hc
      simp [ih, Ne.symm hc]

/-- What stands after the last slash is slash-free. -/
theorem slash_not_mem_afterLastSlash (cs : List Char) : '/' ∉ afterLastSlash cs := by
  intro h
  have hall : (cs.reverse.takeWhile (· != '/')).all (· != '/') = true := List.all_takeWhile
  have := List.all_eq_true.1 hall '/' (List.mem_reverse.1 h)
  simp at this

/-- Only what stands after the last slash counts. -/
theorem afterLastSlash_append {before after : List Char} (h : '/' ∉ after) :
    afterLastSlash (before ++ '/' :: after) = after := by
  have hr : ∀ c ∈ after.reverse, (c != '/') = true := fun c hc => by
    have : c ∈ after := List.mem_reverse.1 hc
    simp only [bne_iff_ne]
    rintro rfl
    exact h this
  rw [afterLastSlash, List.reverse_append, List.reverse_cons, List.append_assoc,
    List.takeWhile_append_of_pos hr]
  simp

theorem afterLastSlash_of_not_mem {cs : List Char} (h : '/' ∉ cs) : afterLastSlash cs = cs := by
  have hr : ∀ c ∈ cs.reverse, (c != '/') = true := fun c hc => by
    have : c ∈ cs := List.mem_reverse.1 hc
    simp only [bne_iff_ne]
    rintro rfl
    exact h this
  have htake : (cs.reverse ++ []).takeWhile (· != '/') = cs.reverse ++ [] :=
    List.takeWhile_append_of_pos hr
  rw [List.append_nil] at htake
  rw [afterLastSlash, htake, List.reverse_reverse]

/-- A text with a slash in it has its last slash in front of what stands after the last slash. -/
theorem exists_eq_append_afterLastSlash {cs : List Char} (h : '/' ∈ cs) :
    ∃ before, cs = before ++ '/' :: afterLastSlash cs := by
  have hsplit : cs.reverse.takeWhile (· != '/') ++ cs.reverse.dropWhile (· != '/') = cs.reverse :=
    List.takeWhile_append_dropWhile
  cases hrest : cs.reverse.dropWhile (· != '/') with
  | nil =>
    rw [hrest, List.append_nil] at hsplit
    rw [← List.mem_reverse, ← hsplit, ← List.mem_reverse] at h
    exact (slash_not_mem_afterLastSlash cs h).elim
  | cons c rest =>
    have hstop := List.head_dropWhile_not (· != '/') (hrest ▸ List.cons_ne_nil c rest)
    simp only [hrest, List.head_cons, bne_eq_false_iff_eq] at hstop
    subst hstop
    refine ⟨rest.reverse, ?_⟩
    rw [← List.reverse_inj, ← hsplit, hrest, afterLastSlash]
    simp

/-- Slashes at the end make no difference, however many. -/
theorem dropTrailingSlashes_append_slashes {slashes : List Char} (h : ∀ c ∈ slashes, c = '/') (cs : List Char) :
    dropTrailingSlashes (cs ++ slashes) = dropTrailingSlashes cs := by
  have hall : ∀ c ∈ slashes.reverse, (c == '/') = true := fun c hc => beq_iff_eq.2 (h c (List.mem_reverse.1 hc))
  rw [dropTrailingSlashes, List.reverse_append, List.dropWhile_append_of_pos hall]
  rfl

/-- What stands in front of something else than slashes is kept. -/
theorem dropTrailingSlashes_append_of_exists {rest : List Char} (h : ∃ c ∈ rest, c ≠ '/') (cs : List Char) :
    dropTrailingSlashes (cs ++ rest) = cs ++ dropTrailingSlashes rest := by
  have hkept : (rest.reverse.dropWhile (· == '/')).isEmpty = false := by
    obtain ⟨c, hc, hslash⟩ := h
    have hnot : ¬ rest.reverse.all (· == '/') = true := fun hall =>
      hslash (beq_iff_eq.1 (List.all_eq_true.1 hall c (List.mem_reverse.2 hc)))
    refine Bool.eq_false_iff.2 fun hnone => hnot ?_
    have hsplit : rest.reverse.takeWhile (· == '/') ++ rest.reverse.dropWhile (· == '/') = rest.reverse :=
      List.takeWhile_append_dropWhile
    rw [List.isEmpty_iff.1 hnone, List.append_nil] at hsplit
    rw [← hsplit]
    exact List.all_takeWhile
  rw [dropTrailingSlashes, List.reverse_append, List.dropWhile_append, hkept, if_neg Bool.false_ne_true,
    List.reverse_append, List.reverse_reverse]
  rfl

end SecurityEvents.Text
