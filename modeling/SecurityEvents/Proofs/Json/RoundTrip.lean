import SecurityEvents.Proofs.Json.Extent
import SecurityEvents.Proofs.Json.Quoting
set_option autoImplicit false

/-!
# Texts of values are read back

The text of a value is read as the tree of the value, provided that the floats in it are the numbers of their
spellings: `Tree.read?_chars`. The tree has the value that it was made of, as long as no name stands twice and the
budget allows for the nesting: `value?_tree`.
-/

namespace SecurityEvents.Json

namespace Reader

/-! ## How texts begin and end -/

theorem skip_cons {c : Char} (h : isGap (some c) = false) (rest : Input) :
    skip (some c :: rest) = some c :: rest := by
  rw [skip, List.dropWhile_cons, h]
  rfl

theorem endsNumber_nil : EndsNumber [] :=
  fun _ _ h => nomatch h

theorem endsNumber_cons {c : Char} (h : Decimal.digit? c = none ∧ c ≠ '.' ∧ c ≠ 'e' ∧ c ≠ 'E') (rest : Input) :
    EndsNumber (some c :: rest) := by
  intro d after heq
  cases heq
  exact h

/-- A number begins with its sign or with a digit. -/
theorem exists_chars_number (n : Number) :
    ∃ c cs, n.literal.chars = c :: cs ∧ (c = '-' ∨ ∃ d < 10, c = Decimal.digitChar d) := by
  have hl := n.wellFormed_literal
  obtain ⟨d, ds, hwhole⟩ := List.exists_cons_of_ne_nil hl.whole_ne_nil
  have hd : d < 10 := hl.whole_lt d (hwhole ▸ List.mem_cons_self)
  cases hneg : n.literal.negative with
  | true => exact ⟨'-', _, by rw [Literal.chars, hneg]; rfl, .inl rfl⟩
  | false => exact ⟨Decimal.digitChar d, _, by rw [Literal.chars, hneg, hwhole]; rfl, .inr ⟨d, hd, rfl⟩⟩

/-- What begins a number is no blank, begins nothing else, and closes nothing. -/
theorem start_of_number {c : Char} (hc : c = '-' ∨ ∃ d < 10, c = Decimal.digitChar d) :
    isGap (some c) = false ∧ c ∉ ['\x7b', '[', '"', 'n', 't', 'f', ']'] := by
  have hdigit : ∀ d < 10, isGap (some (Decimal.digitChar d)) = false
      ∧ Decimal.digitChar d ∉ ['\x7b', '[', '"', 'n', 't', 'f', ']'] := by decide
  rcases hc with rfl | ⟨d, hd, rfl⟩
  · decide
  · exact hdigit d hd

/-- No text of a value begins with a blank or a bracket that closes. -/
theorem exists_chars (v : Json) :
    ∃ c cs, v.chars = c :: cs ∧ isGap (some c) = false ∧ c ≠ ']' := by
  cases v with
  | null => exact ⟨_, _, by rw [chars], by decide⟩
  | bool b => cases b <;> exact ⟨_, _, by rw [chars], by decide⟩
  | string s => exact ⟨'"', _, by rw [chars, stringChars]; rfl, by decide⟩
  | array items => exact ⟨_, _, by rw [chars], by decide⟩
  | object members => exact ⟨_, _, by rw [chars], by decide⟩
  | number n =>
    obtain ⟨c, cs, hchars, hc⟩ := exists_chars_number n
    obtain ⟨hgap, hstart⟩ := start_of_number hc
    exact ⟨c, cs, by rw [chars, hchars], hgap, fun hclosing => hstart (by simp [hclosing])⟩

/-! ## Values -/

theorem value?_number (n : Number) (fuel : Nat) {rest : Input} (hrest : EndsNumber rest) :
    value? (fuel + 1) ((Json.number n).chars.map some ++ rest)
      = some (.number (Number.ofLiteral? n.literal), rest) := by
  have hread := number?_chars n.wellFormed_literal hrest
  obtain ⟨c, cs, hchars, hc⟩ := exists_chars_number n
  rw [chars]
  rw [hchars] at hread ⊢
  obtain ⟨hgap, hstart⟩ := start_of_number hc
  change value? (fuel + 1) (some c :: (cs.map some ++ rest)) = _
  change number? (some c :: (cs.map some ++ rest)) = _ at hread
  rw [value?, skip_cons hgap]
  split
  case h_7 =>
    rw [hread]
    rfl
  all_goals
    rename_i heq
    cases heq
    exact (hstart (by decide)).elim

theorem map_stringChars (s : String) (rest : Input) :
    (stringChars s).map some ++ rest
      = some '"' :: ((s.toList.flatMap escapeChar).map some ++ some '"' :: rest) := by
  simp [stringChars]

theorem value?_string (s : String) (fuel : Nat) (rest : Input) :
    value? (fuel + 1) ((stringChars s).map some ++ rest) = some (.string (Text.placesOf s), rest) := by
  rw [map_stringChars, value?, skip_cons (by decide)]
  change (string? _).map _ = _
  rw [string?_stringChars]
  rfl

theorem value?_array {fuel : Nat} {input rest : Input} {ts : List Tree}
    (hstart : ∃ c after, input = some c :: after ∧ isGap (some c) = false ∧ c ≠ ']')
    (h : items? fuel input = some (ts, rest)) :
    value? (fuel + 1) (some '[' :: input) = some (.array ts, rest) := by
  obtain ⟨c, after, rfl, hgap, hc⟩ := hstart
  rw [value?, skip_cons (by decide)]
  simp only [skip_cons hgap]
  split
  · rename_i heq
    cases heq
    exact (hc rfl).elim
  · rw [h]
    rfl

theorem value?_object {fuel : Nat} {input rest : Input} {ms : List (List (Option Char) × Tree)}
    (h : members? fuel (some '"' :: input) = some (ms, rest)) :
    value? (fuel + 1) (some '\x7b' :: some '"' :: input) = some (.object ms, rest) := by
  rw [value?, skip_cons (by decide)]
  change (members? fuel (some '"' :: input)).map _ = _
  rw [h]
  rfl

theorem items?_last {fuel : Nat} {input after : Input} {t : Tree}
    (h : value? fuel input = some (t, some ']' :: after)) : items? (fuel + 1) input = some ([t], after) := by
  rw [items?, h]
  rfl

theorem items?_next {fuel : Nat} {input rest after : Input} {t : Tree} {ts : List Tree}
    (h : value? fuel input = some (t, some ',' :: rest)) (hrest : items? fuel rest = some (ts, after)) :
    items? (fuel + 1) input = some (t :: ts, after) := by
  rw [items?, h]
  change (items? fuel rest).map _ = _
  rw [hrest]
  rfl

/-- Members are read name first. -/
theorem members?_member {fuel : Nat} {k : String} {input rest : Input} {t : Tree}
    (h : value? fuel input = some (t, rest)) :
    members? (fuel + 1) ((stringChars k).map some ++ some ':' :: input)
      = match skip rest with
        | some ',' :: rest => (members? fuel rest).map fun (ms, after) => ((Text.placesOf k, t) :: ms, after)
        | some '\x7d' :: after => some ([(Text.placesOf k, t)], after)
        | _ => none := by
  rw [map_stringChars, members?, skip_cons (by decide)]
  split
  case h_1 heq =>
    cases heq
    rw [string?_stringChars]
    dsimp only
    rw [skip_cons (by decide)]
    split
    case h_1 heq =>
      cases heq
      rewrite [h]
      rfl
    case h_2 hcolon => exact (hcolon _ rfl).elim
  case h_2 hquote => exact (hquote _ rfl).elim

theorem members?_last {fuel : Nat} {k : String} {input after : Input} {t : Tree}
    (h : value? fuel input = some (t, some '\x7d' :: after)) :
    members? (fuel + 1) ((stringChars k).map some ++ some ':' :: input)
      = some ([(Text.placesOf k, t)], after) := by
  rw [members?_member h]
  rfl

theorem members?_next {fuel : Nat} {k : String} {input rest after : Input} {t : Tree}
    {ms : List (List (Option Char) × Tree)} (h : value? fuel input = some (t, some ',' :: rest))
    (hrest : members? fuel rest = some (ms, after)) :
    members? (fuel + 1) ((stringChars k).map some ++ some ':' :: input)
      = some ((Text.placesOf k, t) :: ms, after) := by
  rw [members?_member h]
  change (members? fuel rest).map _ = _
  rw [hrest]
  rfl

theorem itemsChars_cons_cons (v w : Json) (vs : List Json) :
    itemsChars (v :: w :: vs) = v.chars ++ ',' :: itemsChars (w :: vs) := by
  rw [itemsChars]
  exact (nomatch ·)

theorem membersChars_cons_cons (k : String) (v : Json) (m : String × Json) (ms : List (String × Json)) :
    membersChars ((k, v) :: m :: ms) = stringChars k ++ ':' :: v.chars ++ ',' :: membersChars (m :: ms) := by
  rw [membersChars]
  exact (nomatch ·)

/-- The text of items begins as that of the first one. -/
theorem exists_itemsChars (v : Json) (vs : List Json) :
    ∃ c cs, itemsChars (v :: vs) = c :: cs ∧ isGap (some c) = false ∧ c ≠ ']' := by
  obtain ⟨c, cs, hchars, hc⟩ := exists_chars v
  cases vs with
  | nil => exact ⟨c, cs ++ [']'], by rw [itemsChars, hchars]; rfl, hc⟩
  | cons w vs => exact ⟨c, cs ++ ',' :: itemsChars (w :: vs), by rw [itemsChars_cons_cons, hchars]; rfl, hc⟩

/-- The text of members begins with the quote of the first name. -/
theorem exists_membersChars (k : String) (v : Json) (ms : List (String × Json)) :
    ∃ cs, membersChars ((k, v) :: ms) = '"' :: cs := by
  cases ms with
  | nil => exact ⟨_, by rw [membersChars, stringChars]; rfl⟩
  | cons m ms => exact ⟨_, by rw [membersChars_cons_cons, stringChars]; rfl⟩

-- One unit of fuel is spent on each value, item and member on the way down, and every one of these has a character
-- of its own in the text. So what is left of the fuel stays at least as long as what is left of the text, and the
-- recursion is on the value.
mutual

/-- The text of a value is read as the tree of the value. -/
theorem value?_chars : ∀ (v : Json) (fuel : Nat) (rest : Input), Legible v.floats → v.chars.length ≤ fuel →
    EndsNumber rest → value? fuel (v.chars.map some ++ rest) = some (v.tree, rest)
  | v, 0, rest, _, hfuel, _ => by
    obtain ⟨c, cs, hchars, _⟩ := exists_chars v
    rw [hchars] at hfuel
    exact (Nat.not_succ_le_zero _ hfuel).elim
  | .null, fuel + 1, rest, _, _, _ => by
    rw [chars]
    rfl
  | .bool true, fuel + 1, rest, _, _, _ => by
    rw [chars]
    rfl
  | .bool false, fuel + 1, rest, _, _, _ => by
    rw [chars]
    rfl
  | .number n, fuel + 1, rest, hlegible, _, hrest => by
    rw [value?_number n fuel hrest, isSpelt_of_legible hlegible, tree]
  | .string s, fuel + 1, rest, _, _, _ => by
    rw [chars, tree, value?_string]
  | .array [], fuel + 1, rest, _, _, _ => by
    rw [chars, itemsChars]
    rfl
  | .array (v :: vs), fuel + 1, rest, hlegible, hfuel, _ => by
    rw [chars] at hfuel ⊢
    have hitems := items?_chars v vs fuel rest hlegible (Nat.le_of_succ_le_succ hfuel)
    obtain ⟨c, cs, hchars, hc⟩ := exists_itemsChars v vs
    exact value?_array ⟨c, _, by rw [hchars]; rfl, hc⟩ hitems
  | .object [], fuel + 1, rest, _, _, _ => by
    rw [chars, membersChars]
    rfl
  | .object ((k, v) :: ms), fuel + 1, rest, hlegible, hfuel, _ => by
    rw [chars] at hfuel ⊢
    have hmembers := members?_chars k v ms fuel rest hlegible (Nat.le_of_succ_le_succ hfuel)
    obtain ⟨cs, hchars⟩ := exists_membersChars k v ms
    rw [hchars] at hmembers ⊢
    exact value?_object hmembers

theorem items?_chars : ∀ (v : Json) (vs : List Json) (fuel : Nat) (rest : Input),
    Legible (itemsFloats (v :: vs)) → (itemsChars (v :: vs)).length ≤ fuel →
    items? fuel ((itemsChars (v :: vs)).map some ++ rest) = some (itemTrees (v :: vs), rest)
  | v, vs, 0, rest, _, hfuel => by
    obtain ⟨c, cs, hchars, _⟩ := exists_itemsChars v vs
    rw [hchars] at hfuel
    exact (Nat.not_succ_le_zero _ hfuel).elim
  | v, [], fuel + 1, rest, hlegible, hfuel => by
    rw [itemsChars] at hfuel ⊢
    rw [List.length_append] at hfuel
    rw [List.map_append, List.append_assoc, itemTrees, itemTrees]
    exact items?_last (value?_chars v fuel _ (legible_append.1 hlegible).1 (Nat.le_of_succ_le_succ hfuel)
      (endsNumber_cons (by decide) _))
  | v, w :: vs, fuel + 1, rest, hlegible, hfuel => by
    obtain ⟨hv, hvs⟩ := legible_append.1 hlegible
    rw [itemsChars_cons_cons] at hfuel ⊢
    rw [List.length_append, List.length_cons] at hfuel
    rw [List.map_append, List.append_assoc, itemTrees]
    exact items?_next (value?_chars v fuel _ hv (by omega) (endsNumber_cons (by decide) _))
      (items?_chars w vs fuel rest hvs (by omega))

theorem members?_chars : ∀ (k : String) (v : Json) (ms : List (String × Json)) (fuel : Nat) (rest : Input),
    Legible (membersFloats ((k, v) :: ms)) → (membersChars ((k, v) :: ms)).length ≤ fuel →
    members? fuel ((membersChars ((k, v) :: ms)).map some ++ rest)
      = some (memberTrees ((k, v) :: ms), rest)
  | k, v, ms, 0, rest, _, hfuel => by
    obtain ⟨cs, hchars⟩ := exists_membersChars k v ms
    rw [hchars] at hfuel
    exact (Nat.not_succ_le_zero _ hfuel).elim
  | k, v, [], fuel + 1, rest, hlegible, hfuel => by
    rw [membersChars] at hfuel ⊢
    simp only [List.length_append, List.length_cons] at hfuel
    rw [memberTrees, memberTrees]
    simp only [List.map_append, List.append_assoc, List.map_cons, List.cons_append]
    exact members?_last (value?_chars v fuel _ (legible_append.1 hlegible).1 (by omega)
      (endsNumber_cons (by decide) _))
  | k, v, (l, w) :: ms, fuel + 1, rest, hlegible, hfuel => by
    obtain ⟨hv, hms⟩ := legible_append.1 hlegible
    rw [membersChars_cons_cons] at hfuel ⊢
    simp only [List.length_append, List.length_cons] at hfuel
    rw [memberTrees]
    simp only [List.map_append, List.append_assoc, List.map_cons, List.cons_append]
    exact members?_next (value?_chars v fuel _ hv (by omega) (endsNumber_cons (by decide) _))
      (members?_chars l w ms fuel rest hms (by omega))

end

end Reader

theorem Tree.read?_chars {v : Json} (h : Legible v.floats) : Tree.read? (v.chars.map some) = some v.tree := by
  have hvalue := Reader.value?_chars v (v.chars.length + 1) [] h (Nat.le_succ _) Reader.endsNumber_nil
  rw [List.append_nil] at hvalue
  rw [Tree.read?, List.length_map, hvalue]
  rfl

/-! ## Values of trees -/

theorem putMember_eq_append {name : String} {value : Json} {ms : List (String × Json)}
    (h : hasMember name ms = false) : putMember name value ms = ms ++ [(name, value)] := by
  induction ms with
  | nil => rfl
  | cons m ms ih =>
    obtain ⟨k, v⟩ := m
    simp only [hasMember, List.any_cons, Bool.or_eq_false_iff, beq_eq_false_iff_ne] at h
    rw [putMember, if_neg h.1, ih h.2, List.cons_append]

mutual

/-- The tree of a keyed value has that value, where the budget allows for the nesting. -/
theorem value?_tree : ∀ (v : Json) (budget : Nat), v.isKeyed = true → v.nesting ≤ budget →
    v.tree.value? budget = some v
  | .null, _, _, _ => by rw [tree, Tree.value?]
  | .bool _, _, _, _ => by rw [tree, Tree.value?]
  | .number _, _, _, _ => by rw [tree, Tree.value?, Option.map_some]
  | .string _, _, _, _ => by rw [tree, Tree.value?, Text.whole?_placesOf, Option.map_some]
  | .array _, 0, _, hbudget => by
    rw [nesting] at hbudget
    exact (Nat.not_succ_le_zero _ hbudget).elim
  | .array vs, budget + 1, hkeyed, hbudget => by
    rw [isKeyed] at hkeyed
    rw [nesting] at hbudget
    rw [tree, Tree.value?, itemValues?_itemTrees vs budget hkeyed (Nat.le_of_succ_le_succ hbudget), Option.map_some]
  | .object _, 0, _, hbudget => by
    rw [nesting] at hbudget
    exact (Nat.not_succ_le_zero _ hbudget).elim
  | .object ms, budget + 1, hkeyed, hbudget => by
    rw [isKeyed] at hkeyed
    rw [nesting] at hbudget
    rw [tree, Tree.value?,
      memberValues?_memberTrees ms budget [] hkeyed (Nat.le_of_succ_le_succ hbudget) (fun _ _ => rfl),
      Option.map_some, List.nil_append]

theorem itemValues?_itemTrees : ∀ (vs : List Json) (budget : Nat), itemsKeyed vs = true →
    itemsNesting vs ≤ budget → Tree.itemValues? budget (itemTrees vs) = some vs
  | [], _, _, _ => by rw [itemTrees, Tree.itemValues?]
  | v :: vs, budget, hkeyed, hbudget => by
    rw [itemsKeyed, Bool.and_eq_true] at hkeyed
    rw [itemsNesting, Nat.max_le] at hbudget
    rw [itemTrees, Tree.itemValues?, value?_tree v budget hkeyed.1 hbudget.1]
    dsimp only
    rw [itemValues?_itemTrees vs budget hkeyed.2 hbudget.2, Option.map_some]

/-- No name of the members stands among those before, so that each member takes a new place. -/
theorem memberValues?_memberTrees : ∀ (ms : List (String × Json)) (budget : Nat)
    (before : List (String × Json)), membersKeyed ms = true → membersNesting ms ≤ budget →
    (∀ m ∈ ms, hasMember m.1 before = false) →
    Tree.memberValues? budget before (memberTrees ms) = some (before ++ ms)
  | [], _, _, _, _, _ => by rw [memberTrees, Tree.memberValues?, List.append_nil]
  | (k, v) :: ms, budget, before, hkeyed, hbudget, hnew => by
    rw [membersKeyed, Bool.and_eq_true, Bool.and_eq_true, Bool.not_eq_true'] at hkeyed
    rw [membersNesting, Nat.max_le] at hbudget
    have hlater : ∀ m ∈ ms, hasMember m.1 (before ++ [(k, v)]) = false := by
      intro m hm
      have hk : k ≠ m.1 := fun h => by
        simp only [hasMember, List.any_eq_false, beq_iff_eq] at hkeyed
        exact hkeyed.1.1 m hm h.symm
      have hbefore := hnew m (List.mem_cons_of_mem _ hm)
      simp only [hasMember, List.any_append, List.any_cons, List.any_nil, Bool.or_false,
        Bool.or_eq_false_iff, beq_eq_false_iff_ne] at hbefore ⊢
      exact ⟨hbefore, hk⟩
    rw [memberTrees, Tree.memberValues?, Text.whole?_placesOf, value?_tree v budget hkeyed.1.2 hbudget.1]
    dsimp only
    rw [putMember_eq_append (hnew _ List.mem_cons_self),
      memberValues?_memberTrees ms budget _ hkeyed.2 hbudget.2 hlater, List.append_assoc]
    rfl

end

theorem membersNesting_putMember_le (name : String) (value : Json) (ms : List (String × Json)) :
    membersNesting (putMember name value ms) ≤ max value.nesting (membersNesting ms) := by
  induction ms with
  | nil => simp [putMember, membersNesting]
  | cons m ms ih =>
    obtain ⟨k, v⟩ := m
    rw [putMember]
    split
    · simp only [membersNesting]
      omega
    · simp only [membersNesting]
      omega

mutual

/-- What a budget was enough for does not nest deeper. -/
theorem nesting_le_of_value? : ∀ (t : Tree) (budget : Nat) {v : Json}, t.value? budget = some v →
    v.nesting ≤ budget
  | .null, _, v, h => by
    rw [Tree.value?] at h
    cases h
    exact Nat.zero_le _
  | .bool _, _, v, h => by
    rw [Tree.value?] at h
    cases h
    exact Nat.zero_le _
  | .number _, _, v, h => by
    obtain ⟨n, -, rfl⟩ := Option.map_eq_some_iff.1 h
    exact Nat.zero_le _
  | .string _, _, v, h => by
    obtain ⟨s, -, rfl⟩ := Option.map_eq_some_iff.1 h
    exact Nat.zero_le _
  | .array _, 0, v, h => nomatch h
  | .array ts, budget + 1, v, h => by
    obtain ⟨vs, hvs, rfl⟩ := Option.map_eq_some_iff.1 h
    exact Nat.succ_le_succ (itemsNesting_le_of_itemValues? ts budget hvs)
  | .object _, 0, v, h => nomatch h
  | .object ts, budget + 1, v, h => by
    obtain ⟨ms, hms, rfl⟩ := Option.map_eq_some_iff.1 h
    exact Nat.succ_le_succ (membersNesting_le_of_memberValues? ts budget (Nat.zero_le _) hms)

theorem itemsNesting_le_of_itemValues? : ∀ (ts : List Tree) (budget : Nat) {vs : List Json},
    Tree.itemValues? budget ts = some vs → itemsNesting vs ≤ budget
  | [], _, vs, h => by
    rw [Tree.itemValues?] at h
    cases h
    exact Nat.zero_le _
  | t :: ts, budget, vs, h => by
    rw [Tree.itemValues?] at h
    split at h
    · nomatch h
    · rename_i v hv
      obtain ⟨ws, hws, rfl⟩ := Option.map_eq_some_iff.1 h
      exact Nat.max_le.2 ⟨nesting_le_of_value? t budget hv, itemsNesting_le_of_itemValues? ts budget hws⟩

theorem membersNesting_le_of_memberValues? : ∀ (ts : List (List (Option Char) × Tree)) (budget : Nat)
    {before ms : List (String × Json)}, membersNesting before ≤ budget →
    Tree.memberValues? budget before ts = some ms → membersNesting ms ≤ budget
  | [], _, before, ms, hbefore, h => by
    rw [Tree.memberValues?] at h
    cases h
    exact hbefore
  | (k, t) :: ts, budget, before, ms, hbefore, h => by
    rw [Tree.memberValues?] at h
    split at h
    · rename_i name v hname hv
      have hput := membersNesting_putMember_le name v before
      exact membersNesting_le_of_memberValues? ts budget
        (Nat.le_trans hput (Nat.max_le.2 ⟨nesting_le_of_value? t budget hv, hbefore⟩)) h
    · nomatch h

end

/-! ## Whole texts -/

@[simp] theorem placesOf_text (v : Json) : Text.placesOf v.text = v.chars.map some := by
  rw [Text.placesOf, text, String.toList_ofList]

theorem read?_text_number (n : Number) :
    read? (Json.number n).text = (Number.ofLiteral? n.literal).map Json.number := by
  have hvalue := Reader.value?_number n (Json.number n).chars.length Reader.endsNumber_nil
  rw [List.append_nil] at hvalue
  rw [read?, placesOf_text, Tree.read?, List.length_map, hvalue]
  rfl

/-- A number is that of its spelling when its text is read as the number again. -/
theorem isSpelt_iff_read?_text {n : Number} : n.IsSpelt ↔ read? (Json.number n).text = some (.number n) := by
  rw [read?_text_number, Number.IsSpelt]
  constructor
  · intro h
    rw [h, Option.map_some]
  · intro h
    obtain ⟨m, hm, heq⟩ := Option.map_eq_some_iff.1 h
    cases heq
    exact hm

end SecurityEvents.Json
