import SecurityEvents.Configuration
set_option autoImplicit false

/-!
# Numbers in variables

A text stands for a number if, without the blanks around it, it is made of decimal digits, after a plus sign or none
(`Denotes`). Reading gives that number if it fits into sixty-four bits (`readCount_trim_eq_ok_iff`). A text that is not
read has one fault: nothing is there, or what comes first is a character that is no digit, or digits of a number that
does not fit (`readCount_trim_eq_error_iff`).
-/

namespace SecurityEvents

/-! ## Blanks around a text -/

namespace Text

/-- The text is these characters with blanks around them, of which they have none at their own ends. -/
def Trims (cs core : List Char) : Prop :=
  ∃ before after, cs = before ++ (core ++ after) ∧ (∀ c ∈ before, isBlank c = true)
    ∧ (∀ c ∈ after, isBlank c = true) ∧ (∀ c, core.head? = some c → isBlank c = false)
    ∧ ∀ c, core.getLast? = some c → isBlank c = false

/-- Dropping stops where the first thing is that need not go. -/
theorem dropWhile_append_eq {p : Char → Bool} {before rest : List Char} (hbefore : ∀ c ∈ before, p c = true)
    (hrest : ∀ c, rest.head? = some c → p c = false) : (before ++ rest).dropWhile p = rest := by
  rw [List.dropWhile_append_of_pos hbefore]
  cases rest with
  | nil => rfl
  | cons c rest => exact List.dropWhile_cons_of_neg (Bool.eq_false_iff.1 (hrest c rfl))

theorem exists_eq_append_dropWhile (p : Char → Bool) (cs : List Char) :
    ∃ before, cs = before ++ cs.dropWhile p ∧ (∀ c ∈ before, p c = true)
      ∧ ∀ c, (cs.dropWhile p).head? = some c → p c = false := by
  refine ⟨cs.takeWhile p, List.takeWhile_append_dropWhile.symm, List.all_eq_true.1 List.all_takeWhile, ?_⟩
  intro c hc
  have hfirst := List.head?_dropWhile_not p cs
  rwa [hc] at hfirst

theorem Trims.trim_eq {cs core : List Char} (h : Trims cs core) : trim cs = core := by
  obtain ⟨before, after, rfl, hbefore, hafter, hhead, hlast⟩ := h
  cases core with
  | nil =>
    have hall : ∀ c ∈ before ++ after, isBlank c = true := List.forall_mem_append.2 ⟨hbefore, hafter⟩
    have hnone : (before ++ after ++ []).dropWhile isBlank = [] := dropWhile_append_eq hall fun _ h => nomatch h
    rw [List.append_nil] at hnone
    rw [trim, List.nil_append, hnone]
    rfl
  | cons c core =>
    have hfront : (before ++ (c :: core ++ after)).dropWhile isBlank = c :: core ++ after :=
      dropWhile_append_eq hbefore fun d hd => hhead d hd
    have hback : (after.reverse ++ (c :: core).reverse).dropWhile isBlank = (c :: core).reverse :=
      dropWhile_append_eq (fun d hd => hafter d (List.mem_reverse.1 hd)) fun d hd =>
        hlast d (List.head?_reverse.symm.trans hd)
    rw [trim, hfront, List.reverse_append, hback, List.reverse_reverse]

/-- Trimming takes all blanks off, and nothing else. -/
theorem trims_iff {cs core : List Char} : Trims cs core ↔ trim cs = core := by
  refine ⟨Trims.trim_eq, ?_⟩
  rintro rfl
  obtain ⟨before, hbefore, hblank, hhead⟩ := exists_eq_append_dropWhile isBlank cs
  obtain ⟨after, hafter, hblank', hlast⟩ := exists_eq_append_dropWhile isBlank (cs.dropWhile isBlank).reverse
  have hrest : cs.dropWhile isBlank = trim cs ++ after.reverse := by
    rw [← List.reverse_inj, hafter, List.reverse_append, List.reverse_reverse, trim, List.reverse_reverse]
  refine ⟨before, after.reverse, ?_, hblank, fun c hc => hblank' c (List.mem_reverse.1 hc), ?_, ?_⟩
  · rw [← hrest, ← hbefore]
  · intro c hc
    refine hhead c ?_
    rw [hrest, List.head?_append, hc]
    rfl
  · intro c hc
    refine hlast c ?_
    rw [← List.getLast?_reverse]
    exact hc

end Text

/-! ## Digits -/

namespace Decimal

/-- The number that begins with `value` and goes on with these digits. -/
def extend (value : Nat) (ds : List Nat) : Nat :=
  ds.foldl (fun value d => value * 10 + d) value

theorem le_extend (value : Nat) (ds : List Nat) : value ≤ extend value ds := by
  induction ds generalizing value with
  | nil => exact Nat.le_refl value
  | cons d ds ih =>
    have hrest := ih (value * 10 + d)
    rw [extend, List.foldl_cons]
    rw [extend] at hrest
    omega

/-- Different digits have different characters. -/
theorem digitChar_inj {d e : Nat} (hd : d < 10) (he : e < 10) (h : digitChar d = digitChar e) : d = e :=
  Option.some.inj ((digit?_digitChar hd).symm.trans (h ▸ digit?_digitChar he))

end Decimal

open Decimal

/-- The characters are these digits. -/
def Digits (cs : List Char) (ds : List Nat) : Prop :=
  (∀ d ∈ ds, d < 10) ∧ cs = ds.map digitChar

/-- What is at fault with characters that are to go on with a number: a character behind digits that is no digit, or
digits that make the number too large, whatever comes behind them. -/
inductive DigitFault (value : Nat) (cs : List Char) : NumberFault → Prop where
  | invalidDigit {before after : List Char} {ds : List Nat} {c : Char} (hcs : cs = before ++ c :: after)
    (hdigits : Digits before ds) (hfits : extend value ds < UInt64.size) (hc : ∀ d < 10, c ≠ digitChar d) :
    DigitFault value cs .invalidDigit
  | tooLarge {before after : List Char} {ds : List Nat} (hcs : cs = before ++ after) (hdigits : Digits before ds)
    (hlarge : UInt64.size ≤ extend value ds) : DigitFault value cs .tooLarge

theorem digits_nil : Digits [] [] :=
  ⟨fun _ hd => (List.not_mem_nil hd).elim, rfl⟩

theorem digits_cons {cs : List Char} {ds : List Nat} {d : Nat} (hd : d < 10) (h : Digits cs ds) :
    Digits (digitChar d :: cs) (d :: ds) :=
  ⟨List.forall_mem_cons.2 ⟨hd, h.1⟩, congrArg _ h.2⟩

theorem exists_of_digits_cons {cs : List Char} {c : Char} {ds : List Nat} (h : Digits (c :: cs) ds) :
    ∃ d rest, ds = d :: rest ∧ d < 10 ∧ c = digitChar d ∧ Digits cs rest := by
  obtain ⟨hlt, hcs⟩ := h
  cases ds with
  | nil => cases hcs
  | cons d rest =>
    obtain ⟨rfl, rfl⟩ := List.cons.inj hcs
    obtain ⟨hd, hrest⟩ := List.forall_mem_cons.1 hlt
    exact ⟨d, rest, rfl, hd, rfl, hrest, rfl⟩

/-- Digits are read as the number they make, if it fits. -/
theorem countFrom_eq_ok_iff {value n : Nat} {cs : List Char} (hvalue : value < UInt64.size) :
    countFrom value cs = .ok n ↔ ∃ ds, Digits cs ds ∧ extend value ds = n ∧ n < UInt64.size := by
  induction cs generalizing value with
  | nil =>
    constructor
    · rintro ⟨⟩
      exact ⟨[], digits_nil, rfl, hvalue⟩
    · rintro ⟨ds, ⟨_, hnil⟩, rfl, _⟩
      obtain rfl := List.map_eq_nil_iff.1 hnil.symm
      rfl
  | cons c cs ih =>
    rw [countFrom]
    cases hc : digit? c with
    | none =>
      refine iff_of_false (fun h => nomatch h) ?_
      rintro ⟨ds, hdigits, _⟩
      obtain ⟨d, _, _, hd, rfl, _⟩ := exists_of_digits_cons hdigits
      cases hc.symm.trans (digit?_digitChar hd)
    | some d =>
      obtain ⟨hd, rfl⟩ := digit?_eq_some_iff.1 hc
      have hall : (∃ ds, Digits (digitChar d :: cs) ds ∧ extend value ds = n ∧ n < UInt64.size)
          ↔ ∃ ds, Digits cs ds ∧ extend (value * 10 + d) ds = n ∧ n < UInt64.size := by
        constructor
        · rintro ⟨_, hdigits, hn⟩
          obtain ⟨e, rest, rfl, he, heq, hrest⟩ := exists_of_digits_cons hdigits
          obtain rfl := digitChar_inj hd he heq
          exact ⟨rest, hrest, hn⟩
        · rintro ⟨ds, hdigits, hn⟩
          exact ⟨d :: ds, digits_cons hd hdigits, hn⟩
      rw [hall]
      dsimp only
      split
      · rename_i hfits
        exact ih hfits
      · rename_i hlarge
        refine iff_of_false (fun h => nomatch h) ?_
        rintro ⟨ds, _, rfl, hn⟩
        exact hlarge (Nat.lt_of_le_of_lt (le_extend _ ds) hn)

/-- Digits in front of characters are none of them, or the first character is the first digit. -/
theorem digits_prefix_cases {cs before after : List Char} {c : Char} {ds : List Nat} (h : Digits before ds)
    (hcs : c :: cs = before ++ after) :
    (ds = [] ∧ c :: cs = after)
    ∨ ∃ d rest tail, ds = d :: rest ∧ d < 10 ∧ c = digitChar d ∧ Digits tail rest ∧ cs = tail ++ after := by
  cases before with
  | nil => exact .inl ⟨List.map_eq_nil_iff.1 h.2.symm, hcs⟩
  | cons c' tail =>
    obtain ⟨d, rest, rfl, hd, rfl, hrest⟩ := exists_of_digits_cons h
    obtain ⟨rfl, rfl⟩ := List.cons.inj hcs
    exact .inr ⟨d, rest, tail, rfl, hd, rfl, hrest, rfl⟩

section DigitFault

variable {value d : Nat} {cs : List Char} {c : Char} {fault : NumberFault}

theorem not_digitFault_nil (hvalue : value < UInt64.size) : ¬ DigitFault value [] fault := by
  intro h
  cases h with
  | invalidDigit hcs =>
    obtain ⟨_, hnone⟩ := List.append_eq_nil_iff.1 hcs.symm
    cases hnone
  | tooLarge hcs hdigits hlarge =>
    obtain ⟨rfl, _⟩ := List.append_eq_nil_iff.1 hcs.symm
    obtain rfl := List.map_eq_nil_iff.1 hdigits.2.symm
    exact Nat.not_lt_of_le hlarge hvalue

/-- A number that is too large does not become smaller. -/
theorem digitFault_iff_of_large (hvalue : UInt64.size ≤ value) : DigitFault value cs fault ↔ fault = .tooLarge := by
  constructor
  · intro h
    cases h with
    | invalidDigit _ _ hfits => exact (Nat.not_lt_of_le (Nat.le_trans hvalue (le_extend _ _)) hfits).elim
    | tooLarge => rfl
  · rintro rfl
    exact .tooLarge (List.nil_append cs).symm digits_nil hvalue

theorem digitFault_cons_iff_of_not_digit (hvalue : value < UInt64.size) (hc : ∀ d < 10, c ≠ digitChar d) :
    DigitFault value (c :: cs) fault ↔ fault = .invalidDigit := by
  constructor
  · intro h
    cases h with
    | invalidDigit => rfl
    | tooLarge hcs hdigits hlarge =>
      rcases digits_prefix_cases hdigits hcs with ⟨rfl, _⟩ | ⟨d, _, _, _, hd, hdigit, _⟩
      · exact (Nat.not_lt_of_le hlarge hvalue).elim
      · exact (hc d hd hdigit).elim
  · rintro rfl
    exact .invalidDigit (List.nil_append _).symm digits_nil hvalue hc

theorem digitFault_cons_iff_of_digit (hvalue : value < UInt64.size) (hd : d < 10) :
    DigitFault value (digitChar d :: cs) fault ↔ DigitFault (value * 10 + d) cs fault := by
  constructor
  · intro h
    cases h with
    | invalidDigit hcs hdigits hfits hc =>
      rcases digits_prefix_cases hdigits hcs with ⟨rfl, hfirst⟩ | ⟨e, rest, tail, rfl, he, heq, hrest, rfl⟩
      · exact (hc d hd (List.cons.inj hfirst).1.symm).elim
      · obtain rfl := digitChar_inj hd he heq
        exact .invalidDigit rfl hrest hfits hc
    | tooLarge hcs hdigits hlarge =>
      rcases digits_prefix_cases hdigits hcs with ⟨rfl, _⟩ | ⟨e, rest, tail, rfl, he, heq, hrest, rfl⟩
      · exact (Nat.not_lt_of_le hlarge hvalue).elim
      · obtain rfl := digitChar_inj hd he heq
        exact .tooLarge rfl hrest hlarge
  · intro h
    cases h with
    | invalidDigit hcs hdigits hfits hc =>
      exact .invalidDigit (congrArg (digitChar d :: ·) hcs) (digits_cons hd hdigits) hfits hc
    | tooLarge hcs hdigits hlarge =>
      exact .tooLarge (congrArg (digitChar d :: ·) hcs) (digits_cons hd hdigits) hlarge

theorem countFrom_eq_error_iff (hvalue : value < UInt64.size) :
    countFrom value cs = .error fault ↔ DigitFault value cs fault := by
  -- The number before the characters fits at every point: where it does not, the digit before was at fault.
  induction cs generalizing value with
  | nil => exact iff_of_false (fun h => nomatch h) (not_digitFault_nil hvalue)
  | cons c cs ih =>
    rw [countFrom]
    cases hc : digit? c with
    | none =>
      have hnot (d : Nat) (hd : d < 10) : c ≠ digitChar d := by
        rintro rfl
        cases hc.symm.trans (digit?_digitChar hd)
      rw [digitFault_cons_iff_of_not_digit hvalue hnot]
      exact ⟨fun h => (Except.error.inj h).symm, fun h => congrArg _ h.symm⟩
    | some d =>
      obtain ⟨hd, rfl⟩ := digit?_eq_some_iff.1 hc
      rw [digitFault_cons_iff_of_digit hvalue hd]
      dsimp only
      split
      · rename_i hfits
        exact ih hfits
      · rename_i hlarge
        rw [digitFault_iff_of_large (Nat.le_of_not_lt hlarge)]
        exact ⟨fun h => (Except.error.inj h).symm, fun h => congrArg _ h.symm⟩

end DigitFault

/-! ## Texts -/

/-- The characters spell the number: decimal digits, after a plus sign or none. -/
def Spells (cs : List Char) (n : Nat) : Prop :=
  ∃ body ds, (cs = body ∨ cs = '+' :: body) ∧ ds ≠ [] ∧ Digits body ds ∧ ofDigits ds = n

/-- What is at fault with characters that are to spell a number. A plus sign counts as one only in front of something
else. -/
inductive Misspells : List Char → NumberFault → Prop where
  | empty : Misspells [] .empty
  | signed {body : List Char} {fault : NumberFault} (hbody : body ≠ []) (h : DigitFault 0 body fault) :
    Misspells ('+' :: body) fault
  | unsigned {cs : List Char} {fault : NumberFault} (hcs : cs ≠ [])
    (hsign : ∀ body, cs = '+' :: body → body = []) (h : DigitFault 0 cs fault) : Misspells cs fault

/-- The text stands for the number, with blanks around it or none. -/
def Denotes (text : String) (n : Nat) : Prop :=
  ∃ core, Text.Trims text.toList core ∧ Spells core n

/-- The text stands for no number that fits, because of the fault. -/
def Misdenotes (text : String) (fault : NumberFault) : Prop :=
  ∃ core, Text.Trims text.toList core ∧ Misspells core fault

theorem readCount_signed {body : List Char} (hbody : body ≠ []) : readCount ('+' :: body) = countFrom 0 body := by
  obtain ⟨c, rest, rfl⟩ := List.exists_cons_of_ne_nil hbody
  rfl

theorem readCount_unsigned {cs : List Char} (hcs : cs ≠ []) (hsign : ∀ body, cs = '+' :: body → body = []) :
    readCount cs = countFrom 0 cs := by
  unfold readCount
  split
  · exact (hcs rfl).elim
  · cases hsign _ rfl
  · rfl

theorem nil_or_signed_or_unsigned (cs : List Char) :
    cs = [] ∨ (∃ body, body ≠ [] ∧ cs = '+' :: body) ∨ (cs ≠ [] ∧ ∀ body, cs = '+' :: body → body = []) := by
  by_cases hsigned : ∃ body, body ≠ [] ∧ cs = '+' :: body
  · exact .inr (.inl hsigned)
  · by_cases hnil : cs = []
    · exact .inl hnil
    · refine .inr (.inr ⟨hnil, fun body hbody => ?_⟩)
      exact Classical.byContradiction fun hne => hsigned ⟨body, hne, hbody⟩

theorem Digits.ne_nil {cs : List Char} {ds : List Nat} (h : Digits cs ds) (hds : ds ≠ []) : cs ≠ [] :=
  fun hnil => hds (List.map_eq_nil_iff.1 (h.2.symm.trans hnil))

theorem zero_lt_size : 0 < UInt64.size := by
  decide

theorem readCount_eq_ok_iff {cs : List Char} {n : Nat} : readCount cs = .ok n ↔ Spells cs n ∧ n < UInt64.size := by
  have hplus {body : List Char} {ds : List Nat} (hdigits : Digits ('+' :: body) ds) : False := by
    obtain ⟨d, _, _, hd, hplus, _⟩ := exists_of_digits_cons hdigits
    have hdigit := digit?_digitChar hd
    rw [← hplus] at hdigit
    cases hdigit
  rcases nil_or_signed_or_unsigned cs with rfl | ⟨body, hbody, rfl⟩ | ⟨hcs, hsign⟩
  · refine iff_of_false (fun h => nomatch h) ?_
    rintro ⟨⟨body, ds, rfl | hcs, hds, hdigits, _⟩, _⟩
    · exact hdigits.ne_nil hds rfl
    · cases hcs
  · rw [readCount_signed hbody, countFrom_eq_ok_iff zero_lt_size]
    constructor
    · rintro ⟨ds, hdigits, hvalue, hn⟩
      refine ⟨⟨body, ds, .inr rfl, ?_, hdigits, hvalue⟩, hn⟩
      rintro rfl
      exact hbody hdigits.2
    · rintro ⟨⟨body', ds, rfl | hcs, _, hdigits, hvalue⟩, hn⟩
      · exact (hplus hdigits).elim
      · obtain rfl := (List.cons.inj hcs).2
        exact ⟨ds, hdigits, hvalue, hn⟩
  · rw [readCount_unsigned hcs hsign, countFrom_eq_ok_iff zero_lt_size]
    constructor
    · rintro ⟨ds, hdigits, hvalue, hn⟩
      refine ⟨⟨cs, ds, .inl rfl, ?_, hdigits, hvalue⟩, hn⟩
      rintro rfl
      exact hcs hdigits.2
    · rintro ⟨⟨body, ds, rfl | hbody, hds, hdigits, hvalue⟩, hn⟩
      · exact ⟨ds, hdigits, hvalue, hn⟩
      · exact (hdigits.ne_nil hds (hsign body hbody)).elim

theorem readCount_eq_error_iff {cs : List Char} {fault : NumberFault} :
    readCount cs = .error fault ↔ Misspells cs fault := by
  rcases nil_or_signed_or_unsigned cs with rfl | ⟨body, hbody, rfl⟩ | ⟨hcs, hsign⟩
  · constructor
    · rintro ⟨⟩
      exact .empty
    · intro h
      cases h with
      | empty => rfl
      | unsigned hcs => exact (hcs rfl).elim
  · rw [readCount_signed hbody, countFrom_eq_error_iff zero_lt_size]
    refine ⟨.signed hbody, fun h => ?_⟩
    cases h with
    | signed _ h => exact h
    | unsigned _ hsign => exact (hbody (hsign body rfl)).elim
  · rw [readCount_unsigned hcs hsign, countFrom_eq_error_iff zero_lt_size]
    refine ⟨.unsigned hcs hsign, fun h => ?_⟩
    cases h with
    | empty => exact (hcs rfl).elim
    | signed hbody => exact (hbody (hsign _ rfl)).elim
    | unsigned _ _ h => exact h

/-- A number is read from a text exactly if the text stands for it and it fits. -/
theorem readCount_trim_eq_ok_iff {text : String} {n : Nat} :
    readCount (Text.trim text.toList) = .ok n ↔ Denotes text n ∧ n < UInt64.size := by
  rw [readCount_eq_ok_iff]
  constructor
  · rintro ⟨hspells, hn⟩
    exact ⟨⟨_, Text.trims_iff.2 rfl, hspells⟩, hn⟩
  · rintro ⟨⟨core, htrims, hspells⟩, hn⟩
    rw [Text.trims_iff.1 htrims]
    exact ⟨hspells, hn⟩

/-- What reading reports is what is at fault. -/
theorem readCount_trim_eq_error_iff {text : String} {fault : NumberFault} :
    readCount (Text.trim text.toList) = .error fault ↔ Misdenotes text fault := by
  rw [readCount_eq_error_iff]
  constructor
  · intro h
    exact ⟨_, Text.trims_iff.2 rfl, h⟩
  · rintro ⟨core, htrims, h⟩
    rwa [Text.trims_iff.1 htrims]

end SecurityEvents
