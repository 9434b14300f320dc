import SecurityEvents.Json.Reader
set_option autoImplicit false

/-!
# Spellings of numbers are read back

A spelling that follows the grammar (`Literal.WellFormed`) is read back from its characters, whatever follows them
that cannot continue a number. The spellings that are written follow the grammar, those of floats included, and an
integer is the number of its own spelling.
-/

namespace SecurityEvents

namespace Decimal

theorem digits_zero : digits 0 = [0] := by
  rw [digits, if_pos (by decide)]

/-- The leading digit of a number above zero is not zero. -/
theorem head?_digits_ne_zero {n : Nat} (h : 0 < n) : (digits n).head? ≠ some 0 := by
  fun_induction digits n with
  | case1 n hn =>
    intro hzero
    cases hzero
    omega
  | case2 n hn ih =>
    cases hhead : (digits (n / 10)).head? with
    | none => exact (digits_ne_nil _ (List.head?_eq_none_iff.1 hhead)).elim
    | some d =>
      rw [List.head?_append, hhead, Option.some_or, ← hhead]
      exact ih (by omega)

/-- A digit is written as a digit and as nothing that stands elsewhere in a text. -/
theorem digitChar_ne {d : Nat} (h : d < 10) (c : Char) (hc : digit? c = none) : digitChar d ≠ c := by
  rintro rfl
  rw [digit?_digitChar h] at hc
  cases hc

end Decimal

namespace Json

/-! ## The grammar -/

/-- The spelling follows the grammar: there is a whole part without a needless zero in front, and an exponent has
digits if there is one. -/
structure Literal.WellFormed (l : Literal) : Prop where
  whole_ne_nil : l.whole ≠ []
  whole_lt : ∀ d ∈ l.whole, d < 10
  leading : l.whole.head? = some 0 → l.whole = [0]
  fraction_lt : ∀ d ∈ l.fraction, d < 10
  exponent_ne_nil : ∀ e ∈ l.exponent, e.2 ≠ []
  exponent_lt : ∀ e ∈ l.exponent, ∀ d ∈ e.2, d < 10

/-- The input does not continue a number. -/
def Reader.EndsNumber (input : Reader.Input) : Prop :=
  ∀ c rest, input = some c :: rest → Decimal.digit? c = none ∧ c ≠ '.' ∧ c ≠ 'e' ∧ c ≠ 'E'

namespace Reader

/-- Digits as they are written. -/
def written (ds : List Nat) : Input :=
  (ds.map Decimal.digitChar).map some

theorem digits_written {ds : List Nat} (hds : ∀ d ∈ ds, d < 10) {rest : Input}
    (hrest : ∀ c after, rest = some c :: after → Decimal.digit? c = none) :
    digits (written ds ++ rest) = (ds, rest) := by
  induction ds with
  | nil =>
    change digits rest = ([], rest)
    cases rest with
    | nil => rfl
    | cons place after =>
      cases place with
      | none => rfl
      | some c => rw [digits, hrest c after rfl]
  | cons d ds ih =>
    have hd := Decimal.digit?_digitChar (hds d List.mem_cons_self)
    have hrest := ih fun e he => hds e (List.mem_cons_of_mem d he)
    change digits (some (Decimal.digitChar d) :: (written ds ++ rest)) = (d :: ds, rest)
    rw [digits, hd]
    dsimp only
    rw [hrest]

theorem digits?_written {ds : List Nat} (hne : ds ≠ []) (hds : ∀ d ∈ ds, d < 10) {rest : Input}
    (hrest : ∀ c after, rest = some c :: after → Decimal.digit? c = none) :
    digits? (written ds ++ rest) = some (ds, rest) := by
  rw [digits?, digits_written hds hrest]
  cases ds with
  | nil => exact (hne rfl).elim
  | cons d ds => rfl

theorem whole?_written {ds : List Nat} (hne : ds ≠ []) (hds : ∀ d ∈ ds, d < 10)
    (hleading : ds.head? = some 0 → ds = [0]) {rest : Input}
    (hrest : ∀ c after, rest = some c :: after → Decimal.digit? c = none) :
    whole? (written ds ++ rest) = some (ds, rest) := by
  rw [whole?, digits?_written hne hds hrest]
  split
  · rename_i hzero
    cases hzero
    cases hleading rfl
  · rfl

/-- The fraction of a spelling, with its point. -/
def fractionChars (ds : List Nat) : List Char :=
  if ds.isEmpty then [] else '.' :: ds.map Decimal.digitChar

theorem fraction?_written {ds : List Nat} (hds : ∀ d ∈ ds, d < 10) {rest : Input}
    (hrest : ∀ c after, rest = some c :: after → Decimal.digit? c = none ∧ c ≠ '.') :
    fraction? ((fractionChars ds).map some ++ rest) = some (ds, rest) := by
  cases ds with
  | nil =>
    change fraction? rest = some ([], rest)
    unfold fraction?
    split
    · exact ((hrest '.' _ rfl).2 rfl).elim
    · rfl
  | cons d ds => exact digits?_written (by simp) hds fun c after h => (hrest c after h).1

/-- The exponent of a spelling, with its letter and its sign. -/
def exponentChars : Option (Bool × List Nat) → List Char
  | none => []
  | some (below, ds) => 'e' :: (if below then '-' else '+') :: ds.map Decimal.digitChar

theorem exponent?_written {exponent : Option (Bool × List Nat)} (hne : ∀ e ∈ exponent, e.2 ≠ [])
    (hds : ∀ e ∈ exponent, ∀ d ∈ e.2, d < 10) {rest : Input} (hrest : EndsNumber rest) :
    exponent? ((exponentChars exponent).map some ++ rest) = some (exponent, rest) := by
  cases exponent with
  | none =>
    change exponent? rest = some (none, rest)
    cases rest with
    | nil => rfl
    | cons place after =>
      cases place with
      | none => rfl
      | some c =>
        obtain ⟨_, _, he, hE⟩ := hrest c after rfl
        simp [exponent?, he, hE]
  | some e =>
    obtain ⟨below, ds⟩ := e
    have hread := digits?_written (hne _ rfl) (hds _ rfl) fun c after h => (hrest c after h).1
    cases below with
    | false =>
      change (digits? (written ds ++ rest)).map _ = _
      rw [hread]
      rfl
    | true =>
      change (digits? (written ds ++ rest)).map _ = _
      rw [hread]
      rfl

/-- A well-formed spelling is read back. -/
theorem number?_chars {l : Literal} (hl : l.WellFormed) {rest : Input} (hrest : EndsNumber rest) :
    number? (l.chars.map some ++ rest) = some (l, rest) := by
  have hexponent := exponent?_written hl.exponent_ne_nil hl.exponent_lt hrest
  have hafter : ∀ c after, (exponentChars l.exponent).map some ++ rest = some c :: after →
      Decimal.digit? c = none ∧ c ≠ '.' := by
    intro c after h
    cases he : l.exponent with
    | none =>
      rw [he] at h
      exact ⟨(hrest c after h).1, (hrest c after h).2.1⟩
    | some e =>
      rw [he] at h
      cases h
      decide
  have hfraction := fraction?_written hl.fraction_lt hafter
  have hfollow : ∀ c after, (fractionChars l.fraction).map some ++ ((exponentChars l.exponent).map some ++ rest)
      = some c :: after → Decimal.digit? c = none := by
    intro c after h
    cases hf : l.fraction with
    | nil =>
      rw [hf] at h
      exact (hafter c after h).1
    | cons d ds =>
      rw [hf] at h
      cases h
      decide
  have hwhole := whole?_written hl.whole_ne_nil hl.whole_lt hl.leading hfollow
  have hunsigned (negative : Bool) : unsigned? negative (written l.whole
      ++ ((fractionChars l.fraction).map some ++ ((exponentChars l.exponent).map some ++ rest)))
      = some (⟨negative, l.whole, l.fraction, l.exponent⟩, rest) := by
    rw [unsigned?, hwhole]
    dsimp only
    rw [hfraction]
    dsimp only
    rw [hexponent]
    rfl
  have hchars : l.chars.map some ++ rest = (if l.negative then [some '-'] else []) ++ (written l.whole
      ++ ((fractionChars l.fraction).map some ++ ((exponentChars l.exponent).map some ++ rest))) := by
    simp only [Literal.chars, List.map_append, List.append_assoc, written]
    cases l.negative <;> rfl
  obtain ⟨negative, whole, fraction, exponent⟩ := l
  rw [hchars]
  cases negative with
  | true => exact hunsigned true
  | false =>
    unfold number?
    split
    · rename_i after heq
      cases whole with
      | nil => exact (hl.whole_ne_nil rfl).elim
      | cons d ds =>
        injection heq with hhead _
        exact (Decimal.digitChar_ne (hl.whole_lt d List.mem_cons_self) '-' (by decide)
          (Option.some.inj hhead)).elim
    · exact hunsigned false

end Reader

/-! ## Spellings that are written -/

theorem Literal.wellFormed_integer (negative : Bool) (n : Nat) :
    (⟨negative, Decimal.digits n, [], none⟩ : Literal).WellFormed where
  whole_ne_nil := Decimal.digits_ne_nil n
  whole_lt _ := Decimal.lt_ten_of_mem_digits
  leading h := by
    have hzero : n = 0 := Nat.eq_zero_of_not_pos fun hpos => Decimal.head?_digits_ne_zero hpos h
    subst hzero
    exact Decimal.digits_zero
  fraction_lt _ h := (List.not_mem_nil h).elim
  exponent_ne_nil _ h := nomatch h
  exponent_lt _ h := nomatch h

/-- Laid-out digits are a well-formed spelling if they do not begin with a zero, or zero is all and has no power. -/
theorem FloatLayout.wellFormed_literal (layout : FloatLayout) (negative : Bool) {ds : List Nat} {power : Int}
    (hne : ds ≠ []) (hlt : ∀ d ∈ ds, d < 10) (hleading : ds.head? = some 0 → ds = [0] ∧ power = 0) :
    (layout.literal negative ds power).WellFormed := by
  obtain ⟨d, rest, rfl⟩ := List.exists_cons_of_ne_nil hne
  have hdrop (k : Nat) : ∀ e ∈ (d :: rest).drop k, e < 10 := fun e he => hlt e (List.mem_of_mem_drop he)
  have htake (k : Nat) : ∀ e ∈ (d :: rest).take k, e < 10 := fun e he => hlt e (List.mem_of_mem_take he)
  have hzeros (k : Nat) : ∀ e ∈ List.replicate k 0, e < 10 := by
    intro e he
    rw [List.eq_of_mem_replicate he]
    decide
  unfold literal
  split
  · split
    · exact ⟨by simp, by simp, fun _ => rfl, List.forall_mem_append.2 ⟨hzeros _, hlt⟩, fun _ => (nomatch ·),
        fun _ => (nomatch ·)⟩
    · refine ⟨by simp, List.forall_mem_append.2 ⟨htake _, hzeros _⟩, fun h => ?_, ?_, fun _ => (nomatch ·),
        fun _ => (nomatch ·)⟩
      · obtain ⟨hzero, hpower⟩ := hleading h
        cases hzero
        subst hpower
        rfl
      · dsimp only
        split
        · simp
        · exact hdrop _
  · refine ⟨by simp, htake 1, fun h => ?_, hdrop 1, ?_, ?_⟩
    · obtain ⟨hzero, _⟩ := hleading h
      cases hzero
      rfl
    · intro e he
      cases he
      exact Decimal.digits_ne_nil _
    · intro e he
      cases he
      exact fun _ => Decimal.lt_ten_of_mem_digits

/-- To leave out zeros at the end leaves the first digit. -/
theorem head?_significantDigits (ds : List Nat) : (significantDigits ds).head? = ds.head? := by
  cases ds <;> rfl

theorem subset_significantDigits {ds : List Nat} {d : Nat} (h : d ∈ significantDigits ds) : d ∈ ds := by
  rcases List.mem_append.1 h with h | h
  · exact List.mem_of_mem_take h
  · have hdrop := (List.dropWhile_sublist _).subset (List.mem_reverse.1 h)
    exact List.mem_of_mem_drop (List.mem_reverse.1 hdrop)

end Json

namespace Binary64

theorem units_pos {magnitude : Nat} (h : magnitude ≠ 0) : 0 < units magnitude := by
  unfold units
  split
  · omega
  · rw [Nat.shiftLeft_eq]
    exact Nat.mul_pos (by omega) (Nat.pow_pos (by decide))

theorem significand_exactDecimal_pos {magnitude : Nat} (h : magnitude ≠ 0) :
    0 < (exactDecimal magnitude).significand := by
  have hpower (k : Nat) : 0 < Nat.pow 5 k := Nat.pow_pos (by decide)
  unfold exactDecimal
  apply Nat.mul_pos (units_pos h)
  apply hpower

/-- A number that is not zero is not written with a zero significand, for the number nearest to that is zero. -/
theorem significand_shortestDecimal_pos {magnitude : Nat} (h : magnitude ≠ 0) :
    0 < (shortestDecimal magnitude).significand := by
  rw [shortestDecimal, if_neg h]
  cases hfind : ((List.range 17).flatMap fun i => neighbours magnitude (i + 1)).find?
      (isNearest magnitude) with
  | none => exact significand_exactDecimal_pos h
  | some d =>
    apply Nat.pos_of_ne_zero
    intro hzero
    have hnearest : isNearest magnitude d = true := List.find?_some hfind
    change d.significand = 0 at hzero
    rw [isNearest, nearest?, if_pos hzero] at hnearest
    exact h (Option.some.inj (beq_iff_eq.1 hnearest)).symm

end Binary64

namespace Json

theorem wellFormed_floatLiteral (x : Binary64) : (floatLiteral x).WellFormed := by
  have hne (n : Nat) : significantDigits (Decimal.digits n) ≠ [] := by
    intro hnil
    have hhead := head?_significantDigits (Decimal.digits n)
    rw [hnil] at hhead
    exact Decimal.digits_ne_nil n (List.head?_eq_none_iff.1 hhead.symm)
  apply FloatLayout.wellFormed_literal _ _ (hne _)
  · exact fun d hd => Decimal.lt_ten_of_mem_digits (subset_significantDigits hd)
  · intro hleading
    rw [head?_significantDigits] at hleading
    by_cases hzero : x.magnitude = 0
    · have hshortest : Binary64.shortestDecimal x.magnitude = ⟨0, 0⟩ := if_pos hzero
      rw [hshortest, Decimal.digits_zero]
      exact ⟨rfl, rfl⟩
    · exact (Decimal.head?_digits_ne_zero (Binary64.significand_shortestDecimal_pos hzero) hleading).elim

/-- Every number is written as the grammar wants it. -/
theorem Number.wellFormed_literal (n : Number) : n.literal.WellFormed := by
  cases n with
  | natural n => exact Literal.wellFormed_integer false n.toNat
  | negative k => exact Literal.wellFormed_integer true (k.val + 1)
  | float x => exact wellFormed_floatLiteral x

/-- The number is the one that its own spelling stands for. -/
def Number.IsSpelt (n : Number) : Prop :=
  Number.ofLiteral? n.literal = some n

theorem Number.isSpelt_natural (n : UInt64) : (Number.natural n).IsSpelt := by
  have hread : Number.ofInteger? false n.toNat = some (.natural n) := by
    rw [ofInteger?, if_neg (by decide), if_pos n.toNat_lt, UInt64.ofNat_toNat]
  change Number.ofLiteral? ⟨false, Decimal.digits n.toNat, [], none⟩ = some (.natural n)
  rw [Number.ofLiteral?, if_pos (by rfl), Decimal.ofDigits_digits, hread]

theorem Number.isSpelt_negative (k : Fin 0x8000000000000000) : (Number.negative k).IsSpelt := by
  have hread : Number.ofInteger? true (k.val + 1) = some (.negative k) := by
    rw [ofInteger?, if_pos rfl, dif_pos ⟨Nat.succ_pos _, k.isLt⟩]
    rfl
  change Number.ofLiteral? ⟨true, Decimal.digits (k.val + 1), [], none⟩ = some (.negative k)
  rw [Number.ofLiteral?, if_pos (by rfl), Decimal.ofDigits_digits, hread]

end Json

end SecurityEvents
