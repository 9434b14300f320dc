set_option autoImplicit false

/-!
# Decimal digits

Digits are natural numbers below ten, the leading one first. `ofDigits` reads back what `digits` writes.
-/

namespace SecurityEvents.Decimal

/-- The decimal digits of a natural number; zero has the one digit `0`. -/
def digits (n : Nat) : List Nat :=
  if n < 10 then [n] else digits (n / 10) ++ [n % 10]
termination_by n

/-- The natural number with these decimal digits. -/
def ofDigits (ds : List Nat) : Nat :=
  ds.foldl (fun value d => value * 10 + d) 0

/-- The character for a digit. -/
def digitChar (d : Nat) : Char :=
  Char.ofNat (d + 48)

/-- The digit that a character stands for. -/
def digit? (c : Char) : Option Nat :=
  if 48 ≤ c.toNat ∧ c.toNat ≤ 57 then some (c.toNat - 48) else none

/-- A natural number in decimal. -/
def text (n : Nat) : String :=
  String.ofList ((digits n).map digitChar)

theorem ofDigits_concat (ds : List Nat) (d : Nat) : ofDigits (ds ++ [d]) = ofDigits ds * 10 + d := by
  simp [ofDigits]

@[simp] theorem ofDigits_digits (n : Nat) : ofDigits (digits n) = n := by
  fun_induction digits n with
  | case1 n h => simp [ofDigits]
  | case2 n h ih =>
    rw [ofDigits_concat, ih]
    omega

theorem digits_ne_nil (n : Nat) : digits n ≠ [] := by
  unfold digits
  split <;> simp

theorem lt_ten_of_mem_digits {n d : Nat} (h : d ∈ digits n) : d < 10 := by
  fun_induction digits n with
  | case1 n hn =>
    simp only [List.mem_singleton] at h
    omega
  | case2 n hn ih =>
    rcases List.mem_append.1 h with h | h
    · exact ih h
    · simp only [List.mem_singleton] at h
      omega

theorem digit?_digitChar {d : Nat} (h : d < 10) : digit? (digitChar d) = some d := by
  have : ∀ d, d < 10 → digit? (digitChar d) = some d := by decide
  exact this d h

/-- No other character stands for a digit. -/
theorem digit?_eq_some_iff {c : Char} {d : Nat} : digit? c = some d ↔ d < 10 ∧ c = digitChar d := by
  constructor
  · intro h
    unfold digit? at h
    split at h
    · rename_i hrange
      cases h
      refine ⟨by omega, ?_⟩
      rw [digitChar, Nat.sub_add_cancel hrange.1, Char.ofNat_toNat]
    · cases h
  · rintro ⟨hd, rfl⟩
    exact digit?_digitChar hd

end SecurityEvents.Decimal
