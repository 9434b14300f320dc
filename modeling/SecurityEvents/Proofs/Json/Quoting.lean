import Mathlib.Data.List.Forall2
import SecurityEvents.Json.Reader
import SecurityEvents.Json.Writer
set_option autoImplicit false

/-!
# Strings are read back

Every character of a string is written as one piece, which stands for that character: as it is, as a short escape,
or by its number if it is a control (`Piece.StandsFor`). Numbers of controls are no halves of surrogate pairs, so
pieces are joined to the characters that they stand for.
-/

namespace SecurityEvents.Json.Reader

/-- The piece is read as this character, whatever stands beside it. -/
inductive Piece.StandsFor (c : Char) : Piece → Prop where
  | place : StandsFor c (.place (some c))
  | unit (h : c.toNat < 0x20) : StandsFor c (.unit c.toNat)

theorem hexDigit?_digitChar {n : Nat} (h : n < 16) : hexDigit? (some n.digitChar) = some n := by
  have : ∀ n, n < 16 → hexDigit? (some n.digitChar) = some n := by decide
  exact this n h

theorem hexUnit?_control {n : Nat} (h : n < 0x20) :
    hexUnit? (some '0') (some '0') (some (n / 16).digitChar) (some (n % 16).digitChar) = some n := by
  have hzero : hexDigit? (some '0') = some 0 := by decide
  rw [hexUnit?, hzero, hexDigit?_digitChar (by omega), hexDigit?_digitChar (by omega)]
  dsimp only
  congr 1
  omega

/-- A character is read back as one piece that stands for it. -/
theorem exists_pieces?_escapeChar (c : Char) (rest : Input) :
    ∃ piece, piece.StandsFor c ∧ pieces? ((escapeChar c).map some ++ rest)
      = (pieces? rest).map fun (ps, after) => (piece :: ps, after) := by
  have hofNat (n : Nat) (h : c.toNat = n) : c = Char.ofNat n := by
    rw [← h, Char.ofNat_toNat]
  unfold escapeChar
  split
  · rename_i h
    refine ⟨.place (some c), .place, ?_⟩
    rcases (Bool.or_eq_true_iff ..).1 h with h | h <;> cases of_decide_eq_true h <;> rfl
  split
  · rename_i h
    cases hofNat _ h
    exact ⟨_, .place, rfl⟩
  split
  · rename_i h
    cases hofNat _ h
    exact ⟨_, .place, rfl⟩
  split
  · rename_i h
    cases h
    exact ⟨_, .place, rfl⟩
  split
  · rename_i h
    cases h
    exact ⟨_, .place, rfl⟩
  split
  · rename_i h
    cases h
    exact ⟨_, .place, rfl⟩
  split
  · rename_i h
    refine ⟨_, .unit h, ?_⟩
    change pieces? (some '\\' :: some 'u' :: some '0' :: some '0' :: some (c.toNat / 16).digitChar
      :: some (c.toNat % 16).digitChar :: rest) = _
    rw [pieces?, if_neg (by decide), if_pos rfl]
    dsimp only
    rw [hexUnit?_control h]
  · rename_i hplain _ _ _ _ _ hcontrol
    refine ⟨_, .place, ?_⟩
    have hquote : c ≠ '"' := fun heq => hplain (by simp [heq])
    have hbackslash : c ≠ '\\' := fun heq => hplain (by simp [heq])
    change pieces? (some c :: rest) = _
    rw [pieces?.eq_def]
    dsimp only
    rw [if_neg hquote, if_neg hbackslash, if_neg hcontrol]

/-- A string is read as pieces that stand for its characters, up to its closing quote. -/
theorem exists_pieces?_stringChars (cs : List Char) (rest : Input) :
    ∃ ps, List.Forall₂ Piece.StandsFor cs ps
      ∧ pieces? ((cs.flatMap escapeChar).map some ++ some '"' :: rest) = some (ps, rest) := by
  induction cs with
  | nil =>
    refine ⟨[], .nil, ?_⟩
    change pieces? (some '"' :: rest) = _
    rw [pieces?.eq_def]
    rfl
  | cons c cs ih =>
    obtain ⟨ps, hps, hread⟩ := ih
    obtain ⟨piece, hpiece, hfirst⟩ := exists_pieces?_escapeChar c
      ((cs.flatMap escapeChar).map some ++ some '"' :: rest)
    refine ⟨piece :: ps, .cons hpiece hps, ?_⟩
    rw [List.flatMap_cons, List.map_append, List.append_assoc, hfirst, hread]
    rfl

/-- Pieces that stand for characters are joined to these. -/
theorem joinPieces_eq {cs : List Char} {ps : List Piece} (h : List.Forall₂ Piece.StandsFor cs ps) :
    joinPieces ps = cs.map some := by
  induction h with
  | nil => rfl
  | @cons c piece cs ps hpiece hps ih =>
    cases hpiece with
    | place => rw [joinPieces, ih, List.map_cons]
    | unit hcontrol =>
      have hleading : isLeading c.toNat = false := by
        rw [isLeading, Bool.and_eq_false_iff]
        exact .inl (decide_eq_false (by omega))
      have htrailing : isTrailing c.toNat = false := by
        rw [isTrailing, Bool.and_eq_false_iff]
        exact .inl (decide_eq_false (by omega))
      have hscalar : scalar? c.toNat = some c := by
        rw [scalar?, hleading, htrailing, Char.ofNat_toNat]
        rfl
      have hjoin : joinPieces (.unit c.toNat :: ps) = scalar? c.toNat :: joinPieces ps := by
        cases ps with
        | nil => rfl
        | cons other ps =>
          cases other with
          | place place => rfl
          | unit m => rw [joinPieces, hleading, Bool.false_and, if_neg Bool.false_ne_true]
      rw [hjoin, hscalar, ih, List.map_cons]

/-- A string is read back after its opening quote. -/
theorem string?_stringChars (s : String) (rest : Input) :
    string? ((s.toList.flatMap escapeChar).map some ++ some '"' :: rest) = some (Text.placesOf s, rest) := by
  obtain ⟨ps, hps, hread⟩ := exists_pieces?_stringChars s.toList rest
  rw [string?, hread, Option.map_some]
  exact congrArg (fun places => some (places, rest)) (joinPieces_eq hps)

end SecurityEvents.Json.Reader
