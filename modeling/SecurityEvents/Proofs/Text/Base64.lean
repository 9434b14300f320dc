import SecurityEvents.Proofs.Text.Utf8Order
import SecurityEvents.Text.Base64
set_option autoImplicit false

/-!
# Base64 told by bits

What a text in base64 stands for is told here without groups of octets (`SpelledBy`): the bits of the octets, with zeros
behind them, are cut into sixes, each six is the place of a symbol in the alphabet, and pads stand behind the symbols.
There is one such text for any octets, and it is the one that is written; a text is decoded exactly if it is one, to the
octets that it is for (`decode_eq_some_iff`).
-/

namespace SecurityEvents.Text.Base64

/-! ## The alphabet -/

/-- The symbols, each in the place of its value. -/
def alphabet : List Char :=
  "ABCDEFGHIJKLMNOPQRSTUVWXYZabcdefghijklmnopqrstuvwxyz0123456789+/".toList

theorem alphabet_eq_map : alphabet = (List.range 64).map symbol := by
  decide +kernel

theorem value?_symbol {n : Nat} (h : n < 64) : value? (symbol n) = some n := by
  have hall : ∀ n < 64, value? (symbol n) = some n := by decide +kernel
  exact hall n h

theorem symbol_mem {n : Nat} (h : n < 64) : symbol n ∈ alphabet :=
  alphabet_eq_map ▸ List.mem_map_of_mem (List.mem_range.2 h)

theorem symbol_ne_pad {n : Nat} (h : n < 64) : symbol n ≠ '=' := by
  intro hpad
  have hvalue := value?_symbol h
  rw [hpad] at hvalue
  cases hvalue

theorem symbol_inj {m n : Nat} (hm : m < 64) (hn : n < 64) : symbol m = symbol n ↔ m = n := by
  refine ⟨fun h => ?_, congrArg symbol⟩
  have hvalue := value?_symbol hm
  rw [h, value?_symbol hn] at hvalue
  exact (Option.some.inj hvalue).symm

theorem idxOf_lt {c : Char} (h : c ∈ alphabet) : alphabet.idxOf c < 64 := by
  have hlt := List.idxOf_lt_length_iff.2 h
  rwa [congrArg List.length alphabet_eq_map, List.length_map, List.length_range] at hlt

theorem symbol_idxOf {c : Char} (h : c ∈ alphabet) : symbol (alphabet.idxOf c) = c := by
  have hget := List.getElem_idxOf (List.idxOf_lt_length_iff.2 h)
  simpa only [alphabet_eq_map, List.getElem_map, List.getElem_range] using hget

theorem idxOf_symbol {n : Nat} (h : n < 64) : alphabet.idxOf (symbol n) = n :=
  (symbol_inj (idxOf_lt (symbol_mem h)) h).1 (symbol_idxOf (symbol_mem h))

/-- A character stands for a value exactly if it is the symbol of that value. -/
theorem value?_eq_some_iff {c : Char} {n : Nat} : value? c = some n ↔ n < 64 ∧ c = symbol n := by
  constructor
  · intro h
    unfold value? at h
    dsimp only at h
    unfold symbol
    split_ifs at h with hupper hlower hdigit hplus hslash
    · cases h
      rw [if_pos (by omega), Nat.sub_add_cancel hupper.1, Char.ofNat_toNat]
      exact ⟨by omega, rfl⟩
    · cases h
      have hcode : c.toNat - 71 + 71 = c.toNat := by omega
      rw [if_neg (by omega), if_pos (by omega), hcode, Char.ofNat_toNat]
      exact ⟨by omega, rfl⟩
    · cases h
      rw [if_neg (by omega), if_neg (by omega), if_pos (by omega), Nat.add_sub_cancel, Char.ofNat_toNat]
      exact ⟨by omega, rfl⟩
    · cases h
      exact ⟨by decide, hplus⟩
    · cases h
      exact ⟨by decide, hslash⟩
  · rintro ⟨hn, rfl⟩
    exact value?_symbol hn

/-! ## Groups

The octets of a group and its values are the same bits, so the same number; a group that lacks an octet or two has zeros
behind the bits that there are. Writing and reading go from one side of a group to the other. -/

/-- One octet as two values. -/
structure Single (a : UInt8) (w x : Nat) : Prop where
  first_lt : w < 64
  second_lt : x < 64
  eq : a.toNat * 16 = w * 64 + x

/-- Two octets as three values. -/
structure Pair (a b : UInt8) (w x y : Nat) : Prop where
  first_lt : w < 64
  second_lt : x < 64
  third_lt : y < 64
  eq : (a.toNat * 256 + b.toNat) * 4 = (w * 64 + x) * 64 + y

/-- Three octets as four values. -/
structure Triple (a b c : UInt8) (w x y z : Nat) : Prop where
  first_lt : w < 64
  second_lt : x < 64
  third_lt : y < 64
  fourth_lt : z < 64
  eq : (a.toNat * 256 + b.toNat) * 256 + c.toNat = ((w * 64 + x) * 64 + y) * 64 + z

section Groups

variable {a b c : UInt8} {w x y z : Nat}

theorem toUInt8_of_eq {n : Nat} (h : n = a.toNat) : n.toUInt8 = a := by
  rw [h]
  exact UInt8.ofNat_toNat

theorem toNat_toUInt8 {n : Nat} (h : n < 256) : n.toUInt8.toNat = n :=
  UInt8.toNat_ofNat_of_lt' h

theorem exists_single (a : UInt8) : ∃ w x, Single a w x := by
  have ha := a.toNat_lt
  exact ⟨a.toNat * 16 / 64, a.toNat * 16 % 64, by omega, by omega, by omega⟩

theorem Single.encode_eq (h : Single a w x) : encode [a] = [symbol w, symbol x, '=', '='] := by
  obtain ⟨_, hx, heq⟩ := h
  have hfirst : a.toNat * 16 / 64 = w := by omega
  have hsecond : a.toNat * 16 % 64 = x := by omega
  rw [encode, hfirst, hsecond]

theorem Single.decode_eq (h : Single a w x) : decode [symbol w, symbol x, '=', '='] = some [a] := by
  obtain ⟨hw, hx, heq⟩ := h
  have hzeros : (w * 64 + x) % 16 = 0 := by omega
  have hfirst : ((w * 64 + x) / 16).toUInt8 = a := toUInt8_of_eq (by omega)
  simp [decode, value?_symbol hw, value?_symbol hx, hzeros, hfirst]

theorem single_of_number {n : Nat} (hn : n = w * 64 + x) (hw : w < 64) (hx : x < 64) (hzeros : n % 16 = 0) :
    Single (n / 16).toUInt8 w x := by
  have hoctet : (n / 16).toUInt8.toNat = n / 16 := toNat_toUInt8 (by omega)
  exact ⟨hw, hx, by omega⟩

theorem exists_pair (a b : UInt8) : ∃ w x y, Pair a b w x y := by
  have ha := a.toNat_lt
  have hb := b.toNat_lt
  obtain ⟨n, hn⟩ : ∃ n, n = (a.toNat * 256 + b.toNat) * 4 := ⟨_, rfl⟩
  exact ⟨n / 4096, n / 64 % 64, n % 64, by omega, by omega, by omega, by omega⟩

theorem Pair.encode_eq (h : Pair a b w x y) : encode [a, b] = [symbol w, symbol x, symbol y, '='] := by
  obtain ⟨_, hx, hy, heq⟩ := h
  have hfirst : (a.toNat * 256 + b.toNat) * 4 / 4096 = w := by omega
  have hsecond : (a.toNat * 256 + b.toNat) * 4 / 64 % 64 = x := by omega
  have hthird : (a.toNat * 256 + b.toNat) * 4 % 64 = y := by omega
  rw [encode, hfirst, hsecond, hthird]

theorem Pair.decode_eq (h : Pair a b w x y) : decode [symbol w, symbol x, symbol y, '='] = some [a, b] := by
  obtain ⟨hw, hx, hy, heq⟩ := h
  have hb := b.toNat_lt
  have hzeros : ((w * 64 + x) * 64 + y) % 4 = 0 := by omega
  have hfirst : (((w * 64 + x) * 64 + y) / 1024).toUInt8 = a := toUInt8_of_eq (by omega)
  have hsecond : (((w * 64 + x) * 64 + y) / 4 % 256).toUInt8 = b := toUInt8_of_eq (by omega)
  simp [decode, value?_symbol hw, value?_symbol hx, value?_symbol hy, symbol_ne_pad hy, hzeros, hfirst, hsecond]

theorem pair_of_number {n : Nat} (hn : n = (w * 64 + x) * 64 + y) (hw : w < 64) (hx : x < 64) (hy : y < 64)
    (hzeros : n % 4 = 0) : Pair (n / 1024).toUInt8 (n / 4 % 256).toUInt8 w x y := by
  have hfirst : (n / 1024).toUInt8.toNat = n / 1024 := toNat_toUInt8 (by omega)
  have hsecond : (n / 4 % 256).toUInt8.toNat = n / 4 % 256 := toNat_toUInt8 (by omega)
  exact ⟨hw, hx, hy, by omega⟩

theorem exists_triple (a b c : UInt8) : ∃ w x y z, Triple a b c w x y z := by
  have ha := a.toNat_lt
  have hb := b.toNat_lt
  have hc := c.toNat_lt
  obtain ⟨n, hn⟩ : ∃ n, n = (a.toNat * 256 + b.toNat) * 256 + c.toNat := ⟨_, rfl⟩
  exact ⟨n / 262144, n / 4096 % 64, n / 64 % 64, n % 64, by omega, by omega, by omega, by omega, by omega⟩

theorem Triple.encode_eq (h : Triple a b c w x y z) (rest : List UInt8) :
    encode (a :: b :: c :: rest) = symbol w :: symbol x :: symbol y :: symbol z :: encode rest := by
  obtain ⟨_, hx, hy, hz, heq⟩ := h
  have hfirst : ((a.toNat * 256 + b.toNat) * 256 + c.toNat) / 262144 = w := by omega
  have hsecond : ((a.toNat * 256 + b.toNat) * 256 + c.toNat) / 4096 % 64 = x := by omega
  have hthird : ((a.toNat * 256 + b.toNat) * 256 + c.toNat) / 64 % 64 = y := by omega
  have hfourth : ((a.toNat * 256 + b.toNat) * 256 + c.toNat) % 64 = z := by omega
  rw [encode, hfirst, hsecond, hthird, hfourth]

theorem Triple.decode_eq (h : Triple a b c w x y z) (text : List Char) :
    decode (symbol w :: symbol x :: symbol y :: symbol z :: text) = (decode text).map (a :: b :: c :: ·) := by
  obtain ⟨hw, hx, hy, hz, heq⟩ := h
  have hb := b.toNat_lt
  have hc := c.toNat_lt
  have hfirst : ((((w * 64 + x) * 64 + y) * 64 + z) / 65536).toUInt8 = a := toUInt8_of_eq (by omega)
  have hsecond : ((((w * 64 + x) * 64 + y) * 64 + z) / 256 % 256).toUInt8 = b := toUInt8_of_eq (by omega)
  have hthird : ((((w * 64 + x) * 64 + y) * 64 + z) % 256).toUInt8 = c := toUInt8_of_eq (by omega)
  simp only [decode, symbol_ne_pad hz, ↓reduceIte, value?_symbol hw, value?_symbol hx, value?_symbol hy,
    value?_symbol hz, Option.bind_eq_bind, Option.bind_some, hfirst, hsecond, hthird]
  cases decode text with
  | none => rfl
  | some more => rfl

theorem triple_of_number {n : Nat} (hn : n = ((w * 64 + x) * 64 + y) * 64 + z) (hw : w < 64) (hx : x < 64)
    (hy : y < 64) (hz : z < 64) : Triple (n / 65536).toUInt8 (n / 256 % 256).toUInt8 (n % 256).toUInt8 w x y z := by
  have hfirst : (n / 65536).toUInt8.toNat = n / 65536 := toNat_toUInt8 (by omega)
  have hsecond : (n / 256 % 256).toUInt8.toNat = n / 256 % 256 := toNat_toUInt8 (by omega)
  have hthird : (n % 256).toUInt8.toNat = n % 256 := toNat_toUInt8 (by omega)
  exact ⟨hw, hx, hy, hz, by omega⟩

end Groups

/-! ## Writing and reading back

By induction on the groups: the last one may be a `Single` or a `Pair`, and all before it are `Triple`s. -/

theorem decode_encode (octets : List UInt8) : decode (encode octets) = some octets := by
  induction octets using encode.induct with
  | case1 => rfl
  | case2 a =>
    obtain ⟨w, x, h⟩ := exists_single a
    rw [h.encode_eq, h.decode_eq]
  | case3 a b =>
    obtain ⟨w, x, y, h⟩ := exists_pair a b
    rw [h.encode_eq, h.decode_eq]
  | case4 a b c rest ih =>
    obtain ⟨w, x, y, z, h⟩ := exists_triple a b c
    rw [h.encode_eq, h.decode_eq, ih, Option.map_some]

theorem eq_encode_of_decode {text : List Char} {octets : List UInt8} (h : decode text = some octets) :
    text = encode octets := by
  fun_induction decode text generalizing octets with
  | case1 =>
    cases h
    rfl
  | case2 => cases h
  | case3 _ _ rest hrest =>
    simp only [Option.bind_eq_bind, Option.bind_eq_some_iff, value?_eq_some_iff, Option.ite_none_right_eq_some,
      Option.some.injEq] at h
    obtain ⟨w, ⟨hw, rfl⟩, x, ⟨hx, rfl⟩, hzeros, rfl⟩ := h
    rw [(single_of_number rfl hw hx hzeros).encode_eq, not_not.1 hrest]
  | case4 _ _ _ rest hrest _ =>
    simp only [Option.bind_eq_bind, Option.bind_eq_some_iff, value?_eq_some_iff, Option.ite_none_right_eq_some,
      Option.some.injEq] at h
    obtain ⟨w, ⟨hw, rfl⟩, x, ⟨hx, rfl⟩, y, ⟨hy, rfl⟩, hzeros, rfl⟩ := h
    rw [(pair_of_number rfl hw hx hy hzeros).encode_eq, not_not.1 hrest]
  | case5 _ _ _ _ rest _ ih =>
    simp only [Option.bind_eq_bind, Option.bind_eq_some_iff, value?_eq_some_iff, Option.some.injEq] at h
    obtain ⟨w, ⟨hw, rfl⟩, x, ⟨hx, rfl⟩, y, ⟨hy, rfl⟩, z, ⟨hz, rfl⟩, more, hmore, rfl⟩ := h
    rw [(triple_of_number rfl hw hx hy hz).encode_eq, ih hmore]
  | case6 => cases h

/-! ## Bits -/

/-- The low bits of a number, the highest first. -/
def bits (width n : Nat) : List Bool :=
  (List.range width).reverse.map n.testBit

@[simp] theorem length_bits (width n : Nat) : (bits width n).length = width := by
  simp [bits]

theorem bits_mul_add (m n a : Nat) {b : Nat} (hb : b < 2 ^ n) :
    bits (m + n) (a * 2 ^ n + b) = bits m a ++ bits n b := by
  have hbit (i : Nat) : (a * 2 ^ n + b).testBit i = if i < n then b.testBit i else a.testBit (i - n) := by
    rw [Nat.mul_comm]
    exact Nat.testBit_two_pow_mul_add a hb i
  rw [bits, Nat.add_comm m n, List.range_add, List.reverse_append, List.map_append, ← List.map_reverse, List.map_map]
  refine congr (congrArg _ (List.map_congr_left fun i _ => ?_)) (List.map_congr_left fun i hi => ?_)
  · rw [Function.comp_apply, hbit, if_neg (by omega), Nat.add_sub_cancel_left]
  · rw [hbit, if_pos (List.mem_range.1 (List.mem_reverse.1 hi))]

theorem eq_of_bits_eq {width m n : Nat} (hm : m < 2 ^ width) (hn : n < 2 ^ width) (h : bits width m = bits width n) :
    m = n := by
  refine Nat.eq_of_testBit_eq fun i => ?_
  by_cases hi : i < width
  · exact List.map_inj_left.1 h i (List.mem_reverse.2 (List.mem_range.2 hi))
  · have hwidth : 2 ^ width ≤ 2 ^ i := Nat.pow_le_pow_right (by decide) (Nat.le_of_not_lt hi)
    rw [Nat.testBit_lt_two_pow (Nat.lt_of_lt_of_le hm hwidth), Nat.testBit_lt_two_pow (Nat.lt_of_lt_of_le hn hwidth)]

/-- The bits of an octet. -/
def octetBits (o : UInt8) : List Bool :=
  bits 8 o.toNat

/-- The bits of a symbol: those of its place in the alphabet. -/
def symbolBits (c : Char) : List Bool :=
  bits 6 (alphabet.idxOf c)

theorem symbolBits_symbol {n : Nat} (h : n < 64) : symbolBits (symbol n) = bits 6 n := by
  rw [symbolBits, idxOf_symbol h]

theorem bits_octet (m n : Nat) (o : UInt8) : bits (m + 8) (n * 256 + o.toNat) = bits m n ++ octetBits o :=
  bits_mul_add m 8 n o.toNat_lt

theorem bits_sextet (m n : Nat) {v : Nat} (h : v < 64) :
    bits (m + 6) (n * 64 + v) = bits m n ++ symbolBits (symbol v) := by
  rw [symbolBits_symbol h]
  exact bits_mul_add m 6 n h

theorem bits_mul_four (m n : Nat) : bits (m + 2) (n * 4) = bits m n ++ [false, false] :=
  bits_mul_add m 2 n (by decide : 0 < 2 ^ 2)

theorem bits_mul_sixteen (m n : Nat) : bits (m + 4) (n * 16) = bits m n ++ [false, false, false, false] :=
  bits_mul_add m 4 n (by decide : 0 < 2 ^ 4)

/-- The bits of symbols tell the symbols. -/
theorem eq_of_symbolBits_eq {symbols others : List Char} (hsymbols : ∀ c ∈ symbols, c ∈ alphabet)
    (hothers : ∀ c ∈ others, c ∈ alphabet) (hlength : symbols.length = others.length)
    (h : symbols.flatMap symbolBits = others.flatMap symbolBits) : symbols = others := by
  induction symbols generalizing others with
  | nil => exact (List.eq_nil_of_length_eq_zero hlength.symm).symm
  | cons c symbols ih =>
    cases others with
    | nil => cases hlength
    | cons d others =>
      rw [List.forall_mem_cons] at hsymbols hothers
      rw [List.flatMap_cons, List.flatMap_cons] at h
      obtain ⟨hfirst, hrest⟩ := List.append_inj h (by simp [symbolBits])
      have hplace := eq_of_bits_eq (idxOf_lt hsymbols.1) (idxOf_lt hothers.1) hfirst
      rw [(List.idxOf_inj hsymbols.1).1 hplace, ih hsymbols.2 hothers.2 (Nat.succ.inj hlength) hrest]

section Groups

variable {a b c : UInt8} {w x y z : Nat}

theorem Single.bits_eq (h : Single a w x) :
    symbolBits (symbol w) ++ symbolBits (symbol x) = octetBits a ++ List.replicate 4 false :=
  calc symbolBits (symbol w) ++ symbolBits (symbol x)
    _ = bits 12 (w * 64 + x) := by rw [bits_sextet 6 w h.second_lt, symbolBits_symbol h.first_lt]
    _ = bits 12 (a.toNat * 16) := by rw [h.eq]
    _ = octetBits a ++ List.replicate 4 false := bits_mul_sixteen 8 a.toNat

theorem Pair.bits_eq (h : Pair a b w x y) :
    symbolBits (symbol w) ++ symbolBits (symbol x) ++ symbolBits (symbol y)
      = octetBits a ++ octetBits b ++ List.replicate 2 false :=
  calc symbolBits (symbol w) ++ symbolBits (symbol x) ++ symbolBits (symbol y)
    _ = bits 18 ((w * 64 + x) * 64 + y) := by
      rw [bits_sextet 12 _ h.third_lt, bits_sextet 6 w h.second_lt, symbolBits_symbol h.first_lt]
    _ = bits 18 ((a.toNat * 256 + b.toNat) * 4) := by rw [h.eq]
    _ = octetBits a ++ octetBits b ++ List.replicate 2 false := by
      rw [bits_mul_four 16, bits_octet 8]
      rfl

theorem Triple.bits_eq (h : Triple a b c w x y z) :
    symbolBits (symbol w) ++ symbolBits (symbol x) ++ symbolBits (symbol y) ++ symbolBits (symbol z)
      = octetBits a ++ octetBits b ++ octetBits c :=
  calc symbolBits (symbol w) ++ symbolBits (symbol x) ++ symbolBits (symbol y) ++ symbolBits (symbol z)
    _ = bits 24 (((w * 64 + x) * 64 + y) * 64 + z) := by
      rw [bits_sextet 18 _ h.fourth_lt, bits_sextet 12 _ h.third_lt, bits_sextet 6 w h.second_lt,
        symbolBits_symbol h.first_lt]
    _ = bits 24 ((a.toNat * 256 + b.toNat) * 256 + c.toNat) := by rw [h.eq]
    _ = octetBits a ++ octetBits b ++ octetBits c := by
      rw [bits_octet 16, bits_octet 8]
      rfl

end Groups

/-! ## Spelling -/

/-- The text is made of symbols with pads behind them. The bits of the symbols are those of the octets, with two zeros
behind them for each pad. -/
structure SpelledBy (octets : List UInt8) (text symbols : List Char) (pads : Nat) : Prop where
  text_eq : text = symbols ++ List.replicate pads '='
  mem_alphabet : ∀ c ∈ symbols, c ∈ alphabet
  bits_eq : symbols.flatMap symbolBits = octets.flatMap octetBits ++ List.replicate (2 * pads) false
  pads_lt : pads < 3

theorem spelledBy_nil : SpelledBy [] [] [] 0 :=
  ⟨rfl, by simp, rfl, by decide⟩

theorem Single.spelledBy {a : UInt8} {w x : Nat} (h : Single a w x) :
    SpelledBy [a] [symbol w, symbol x, '=', '='] [symbol w, symbol x] 2 where
  text_eq := rfl
  mem_alphabet := by simp [symbol_mem h.first_lt, symbol_mem h.second_lt]
  bits_eq := by simpa using h.bits_eq
  pads_lt := by decide

theorem Pair.spelledBy {a b : UInt8} {w x y : Nat} (h : Pair a b w x y) :
    SpelledBy [a, b] [symbol w, symbol x, symbol y, '='] [symbol w, symbol x, symbol y] 1 where
  text_eq := rfl
  mem_alphabet := by simp [symbol_mem h.first_lt, symbol_mem h.second_lt, symbol_mem h.third_lt]
  bits_eq := by simpa using h.bits_eq
  pads_lt := by decide

/-- A triple in front leaves the pads as they are. -/
theorem Triple.spelledBy {a b c : UInt8} {w x y z : Nat} (h : Triple a b c w x y z) {octets : List UInt8}
    {text symbols : List Char} {pads : Nat} (hrest : SpelledBy octets text symbols pads) :
    SpelledBy (a :: b :: c :: octets) (symbol w :: symbol x :: symbol y :: symbol z :: text)
      (symbol w :: symbol x :: symbol y :: symbol z :: symbols) pads where
  text_eq := by rw [hrest.text_eq]; rfl
  mem_alphabet := by
    simp only [List.forall_mem_cons]
    exact ⟨symbol_mem h.first_lt, symbol_mem h.second_lt, symbol_mem h.third_lt, symbol_mem h.fourth_lt,
      hrest.mem_alphabet⟩
  bits_eq := by
    simp only [List.flatMap_cons, hrest.bits_eq, ← List.append_assoc, h.bits_eq]
  pads_lt := hrest.pads_lt

theorem exists_spelledBy_encode (octets : List UInt8) :
    ∃ symbols pads, SpelledBy octets (encode octets) symbols pads := by
  induction octets using encode.induct with
  | case1 => exact ⟨[], 0, spelledBy_nil⟩
  | case2 a =>
    obtain ⟨w, x, h⟩ := exists_single a
    exact ⟨_, _, h.encode_eq ▸ h.spelledBy⟩
  | case3 a b =>
    obtain ⟨w, x, y, h⟩ := exists_pair a b
    exact ⟨_, _, h.encode_eq ▸ h.spelledBy⟩
  | case4 a b c rest ih =>
    obtain ⟨w, x, y, z, h⟩ := exists_triple a b c
    obtain ⟨symbols, pads, hrest⟩ := ih
    exact ⟨_, pads, h.encode_eq rest ▸ h.spelledBy hrest⟩

section SpelledBy

variable {octets : List UInt8} {text other symbols others : List Char} {pads pads' : Nat}

/-- The bits are counted on both sides. -/
theorem SpelledBy.length_symbols (h : SpelledBy octets text symbols pads) :
    6 * symbols.length = 8 * octets.length + 2 * pads := by
  have hlength := congrArg List.length h.bits_eq
  simpa [List.length_flatMap, symbolBits, octetBits, Nat.mul_comm] using hlength

theorem SpelledBy.length_text (h : SpelledBy octets text symbols pads) :
    text.length = 4 * ((octets.length + 2) / 3) := by
  have hsymbols := h.length_symbols
  have hpads := h.pads_lt
  rw [h.text_eq, List.length_append, List.length_replicate]
  omega

/-- There is one way to spell octets. -/
theorem SpelledBy.unique (h : SpelledBy octets text symbols pads) (hother : SpelledBy octets other others pads') :
    text = other := by
  have hlength := h.length_symbols
  have hlength' := hother.length_symbols
  have hpads_lt := h.pads_lt
  have hpads_lt' := hother.pads_lt
  -- The number of octets leaves one choice below three for the pads.
  obtain rfl : pads = pads' := by omega
  have hsymbols : symbols = others :=
    eq_of_symbolBits_eq h.mem_alphabet hother.mem_alphabet (by omega) (h.bits_eq.trans hother.bits_eq.symm)
  rw [h.text_eq, hother.text_eq, hsymbols]

end SpelledBy

/-- Reading takes exactly the texts that are spelled as they should be. -/
theorem decode_eq_some_iff {text : List Char} {octets : List UInt8} :
    decode text = some octets ↔ ∃ symbols pads, SpelledBy octets text symbols pads := by
  constructor
  · intro h
    rw [eq_encode_of_decode h]
    exact exists_spelledBy_encode octets
  · rintro ⟨symbols, pads, h⟩
    obtain ⟨others, pads', hencode⟩ := exists_spelledBy_encode octets
    rw [h.unique hencode]
    exact decode_encode octets

/-! ## Texts in base64 -/

theorem toList_loop (bs : ByteArray) (i : Nat) (read : List UInt8) :
    ByteArray.toList.loop bs i read = read.reverse ++ bs.data.toList.drop i := by
  fun_induction ByteArray.toList.loop bs i read with
  | case1 i read hi ih =>
    have hget : bs.get! i = bs.data.toList[i] := getElem!_pos bs.data i hi
    rw [ih, List.drop_eq_getElem_cons hi, hget, List.reverse_cons, List.append_assoc, List.singleton_append]
  | case2 i read hi =>
    rw [List.drop_eq_nil_of_le (Nat.le_of_not_lt hi), List.append_nil]

theorem toList_ofString (s : String) : (ofString s).toList = encode (octets s) := by
  rw [ofString, String.toList_ofList, ByteArray.toList, toList_loop]
  rfl

end SecurityEvents.Text.Base64
