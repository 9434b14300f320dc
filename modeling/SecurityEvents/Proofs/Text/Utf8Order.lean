import Mathlib.Data.String.Basic
import Mathlib.Tactic.SplitIfs
set_option autoImplicit false

/-!
# Texts are ordered as their octets

One text comes before another exactly if the octets of its UTF-8 form come before those of the other:
`lt_iff_octets_lt`. A form is a first octet that tells how many there are, and then digits in base 64. So a smaller
character has a form that is smaller before it ends, either at the first octet or at the first digit that differs.
-/

namespace SecurityEvents.Text

/-- The octets of the UTF-8 form of a text. -/
def octets (s : String) : List UInt8 :=
  s.toUTF8.data.toList

theorem octets_eq_flatMap (s : String) : octets s = s.toList.flatMap String.utf8EncodeChar := by
  rw [octets, String.toUTF8, ← String.utf8Encode_toList, List.utf8Encode, List.data_toByteArray]

theorem octets_inj {s t : String} : octets s = octets t ↔ s = t :=
  ⟨fun h => String.toByteArray_inj.1 (ByteArray.ext (Array.toList_inj.1 h)), congrArg octets⟩

/-! ## Digits -/

theorem ofNat_lt_ofNat {m n : Nat} (h : m < n) (hn : n < 256) : UInt8.ofNat m < UInt8.ofNat n :=
  (UInt8.ofNat_lt_iff_lt (Nat.lt_trans h hn) hn).2 h

/-- Below the bound, the octets of the smaller number are the smaller ones, whatever follows. -/
def Ascends (bound : Nat) (form : Nat → List UInt8) : Prop :=
  ∀ m n, m < n → n < bound → ∀ x y, form m ++ x < form n ++ y

theorem cons_lt_cons {m n : Nat} (h : m < n) (hn : n < 256) (x y : List UInt8) :
    UInt8.ofNat m :: x < UInt8.ofNat n :: y :=
  List.cons_lt_cons_iff.2 (.inl (ofNat_lt_ofNat h hn))

theorem ascends_single {bound lead : Nat} (h : bound + lead ≤ 256) :
    Ascends bound fun v => [UInt8.ofNat (v + lead)] := by
  intro m n hlt hbound x y
  exact cons_lt_cons (by omega) (by omega) x y

/-- One more digit in base 64. -/
theorem Ascends.digit {bound : Nat} {form : Nat → List UInt8} (h : Ascends bound form) :
    Ascends (64 * bound) fun v => form (v / 64) ++ [UInt8.ofNat (v % 64 + 128)] := by
  intro m n hlt hbound x y
  rw [List.append_assoc, List.append_assoc]
  obtain hfront | ⟨hfront, hdigit⟩ : m / 64 < n / 64 ∨ m / 64 = n / 64 ∧ m % 64 < n % 64 := by omega
  · exact h _ _ hfront (by omega) _ _
  · rw [hfront]
    exact List.append_left_lt (cons_lt_cons (by omega) (by omega) x y)

/-! ## Forms of characters -/

/-- The form of a number that takes one octet. -/
def oneOctet (v : Nat) : List UInt8 := [UInt8.ofNat (v + 0)]
/-- The form of a number that takes two octets. -/
def twoOctets (v : Nat) : List UInt8 := [UInt8.ofNat (v / 64 + 192)] ++ [UInt8.ofNat (v % 64 + 128)]
/-- The form of a number that takes three octets. -/
def threeOctets (v : Nat) : List UInt8 :=
  [UInt8.ofNat (v / 64 / 64 + 224)] ++ [UInt8.ofNat (v / 64 % 64 + 128)] ++ [UInt8.ofNat (v % 64 + 128)]
/-- The form of a number that takes four octets. -/
def fourOctets (v : Nat) : List UInt8 :=
  [UInt8.ofNat (v / 64 / 64 / 64 + 240)] ++ [UInt8.ofNat (v / 64 / 64 % 64 + 128)]
    ++ [UInt8.ofNat (v / 64 % 64 + 128)] ++ [UInt8.ofNat (v % 64 + 128)]

theorem ascends_oneOctet : Ascends 128 oneOctet :=
  ascends_single (by decide)

theorem ascends_twoOctets : Ascends (64 * 32) twoOctets :=
  (ascends_single (by decide)).digit

theorem ascends_threeOctets : Ascends (64 * (64 * 16)) threeOctets :=
  (ascends_single (by decide)).digit.digit

theorem ascends_fourOctets : Ascends (64 * (64 * (64 * 8))) fourOctets :=
  (ascends_single (by decide)).digit.digit.digit

/-- The form of a number. -/
def form (v : Nat) : List UInt8 :=
  if v < 0x80 then oneOctet v else if v < 0x800 then twoOctets v
  else if v < 0x10000 then threeOctets v else fourOctets v

theorem toNat_val_lt (c : Char) : c.val.toNat < 0x110000 := by
  rcases c.valid with h | ⟨-, h⟩
  · exact Nat.lt_trans h (by decide)
  · exact h

theorem utf8EncodeChar_eq_form (c : Char) : String.utf8EncodeChar c = form c.val.toNat := by
  have hbound := toNat_val_lt c
  unfold String.utf8EncodeChar form
  generalize c.val.toNat = v at hbound
  dsimp only
  by_cases hone : v < 0x80
  · rw [if_pos (by omega), if_pos hone]
    rfl
  rw [if_neg (by omega), if_neg hone]
  by_cases htwo : v < 0x800
  · have hfirst : v / 64 % 32 = v / 64 := by omega
    rw [if_pos (by omega), if_pos htwo, hfirst]
    rfl
  rw [if_neg (by omega), if_neg htwo]
  by_cases hthree : v < 0x10000
  · have hfirst : v / 4096 % 16 = v / 64 / 64 := by omega
    rw [if_pos (by omega), if_pos hthree, hfirst]
    rfl
  · have hfirst : v / 262144 % 8 = v / 64 / 64 / 64 := by omega
    have hsecond : v / 4096 = v / 64 / 64 := by omega
    rw [if_neg (by omega), if_neg hthree, hfirst, hsecond]
    rfl

/-- Two forms have the same number of octets, or the first octets differ because it tells the number. -/
theorem form_append_lt {m n : Nat} (h : m < n) (hn : n < 0x110000) (x y : List UInt8) : form m ++ x < form n ++ y := by
  unfold form
  split_ifs <;> try omega
  · exact ascends_oneOctet m n h (by omega) x y
  · exact cons_lt_cons (by omega) (by omega) _ _
  · exact cons_lt_cons (by omega) (by omega) _ _
  · exact cons_lt_cons (by omega) (by omega) _ _
  · exact ascends_twoOctets m n h (by omega) x y
  · exact cons_lt_cons (by omega) (by omega) _ _
  · exact cons_lt_cons (by omega) (by omega) _ _
  · exact ascends_threeOctets m n h (by omega) x y
  · exact cons_lt_cons (by omega) (by omega) _ _
  · exact ascends_fourOctets m n h (by omega) x y

/-! ## Texts -/

theorem form_ne_nil (v : Nat) : form v ≠ [] := by
  unfold form
  split_ifs <;> exact List.cons_ne_nil _ _

theorem flatMap_form_lt {as bs : List Char} (h : as < bs) :
    as.flatMap String.utf8EncodeChar < bs.flatMap String.utf8EncodeChar := by
  induction as generalizing bs with
  | nil =>
    cases bs with
    | nil => exact (List.lt_irrefl _ h).elim
    | cons b bs =>
      rw [List.flatMap_nil, List.flatMap_cons, utf8EncodeChar_eq_form]
      obtain ⟨o, os, hform⟩ := List.exists_cons_of_ne_nil (form_ne_nil b.val.toNat)
      rw [hform]
      exact List.nil_lt_cons o _
  | cons a as ih =>
    cases bs with
    | nil => exact (List.not_lt_nil _ h).elim
    | cons b bs =>
      rw [List.flatMap_cons, List.flatMap_cons]
      rcases List.cons_lt_cons_iff.1 h with hlt | ⟨rfl, hlt⟩
      · rw [utf8EncodeChar_eq_form, utf8EncodeChar_eq_form]
        exact form_append_lt hlt (toNat_val_lt b) _ _
      · exact List.append_left_lt (ih hlt)

theorem lt_iff_octets_lt {s t : String} : s < t ↔ octets s < octets t := by
  have hmono {s t : String} (h : s < t) : octets s < octets t := by
    rw [octets_eq_flatMap, octets_eq_flatMap]
    exact flatMap_form_lt (String.lt_iff_toList_lt.1 h)
  refine ⟨hmono, fun h => ?_⟩
  rcases lt_trichotomy s t with hlt | rfl | hgt
  · exact hlt
  · exact (List.lt_irrefl _ h).elim
  · exact (List.lt_asymm h (hmono hgt)).elim

end SecurityEvents.Text
