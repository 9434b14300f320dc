import SecurityEvents.Number.Binary64
set_option autoImplicit false

/-!
# JSON numbers

An integer that fits sixty-four bits, signed or unsigned, is kept exactly; every other number is a finite
number in double precision, and so is `-0`. A `Literal` is a number as it is spelt: `Number.literal` chooses
the spelling of a number and `Number.ofLiteral?` gives a spelling its number.

Spelt integers in range are read exactly. For any other number only the digits that make a significand of
sixty-four bits are read, and significand and power of ten are rounded each on its own, so the number may differ
in its last place from the one nearest to the spelling.
-/

namespace SecurityEvents.Json

/-- A JSON number. The three kinds do not overlap: `negative k` is `-(k + 1)`. -/
inductive Number where
  | natural (n : UInt64)
  | negative (k : Fin 0x8000000000000000)
  | float (x : Binary64)
  deriving DecidableEq, Repr

/-- A number as it is spelt: digits are lists of numbers below ten, and an empty fraction is none. -/
structure Literal where
  negative : Bool
  whole : List Nat
  fraction : List Nat
  exponent : Option (Bool × List Nat)
  deriving DecidableEq, Repr

namespace Literal

/-- The characters of a spelling. A positive exponent has a plus sign. -/
def chars (l : Literal) : List Char :=
  (if l.negative then ['-'] else [])
    ++ l.whole.map Decimal.digitChar
    ++ (if l.fraction.isEmpty then [] else '.' :: l.fraction.map Decimal.digitChar)
    ++ (match l.exponent with
      | none => []
      | some (below, digits) => 'e' :: (if below then '-' else '+') :: digits.map Decimal.digitChar)

/-- A significand of sixty-four bits with the digits that it still has room for, and the digits from the first
one for which it has none. -/
def absorb (significand : Nat) : List Nat → Nat × List Nat
  | [] => (significand, [])
  | d :: ds =>
    if significand * 10 + d < 0x10000000000000000 then absorb (significand * 10 + d) ds
    else (significand, d :: ds)

/-- The power of ten that a spelling names. -/
def power (l : Literal) : Int :=
  match l.exponent with
  | none => 0
  | some (below, digits) => if below then -(Decimal.ofDigits digits : Int) else Decimal.ofDigits digits

/-- The decimal that is read from a spelling, its sign apart. A digit of the whole part for which there is no
room counts as a place; one of the fraction is dropped. -/
def decimal (l : Literal) : Decimal :=
  let (whole, places) := absorb 0 l.whole
  let (significand, dropped) := absorb whole l.fraction
  ⟨significand, l.power + places.length + dropped.length - l.fraction.length⟩

/-- A spelling without fraction and exponent. -/
def isInteger (l : Literal) : Bool :=
  l.fraction.isEmpty && l.exponent.isNone

end Literal

/-- How a number in double precision is laid out. -/
structure FloatLayout where
  /-- The least power of ten of a leading digit that is written without an exponent. -/
  leastPositional : Int
  /-- The least power of ten, above that, that is written with an exponent again. -/
  endPositional : Int
  deriving DecidableEq, Repr

namespace FloatLayout

/-- JSON texts write magnitudes from `0.00001` up to, but not including, `10¹⁶` without an exponent. -/
def json : FloatLayout := ⟨-5, 16⟩

/-- The spelling of significant digits whose leading one stands for the power `power` of ten. Without an
exponent there is at least one digit on either side of the point. -/
def literal (layout : FloatLayout) (negative : Bool) (digits : List Nat) (power : Int) : Literal :=
  if layout.leastPositional ≤ power ∧ power < layout.endPositional then
    if power < 0 then
      ⟨negative, [0], List.replicate (-power - 1).toNat 0 ++ digits, none⟩
    else
      let count := power.toNat + 1
      let rest := digits.drop count
      ⟨negative, digits.take count ++ List.replicate (count - digits.length) 0,
        if rest.isEmpty then [0] else rest, none⟩
  else
    ⟨negative, digits.take 1, digits.drop 1, some (power < 0, Decimal.digits power.natAbs)⟩

end FloatLayout

/-- The digits without the zeros at their end; the first digit stays. -/
def significantDigits (digits : List Nat) : List Nat :=
  digits.take 1 ++ ((digits.drop 1).reverse.dropWhile (· == 0)).reverse

/-- The spelling of a number in double precision: its shortest digits. -/
def floatLiteral (x : Binary64) : Literal :=
  let shortest := Binary64.shortestDecimal x.magnitude
  let digits := Decimal.digits shortest.significand
  FloatLayout.json.literal x.negative (significantDigits digits)
    (digits.length - 1 + shortest.exponent)

namespace Number

/-- The spelling of a number. -/
def literal : Number → Literal
  | .natural n => ⟨false, Decimal.digits n.toNat, [], none⟩
  | .negative k => ⟨true, Decimal.digits (k.val + 1), [], none⟩
  | .float x => floatLiteral x

/-- The text of a number. -/
def text (n : Number) : String :=
  String.ofList n.literal.chars

/-- The integer that a spelling without fraction and exponent stands for, where it fits sixty-four bits.
There is no negative zero among the integers. -/
def ofInteger? (negative : Bool) (n : Nat) : Option Number :=
  if negative then
    if h : 0 < n ∧ n ≤ 0x8000000000000000 then some (.negative ⟨n - 1, by omega⟩) else none
  else if n < 0x10000000000000000 then some (.natural (UInt64.ofNat n))
  else none

/-- The number that a spelling stands for; nothing when it is too large for double precision. -/
def ofLiteral? (l : Literal) : Option Number :=
  let asFloat := (Binary64.scaled? l.negative l.decimal).map Number.float
  if l.isInteger then
    match ofInteger? l.negative (Decimal.ofDigits l.whole) with
    | some n => some n
    | none => asFloat
  else asFloat

/-- A signed integer of sixty-four bits as a number. -/
def ofInt64 (i : Int64) : Number :=
  if h : i.toInt < 0 then .negative ⟨(-i.toInt - 1).toNat, by have := i.le_toInt; omega⟩
  else .natural (UInt64.ofNat i.toInt.toNat)

/-- The signed integer of sixty-four bits that a number is, if it is one. -/
def toInt64? : Number → Option Int64
  | .natural n => if n.toNat < 0x8000000000000000 then some (Int64.ofNat n.toNat) else none
  | .negative k => some (Int64.ofInt (-(k.val : Int) - 1))
  | .float _ => none

/-- The unsigned integer of thirty-two bits that a number is, if it is one. -/
def toUInt32? : Number → Option UInt32
  | .natural n => if n.toNat < 0x100000000 then some (UInt32.ofNat n.toNat) else none
  | _ => none

/-- A natural number of at most sixty-four bits, as it is. -/
def ofUInt32 (n : UInt32) : Number :=
  .natural (UInt64.ofNat n.toNat)

end Number

end SecurityEvents.Json
