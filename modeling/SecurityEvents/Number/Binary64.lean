import SecurityEvents.Number.Decimal
set_option autoImplicit false

/-!
# Finite double precision numbers

A finite number of the IEEE 754 format binary64 is a sign and a *magnitude*: its place in the ascending list
of the non-negative finite numbers, which is also the pattern of its sixty-three low bits. Neighbours in
value have neighbouring magnitudes, so rounding is done on magnitudes.

The least magnitude with a full significand is `0x10000000000000`, which is `2⁵²`, and the pattern of infinity
is `0x7FF0000000000000`.

All values are whole multiples of `2⁻¹⁰⁷⁴`; `units` counts them, and `nearestMagnitude` is the only way in which a
value is rounded to one of them.

A decimal becomes a number in one of two ways. `nearest?` rounds once, to the nearest number, a tie to the even
magnitude. `scaled?` takes a number for the significand and multiplies or divides it by numbers for powers of
ten, with a rounding at every step; the outcome may be a neighbour of the nearest one. Both refuse a decimal
that ends beyond the largest number.

Writing picks the fewest digits of which this number is the nearest; that it is the nearest is tested and not
assumed, and the exact decimal stands in should no short one do.
-/

namespace SecurityEvents

/-- A finite number in double precision. Zero has two signs. -/
structure Binary64 where
  negative : Bool
  magnitude : Nat
  finite : magnitude < 0x7FF0000000000000
  deriving DecidableEq, Repr

namespace Binary64

/-- The value of a magnitude, counted in units of `2⁻¹⁰⁷⁴`. -/
def units (magnitude : Nat) : Nat :=
  if magnitude < 0x10000000000000 then magnitude
  else (0x10000000000000 + magnitude % 0x10000000000000) <<< (magnitude / 0x10000000000000 - 1)

/-- A fraction rounded to a natural number: the nearest one, a half to the even neighbour. -/
def roundHalfEven (num den : Nat) : Nat :=
  let floor := num / den
  let rest := num % den
  if 2 * rest < den then floor
  else if den < 2 * rest then floor + 1
  else floor + floor % 2

/-- The magnitude nearest to a fraction counted in units. Above `2⁵³` units the spacing doubles with
every binade, and a significand that rounds up to the next power of two lands on that binade's first
magnitude by itself. -/
def nearestMagnitude (num den : Nat) : Nat :=
  let shift := (num / den).log2 - 52
  shift * 0x10000000000000 + roundHalfEven num (den <<< shift)

/-- The number with this magnitude, if it is a finite one. -/
def ofMagnitude? (negative : Bool) (magnitude : Nat) : Option Binary64 :=
  if h : magnitude < 0x7FF0000000000000 then some ⟨negative, magnitude, h⟩ else none

/-- Zero with a sign. -/
def zero (negative : Bool) : Binary64 :=
  ⟨negative, 0, by decide⟩

end Binary64

/-- The decimal `significand · 10 ^ exponent`. -/
structure Decimal where
  significand : Nat
  exponent : Int
  deriving DecidableEq, Repr

namespace Decimal

/-- The decimal in units of `2⁻¹⁰⁷⁴`, as a numerator and a denominator. -/
def inUnits (d : Decimal) : Nat × Nat :=
  ((d.significand * Nat.pow 10 d.exponent.toNat) <<< 1074, Nat.pow 10 (-d.exponent).toNat)

end Decimal

namespace Binary64

/-- The number nearest to a decimal; nothing when that would be beyond the finite ones. A decimal of
`10³¹⁰` or more is too large and one below `10⁻³³⁰` rounds to zero, whatever its digits. -/
def nearest? (negative : Bool) (d : Decimal) : Option Binary64 :=
  let size : Int := (Decimal.digits d.significand).length + d.exponent
  if d.significand = 0 then some (zero negative)
  else if size > 310 then none
  else if size < -330 then some (zero negative)
  else
    let (num, den) := d.inUnits
    ofMagnitude? negative (nearestMagnitude num den)

/-- The magnitude nearest to a natural number. -/
def ofNat (n : Nat) : Nat :=
  nearestMagnitude (n <<< 1074) 1

/-- The magnitude nearest to a product. -/
def product (a b : Nat) : Nat :=
  nearestMagnitude (units a * units b) (1 <<< 1074)

/-- The magnitude nearest to a quotient. -/
def quotient (a b : Nat) : Nat :=
  nearestMagnitude (units a <<< 1074) (units b)

/-- The largest power of ten that has a finite magnitude. -/
def greatestPower : Nat := 308

/-- The magnitude nearest to a power of ten. -/
def tenPower (k : Nat) : Nat :=
  ofNat (Nat.pow 10 k)

/-- A magnitude divided by a power of ten, by one quotient after the other where the power has no finite
magnitude. -/
def scaleDown (magnitude k : Nat) : Nat :=
  if magnitude = 0 then 0
  else if k ≤ greatestPower then quotient magnitude (tenPower k)
  else scaleDown (quotient magnitude (tenPower greatestPower)) (k - greatestPower)
termination_by k
decreasing_by simp only [greatestPower] at *; omega

/-- The number that a decimal comes to by steps: its significand first, then the power of ten. Nothing when a
step leaves the finite numbers. -/
def scaled? (negative : Bool) (d : Decimal) : Option Binary64 :=
  let magnitude := ofNat d.significand
  if magnitude = 0 then some (zero negative)
  else if d.exponent < 0 then ofMagnitude? negative (scaleDown magnitude (-d.exponent).toNat)
  else if d.exponent ≤ greatestPower then
    ofMagnitude? negative (product magnitude (tenPower d.exponent.toNat))
  else none

/-- The exact value of a magnitude as a decimal. -/
def exactDecimal (magnitude : Nat) : Decimal :=
  ⟨units magnitude * Nat.pow 5 1074, -1074⟩

/-- The power of ten of the leading digit of a magnitude above zero. -/
def leadingPower (magnitude : Nat) : Int :=
  let scaled := (units magnitude * Nat.pow 10 400) >>> 1074
  ((Decimal.digits scaled).length : Int) - 401

/-- The two decimals of `count` digits that enclose a magnitude, the nearer one first and of two equally
near ones the even one. -/
def neighbours (magnitude count : Nat) : List Decimal :=
  let exponent := leadingPower magnitude - count + 1
  let num := units magnitude * Nat.pow 10 (-exponent).toNat
  let den := Nat.pow 10 exponent.toNat <<< 1074
  let floor := num / den
  let nearest := roundHalfEven num den
  let other := if nearest = floor then floor + 1 else floor
  [⟨nearest, exponent⟩, ⟨other, exponent⟩]

/-- Whether the number nearest to a decimal is the non-negative one of this magnitude. -/
def isNearest (magnitude : Nat) (d : Decimal) : Bool :=
  (nearest? false d).map (·.magnitude) == some magnitude

/-- The decimal with the fewest digits to which this magnitude is the nearest, of several the closest one. -/
def shortestDecimal (magnitude : Nat) : Decimal :=
  if magnitude = 0 then ⟨0, 0⟩
  else
    (((List.range 17).flatMap fun i => neighbours magnitude (i + 1)).find? (isNearest magnitude)).getD
      (exactDecimal magnitude)

end Binary64

end SecurityEvents
