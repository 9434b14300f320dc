set_option autoImplicit false

/-!
# Base64

The standard alphabet of RFC 4648 with padding: three octets become four characters, a last group of two
octets becomes three characters and one `=`, a last octet two characters and two `=`. `decode` takes
exactly the texts that `encode` writes: it refuses a wrong length, a stray `=` and left-over bits.
-/

namespace SecurityEvents.Text.Base64

/-- The character for a value of six bits. -/
def symbol (n : Nat) : Char :=
  if n < 26 then Char.ofNat (n + 65)
  else if n < 52 then Char.ofNat (n + 71)
  else if n < 62 then Char.ofNat (n - 4)
  else if n = 62 then '+'
  else '/'

/-- The six bits that a character of the alphabet stands for. -/
def value? (c : Char) : Option Nat :=
  let code := c.toNat
  if 65 ≤ code ∧ code ≤ 90 then some (code - 65)
  else if 97 ≤ code ∧ code ≤ 122 then some (code - 71)
  else if 48 ≤ code ∧ code ≤ 57 then some (code + 4)
  else if c = '+' then some 62
  else if c = '/' then some 63
  else none

/-- The text of a sequence of octets. -/
def encode : List UInt8 → List Char
  | [] => []
  | [a] =>
    let n := a.toNat * 16
    [symbol (n / 64), symbol (n % 64), '=', '=']
  | [a, b] =>
    let n := (a.toNat * 256 + b.toNat) * 4
    [symbol (n / 4096), symbol (n / 64 % 64), symbol (n % 64), '=']
  | a :: b :: c :: rest =>
    let n := (a.toNat * 256 + b.toNat) * 256 + c.toNat
    symbol (n / 262144) :: symbol (n / 4096 % 64) :: symbol (n / 64 % 64) :: symbol (n % 64)
      :: encode rest

/-- The octets of a text, if it is one that `encode` writes. -/
def decode : List Char → Option (List UInt8)
  | [] => some []
  | w :: x :: y :: z :: rest =>
    if z = '=' then
      if rest ≠ [] then none
      else if y = '=' then do
        let n := (← value? w) * 64 + (← value? x)
        if n % 16 = 0 then some [(n / 16).toUInt8] else none
      else do
        let n := ((← value? w) * 64 + (← value? x)) * 64 + (← value? y)
        if n % 4 = 0 then some [(n / 1024).toUInt8, (n / 4 % 256).toUInt8] else none
    else do
      let n := (((← value? w) * 64 + (← value? x)) * 64 + (← value? y)) * 64 + (← value? z)
      let more ← decode rest
      some ((n / 65536).toUInt8 :: (n / 256 % 256).toUInt8 :: (n % 256).toUInt8 :: more)
  | _ => none

/-- The text for the UTF-8 form of a string. -/
def ofString (s : String) : String :=
  String.ofList (encode s.toUTF8.toList)

end SecurityEvents.Text.Base64
