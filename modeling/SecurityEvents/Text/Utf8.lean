set_option autoImplicit false

/-!
# Octets read as text

A JSON reader has to go through octets that are no UTF-8 when they stand in a part of the document that
nobody asks for. So octets are read as a sequence of *places*: a place is a character, or nothing where an
octet belongs to no character. Octets that are UTF-8 throughout have a character in every place.
-/

namespace SecurityEvents.Text

/-- The places from position `i` on: each character of the sequence, and nothing for an octet that
neither begins nor continues one. -/
def placesFrom (octets : ByteArray) (i : Nat) : List (Option Char) :=
  if _h : i < octets.size then
    match octets.utf8DecodeChar? i with
    | some c => some c :: placesFrom octets (i + c.utf8Size)
    | none => none :: placesFrom octets (i + 1)
  else []
termination_by octets.size - i
decreasing_by
  · have := c.utf8Size_pos
    omega
  · omega

/-- The places of a sequence of octets. -/
def places (octets : ByteArray) : List (Option Char) :=
  match String.fromUTF8? octets with
  | some s => s.toList.map some
  | none => placesFrom octets 0

/-- The places of a text. -/
def placesOf (s : String) : List (Option Char) :=
  s.toList.map some

/-- The characters of the places, if every place has one. -/
def filled? : List (Option Char) → Option (List Char)
  | [] => some []
  | none :: _ => none
  | some c :: rest => (filled? rest).map (c :: ·)

/-- The text that fills every place, if there is one. -/
def whole? (places : List (Option Char)) : Option String :=
  (filled? places).map String.ofList

@[simp] theorem filled?_map_some (cs : List Char) : filled? (cs.map some) = some cs := by
  induction cs with
  | nil => rfl
  | cons c cs ih => simp [filled?, ih]

@[simp] theorem whole?_placesOf (s : String) : whole? (placesOf s) = some s := by
  simp [whole?, placesOf]

/-- The octets of a text have its characters in their places. -/
@[simp] theorem places_toUTF8 (s : String) : places s.toUTF8 = placesOf s := by
  have h : String.fromUTF8? s.toUTF8 = some s := dif_pos s.isValidUTF8
  rw [places, h, placesOf]

end SecurityEvents.Text
