import SecurityEvents.Token.Stamp
set_option autoImplicit false

/-!
# Stamps for rehearsals

For trying out a dispatcher: stamps that do not depend on the day, and a look at the stamps of tokens that
were issued.
-/

namespace SecurityEvents

/-- The id number `n`, in the form of a random UUID: version 4, variant 1. -/
def numberedId (n : Nat) : String :=
  let digits := Nat.toDigits 16 n
  String.ofList
    ("00000000-0000-4000-8000-".toList ++ List.replicate (12 - digits.length) '0' ++ digits)

/-- Stamps with numbered ids from a wall clock that stands still. -/
def Stamper.standing (time : Int64) : Stamper where
  clock := { readings := fun _ => time }
  supply := { ids := numberedId }

namespace Token

/-- The token with another stamp. -/
def stamped (t : Token) (stamp : Stamp) : Token :=
  { t with issuedAt := stamp.issuedAt, id := stamp.id }

/-- Whether the stamps are those of tokens that were issued one after the other: ids that differ, and times
above zero that never decrease. -/
def issuedInOrder (tokens : List Token) : Bool :=
  (tokens.map (·.id)).Nodup && tokens.all (0 < ·.issuedAt)
    && (tokens.map (·.issuedAt)).Pairwise (· ≤ ·)

end Token

end SecurityEvents
