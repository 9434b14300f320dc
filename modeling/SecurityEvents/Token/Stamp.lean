import SecurityEvents.Token.Basic
set_option autoImplicit false

/-!
# Stamps

Every token is stamped with a time and an id. The time comes from a clock that never goes back: it gives the
greatest reading of the wall clock so far, and nothing below zero. The ids come from a supply.
-/

namespace SecurityEvents

/-- A clock over the readings of a wall clock, of which some have been taken. -/
structure Clock where
  readings : Nat → Int64
  taken : Nat := 0
  last : Int64 := 0

namespace Clock

/-- The time to issue a token at. -/
def now (c : Clock) : Int64 :=
  max c.last (c.readings c.taken)

/-- The clock after it was asked once. -/
def tick (c : Clock) : Clock :=
  { c with taken := c.taken + 1, last := c.now }

/-- The time is not before any that was given earlier. -/
theorem last_le_now (c : Clock) : c.last ≤ c.now := by
  simp only [now, Int64.le_iff_toInt_le]
  change c.last.toInt
    ≤ (if c.last ≤ c.readings c.taken then c.readings c.taken else c.last).toInt
  split
  · rename_i h
    exact Int64.le_iff_toInt_le.1 h
  · exact Int.le_refl _

end Clock

/-- A supply of ids, of which some have been drawn. -/
structure IdSupply where
  ids : Nat → String
  drawn : Nat := 0

namespace IdSupply

/-- The next id. -/
def next (s : IdSupply) : String :=
  s.ids s.drawn

/-- The supply after one id was drawn. -/
def draw (s : IdSupply) : IdSupply :=
  { s with drawn := s.drawn + 1 }

end IdSupply

/-- What tells a token from another announcement of the same. -/
structure Stamp where
  issuedAt : Int64
  id : String
  deriving DecidableEq, Repr

/-- Where stamps come from. -/
structure Stamper where
  clock : Clock
  supply : IdSupply

namespace Stamper

/-- The next stamp. -/
def next (s : Stamper) : Stamp :=
  ⟨s.clock.now, s.supply.next⟩

/-- The stamper after one stamp was given. -/
def advance (s : Stamper) : Stamper :=
  ⟨s.clock.tick, s.supply.draw⟩

end Stamper

/-- What the tokens of one announcement have in common. -/
structure Envelope where
  issuer : String
  correlationId : Option String := none
  subject : Option SubjectId := none
  deriving DecidableEq, Repr

namespace Envelope

/-- The token for a payload. -/
def token (e : Envelope) (stamp : Stamp) (payload : Payload) (eventUri : String) : Token where
  issuer := e.issuer
  issuedAt := stamp.issuedAt
  id := stamp.id
  correlationId := e.correlationId
  subject := e.subject
  events := .single eventUri payload

end Envelope

end SecurityEvents
