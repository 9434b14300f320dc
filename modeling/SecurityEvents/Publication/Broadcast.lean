import SecurityEvents.Publication.Policy
import SecurityEvents.Text.Quoted
import SecurityEvents.Number.Decimal
set_option autoImplicit false

/-!
# Broadcasting

A broadcast keeps the last tokens that were sent, up to its capacity, and passes them to every receiver that
had subscribed before. A receiver that falls behind loses what is no longer kept and goes on with the oldest
token that is. Without a receiver nothing is sent.

All sent tokens are numbered from zero on. The tokens kept are the last ones, so a receiver is no more than
the number of the token that it wants next.
-/

namespace SecurityEvents

/-- What is kept for the receivers. -/
structure Broadcast where
  policy : Policy
  /-- How many tokens are kept at most. -/
  capacity : Nat
  /-- The last tokens, the newest at the end. -/
  kept : List Published := []
  /-- How many tokens were sent so far. -/
  sent : Nat := 0
  /-- The number of the next token for each receiver; nothing where the receiver is gone. -/
  receivers : List (Option Nat) := []

/-- What a receiver gets: how many tokens it lost, and those that follow. -/
structure Reception where
  lost : Nat
  received : List Published
  deriving DecidableEq

namespace Broadcast

/-- The greatest number of tokens that can be asked for, `2⁵⁴`: room for more has no address. -/
def greatestCapacity : Nat := 0x40000000000000

/-- A broadcast with one receiver. It keeps a power of two of tokens, at least the number asked for, which
can be neither zero nor beyond `greatestCapacity`. -/
def start (capacity : Nat) (policy : Policy) : Except Panic Broadcast :=
  if capacity = 0 then .error (.text "broadcast channel capacity cannot be zero")
  else if greatestCapacity < capacity then .error (.text "capacity overflow")
  else .ok { policy, capacity := capacity.nextPowerOfTwo, receivers := [some 0] }

/-- How many receivers there are. -/
def receiverCount (b : Broadcast) : Nat :=
  b.receivers.countP (·.isSome)

/-- The number of the oldest token that is kept. -/
def oldest (b : Broadcast) : Nat :=
  b.sent - b.kept.length

/-- The broadcast after a token was sent. -/
def send (b : Broadcast) (p : Published) : Broadcast :=
  let all := b.kept ++ [p]
  { b with kept := all.drop (all.length - b.capacity), sent := b.sent + 1 }

/-- The broadcast with one more receiver, who gets what is sent from now on. -/
def subscribe (b : Broadcast) : Broadcast :=
  { b with receivers := b.receivers ++ [some b.sent] }

/-- Whether there is such a receiver. -/
def hasReceiver (b : Broadcast) (receiver : Nat) : Bool :=
  (b.receivers[receiver]?.bind id).isSome

/-- The broadcast without a receiver. -/
def unsubscribe (b : Broadcast) (receiver : Nat) : Broadcast :=
  { b with receivers := b.receivers.set receiver none }

/-- What a receiver gets now. -/
def reception? (b : Broadcast) (receiver : Nat) : Option Reception :=
  (b.receivers[receiver]?.bind id).map fun next =>
    ⟨b.oldest - next, b.kept.drop (next - b.oldest)⟩

/-- The broadcast after a receiver got everything. -/
def received (b : Broadcast) (receiver : Nat) : Broadcast :=
  if b.hasReceiver receiver then { b with receivers := b.receivers.set receiver (some b.sent) } else b

/-- The broadcast as a publisher. -/
def publisher : Publisher Broadcast where
  accepts context := do
    return (← Act.state).policy.isEnabled context
  publish token context := do
    let b ← Act.state
    if b.receiverCount = 0 then
      Act.note (.noSubscribers context.profileName)
      return .error .noSubscribers
    else
      Act.setState (b.send ⟨token, context⟩)
      return .ok ()

/-- What is done with a broadcast other than publishing. -/
inductive Control where
  /-- Another policy takes the place of the one in force. -/
  | setPolicy (regime : Regime)
  | setProfile (tenant profile : String) (enabled : Bool)
  | subscribe
  | unsubscribe (receiver : Nat)
  | receive (receiver : Nat)

/-- The broadcast after something was done with it. -/
def controlled (b : Broadcast) : Control → Broadcast
  | .setPolicy regime => { b with policy := regime.policy }
  | .setProfile tenant profile enabled => { b with policy := b.policy.setProfile tenant profile enabled }
  | .subscribe => b.subscribe
  | .unsubscribe receiver => b.unsubscribe receiver
  | .receive receiver => b.received receiver

/-- Does something with a broadcast. -/
def control (c : Control) : Act Broadcast Unit := do
  Act.setState ((← Act.state).controlled c)

/-- How a broadcast is described. -/
def description (b : Broadcast) : String :=
  Text.braced "BroadcastPublisher" [("receivers", Decimal.text b.receiverCount)]

end Broadcast

end SecurityEvents
