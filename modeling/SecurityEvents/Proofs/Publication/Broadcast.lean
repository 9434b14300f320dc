import SecurityEvents.Proofs.Act
import SecurityEvents.Proofs.Publication.Policy
import SecurityEvents.Publication.Broadcast
set_option autoImplicit false

/-!
# What a broadcast keeps

A broadcast keeps nothing but what was sent, and a receiver gets nothing but what is kept. What is done with a
broadcast other than publishing sends nothing; `Regime.after` says which updates the policy in force has had since.
-/

namespace SecurityEvents

namespace Broadcast

/-- Without a receiver nothing is sent. -/
theorem publish_eq (token : Token) (context : PublishContext) (s : Scene Broadcast) :
    publisher.publish token context s =
      if s.state.receiverCount = 0 then
        .ok (.error .noSubscribers) ((Act.note (.noSubscribers context.profileName)).after s)
      else .ok (.ok ()) { s with state := s.state.send ⟨token, context⟩ } := by
  refine (Act.bind_of_ok _ (rfl : Act.state s = .ok s.state s)).trans ?_
  by_cases h : s.state.receiverCount = 0
  · rw [if_pos h, if_pos h]
    rfl
  · rw [if_neg h, if_neg h]
    rfl

theorem mem_kept_send {b : Broadcast} {v w : Published} (h : w ∈ (b.send v).kept) : w ∈ b.kept ∨ w = v := by
  have hall : w ∈ b.kept ++ [v] := List.mem_of_mem_drop h
  rcases List.mem_append.1 hall with hkept | hsent
  · exact .inl hkept
  · exact .inr (List.mem_singleton.1 hsent)

theorem kept_controlled (b : Broadcast) (c : Control) : (b.controlled c).kept = b.kept := by
  cases c with
  | receive receiver =>
    rw [controlled, received]
    split <;> rfl
  | setPolicy | setProfile | subscribe | unsubscribe => rfl

theorem mem_kept_of_reception {b : Broadcast} {receiver : Nat} {reception : Reception}
    (h : b.reception? receiver = some reception) {v : Published} (hv : v ∈ reception.received) : v ∈ b.kept := by
  obtain ⟨next, _, rfl⟩ := Option.map_eq_some_iff.1 h
  exact List.mem_of_mem_drop hv

theorem policy_of_start {capacity : Nat} {policy : Policy} {b : Broadcast}
    (h : start capacity policy = .ok b) : b.policy = policy ∧ b.kept = [] := by
  unfold start at h
  split at h
  · cases h
  · split at h
    · cases h
    · cases h
      exact ⟨rfl, rfl⟩

end Broadcast

/-- The updates of the policy in force, after something was done with the broadcast. -/
def Regime.after (r : Regime) : Broadcast.Control → Regime
  | .setPolicy regime => regime
  | .setProfile tenant profile enabled => r.update ⟨.profile tenant profile, enabled⟩
  | .subscribe | .unsubscribe _ | .receive _ => r

theorem Broadcast.policy_controlled {b : Broadcast} {r : Regime} (h : b.policy = r.policy) (c : Control) :
    (b.controlled c).policy = (r.after c).policy := by
  cases c with
  | setPolicy regime => rfl
  | setProfile tenant profile enabled =>
    rw [Regime.after, Regime.policy_update, ← h]
    rfl
  | receive receiver =>
    rw [controlled, received]
    split <;> exact h
  | subscribe | unsubscribe => exact h

end SecurityEvents
