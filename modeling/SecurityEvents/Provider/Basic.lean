import SecurityEvents.Act
import SecurityEvents.Error
import SecurityEvents.Profile
set_option autoImplicit false

/-!
# Providers of profiles

A provider lists the profiles that are active now. The list is a snapshot: what changes afterwards does not
concern those who have it.
-/

namespace SecurityEvents

/-- Who lists the active profiles, with services of state `σ`. -/
structure Provider (σ : Type) where
  list : Act σ (Except Error (List Profile))

namespace Provider

/-- A provider of a part of the state. -/
def on {σ τ : Type} (part : Part σ τ) (p : Provider τ) : Provider σ where
  list := p.list.on part

/-- The profiles that are kept in memory. -/
def memory : Provider (List Profile) where
  list := do return .ok (← Act.state)

/-- Other profiles in memory. -/
def replace (profiles : List Profile) : Act (List Profile) Unit := do
  Act.setState profiles
  Act.note .profilesReplaced

end Provider

end SecurityEvents
