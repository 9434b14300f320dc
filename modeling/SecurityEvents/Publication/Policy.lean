import SecurityEvents.Publication.Basic
import SecurityEvents.Table
set_option autoImplicit false

/-!
# Policies

A policy says for which tenants and profiles anything is published. A switch for a profile of a tenant
counts before one for the tenant, and that before the default. A context without a tenant is one of the
tenant with the empty name.
-/

namespace SecurityEvents

/-- Switches by tenant, and by tenant and profile. -/
structure Policy where
  byDefault : Bool := true
  tenants : Table String Bool := .empty
  profiles : Table (String × String) Bool := .empty

namespace Policy

/-- The policy with a switch for a tenant. -/
def setTenant (p : Policy) (tenant : String) (enabled : Bool) : Policy :=
  { p with tenants := p.tenants.put tenant enabled }

/-- The policy with a switch for a profile of a tenant. -/
def setProfile (p : Policy) (tenant profile : String) (enabled : Bool) : Policy :=
  { p with profiles := p.profiles.put (tenant, profile) enabled }

/-- Whether anything is published for a profile of a tenant. -/
def enabledFor (p : Policy) (tenant profile : String) : Bool :=
  ((p.profiles.get? (tenant, profile)).or (p.tenants.get? tenant)).getD p.byDefault

/-- Whether anything is published for a context. -/
def isEnabled (p : Policy) (context : PublishContext) : Bool :=
  p.enabledFor (context.tenantDomain.getD "") context.profileName

/-- A switch for a tenant stands behind those for its profiles. -/
theorem enabledFor_setTenant (p : Policy) (tenant t profile : String) (enabled : Bool) :
    (p.setTenant tenant enabled).enabledFor t profile =
      if t = tenant then (p.profiles.get? (t, profile)).getD enabled else p.enabledFor t profile := by
  simp only [enabledFor, setTenant, Table.get?_put]
  split
  · cases p.profiles.get? (t, profile) <;> rfl
  · rfl

/-- A switch for a profile of a tenant concerns nothing else. -/
theorem enabledFor_setProfile (p : Policy) (tenant profile t q : String) (enabled : Bool) :
    (p.setProfile tenant profile enabled).enabledFor t q =
      if t = tenant ∧ q = profile then enabled else p.enabledFor t q := by
  simp only [enabledFor, setProfile, Table.get?_put, Prod.mk.injEq]
  split <;> rfl

end Policy

/-! ## Updates -/

/-- What something is published for: a tenant, or a profile of a tenant. -/
inductive Scope where
  | tenant (tenant : String)
  | profile (tenant profile : String)
  deriving DecidableEq, Repr

/-- Whether a context is within a scope. -/
def Scope.Covers (scope : Scope) (context : PublishContext) : Prop :=
  match scope with
  | .tenant t => context.tenantDomain.getD "" = t
  | .profile t q => context.tenantDomain.getD "" = t ∧ context.profileName = q

/-- An update of a policy. -/
structure Switch where
  scope : Scope
  enabled : Bool
  deriving DecidableEq, Repr

namespace Policy

/-- The policy after an update. -/
def set (p : Policy) (switch : Switch) : Policy :=
  match switch.scope with
  | .tenant tenant => p.setTenant tenant switch.enabled
  | .profile tenant profile => p.setProfile tenant profile switch.enabled

/-- The switch of a scope. -/
def setting? (p : Policy) : Scope → Option Bool
  | .tenant tenant => p.tenants.get? tenant
  | .profile tenant profile => p.profiles.get? (tenant, profile)

theorem setting?_set (p : Policy) (switch : Switch) (scope : Scope) :
    (p.set switch).setting? scope = if scope = switch.scope then some switch.enabled else p.setting? scope := by
  obtain ⟨target, enabled⟩ := switch
  cases target <;> cases scope <;>
    simp only [set, setting?, setTenant, setProfile, Table.get?_put, Scope.tenant.injEq, Scope.profile.injEq,
      Prod.mk.injEq, reduceCtorEq, if_false]

@[simp] theorem byDefault_set (p : Policy) (switch : Switch) : (p.set switch).byDefault = p.byDefault := by
  obtain ⟨target, enabled⟩ := switch
  cases target <;> rfl

theorem enabledFor_eq (p : Policy) (tenant profile : String) :
    p.enabledFor tenant profile
      = ((p.setting? (.profile tenant profile)).or (p.setting? (.tenant tenant))).getD p.byDefault := rfl

end Policy

/-- How a policy came about: what it says by default, and its updates since it was created, in their order. -/
structure Regime where
  byDefault : Bool
  switches : List Switch := []

namespace Regime

/-- The policy that came about so. -/
def policy (r : Regime) : Policy :=
  r.switches.foldl Policy.set { byDefault := r.byDefault }

/-- The regime with one more update. -/
def update (r : Regime) (switch : Switch) : Regime :=
  { r with switches := r.switches ++ [switch] }

@[simp] theorem policy_update (r : Regime) (switch : Switch) :
    (r.update switch).policy = r.policy.set switch := by
  rw [policy, update, List.foldl_append]
  rfl

end Regime

end SecurityEvents
