import SecurityEvents.Publication.Policy
set_option autoImplicit false

/-!
# What a policy says

What a policy says of a profile of a tenant follows from its updates alone: the last one for the profile of the tenant
counts, else the last one for the tenant, else the default (`Regime.Decides`, `Regime.decides_iff`). So an update
concerns the contexts within its scope only, and the order of two updates with different scopes does not matter,
whatever is updated later.
-/

namespace SecurityEvents

namespace Policy

theorem setting?_foldl_of_forall_ne {switches : List Switch} {scope : Scope}
    (h : ∀ switch ∈ switches, switch.scope ≠ scope) (p : Policy) :
    (switches.foldl set p).setting? scope = p.setting? scope := by
  induction switches generalizing p with
  | nil => rfl
  | cons switch rest ih =>
    obtain ⟨hswitch, hrest⟩ := List.forall_mem_cons.1 h
    rw [List.foldl_cons, ih hrest, setting?_set, if_neg hswitch.symm]

theorem byDefault_foldl (switches : List Switch) (p : Policy) :
    (switches.foldl set p).byDefault = p.byDefault := by
  induction switches generalizing p with
  | nil => rfl
  | cons switch rest ih => rw [List.foldl_cons, ih, byDefault_set]

/-! ## One update and two updates -/

/-- An update concerns the contexts within its scope and no others. -/
theorem isEnabled_set_of_not_covers (p : Policy) {switch : Switch} {context : PublishContext}
    (h : ¬ switch.scope.Covers context) : (p.set switch).isEnabled context = p.isEnabled context := by
  obtain ⟨scope, enabled⟩ := switch
  cases scope with
  | tenant tenant => exact (p.enabledFor_setTenant ..).trans (if_neg h)
  | profile tenant profile => exact (p.enabledFor_setProfile ..).trans (if_neg h)

/-- Two policies with the same switches and the same default. -/
structure Agrees (p q : Policy) : Prop where
  byDefault_eq : p.byDefault = q.byDefault
  setting?_eq : ∀ scope, p.setting? scope = q.setting? scope

theorem Agrees.set {p q : Policy} (h : p.Agrees q) (switch : Switch) : (p.set switch).Agrees (q.set switch) := by
  refine ⟨?_, fun scope => ?_⟩
  · rw [byDefault_set, byDefault_set, h.byDefault_eq]
  · rw [setting?_set, setting?_set, h.setting?_eq]

theorem Agrees.isEnabled_eq {p q : Policy} (h : p.Agrees q) (context : PublishContext) :
    p.isEnabled context = q.isEnabled context := by
  rw [isEnabled, isEnabled, enabledFor_eq, enabledFor_eq, h.byDefault_eq, h.setting?_eq, h.setting?_eq]

theorem agrees_set_set (p : Policy) {a b : Switch} (h : a.scope ≠ b.scope) :
    ((p.set a).set b).Agrees ((p.set b).set a) := by
  refine ⟨?_, fun scope => ?_⟩
  · simp only [byDefault_set]
  · simp only [setting?_set]
    by_cases hb : scope = b.scope
    · have ha : scope ≠ a.scope := fun ha => h (ha.symm.trans hb)
      rw [if_pos hb, if_neg ha, if_pos hb]
    · rw [if_neg hb, if_neg hb]

/-- Updates with different scopes commute, whatever follows. -/
theorem isEnabled_set_comm (p : Policy) {a b : Switch} (h : a.scope ≠ b.scope) (switches : List Switch)
    (context : PublishContext) :
    (switches.foldl set ((p.set a).set b)).isEnabled context
      = (switches.foldl set ((p.set b).set a)).isEnabled context := by
  have hagrees : ∀ {q r : Policy}, q.Agrees r → (switches.foldl set q).Agrees (switches.foldl set r) := by
    induction switches with
    | nil => exact fun hqr => hqr
    | cons switch rest ih => exact fun hqr => ih (hqr.set switch)
  exact (hagrees (p.agrees_set_set h)).isEnabled_eq context

end Policy

/-! ## All updates -/

namespace Regime

/-- The last update of a scope. -/
def Sets (r : Regime) (scope : Scope) (enabled : Bool) : Prop :=
  ∃ before after, r.switches = before ++ ⟨scope, enabled⟩ :: after ∧ ∀ switch ∈ after, switch.scope ≠ scope

/-- The scope was never updated. -/
def Leaves (r : Regime) (scope : Scope) : Prop :=
  ∀ switch ∈ r.switches, switch.scope ≠ scope

/-- What the updates so far say of a profile of a tenant. -/
inductive Decides (r : Regime) (tenant profile : String) : Bool → Prop
  | profile {enabled : Bool} (h : r.Sets (.profile tenant profile) enabled) : r.Decides tenant profile enabled
  | tenant {enabled : Bool} (hprofile : r.Leaves (.profile tenant profile))
      (h : r.Sets (.tenant tenant) enabled) : r.Decides tenant profile enabled
  | byDefault (hprofile : r.Leaves (.profile tenant profile)) (htenant : r.Leaves (.tenant tenant)) :
      r.Decides tenant profile r.byDefault

variable {r : Regime} {scope : Scope}

theorem sets_or_leaves (r : Regime) (scope : Scope) : (∃ enabled, r.Sets scope enabled) ∨ r.Leaves scope := by
  obtain ⟨byDefault, switches⟩ := r
  induction switches with
  | nil => exact .inr fun _ h => (List.not_mem_nil h).elim
  | cons switch rest ih =>
    rcases ih with ⟨enabled, before, after, hrest, hafter⟩ | hrest
    · exact .inl ⟨enabled, switch :: before, after, congrArg (switch :: ·) hrest, hafter⟩
    · by_cases hscope : switch.scope = scope
      · subst hscope
        exact .inl ⟨switch.enabled, [], rest, rfl, hrest⟩
      · exact .inr (List.forall_mem_cons.2 ⟨hscope, hrest⟩)

theorem Sets.setting?_eq {enabled : Bool} (h : r.Sets scope enabled) :
    r.policy.setting? scope = some enabled := by
  obtain ⟨before, after, hswitches, hafter⟩ := h
  rw [policy, hswitches, List.foldl_append, List.foldl_cons, Policy.setting?_foldl_of_forall_ne hafter,
    Policy.setting?_set, if_pos rfl]

theorem Leaves.setting?_eq (h : r.Leaves scope) : r.policy.setting? scope = none := by
  rw [policy, Policy.setting?_foldl_of_forall_ne h]
  cases scope <;> rfl

theorem byDefault_policy (r : Regime) : r.policy.byDefault = r.byDefault :=
  Policy.byDefault_foldl ..

theorem Decides.enabledFor_eq {tenant profile : String} {enabled : Bool}
    (h : r.Decides tenant profile enabled) : r.policy.enabledFor tenant profile = enabled := by
  rw [Policy.enabledFor_eq]
  cases h with
  | profile h =>
    rw [h.setting?_eq]
    rfl
  | tenant hprofile h =>
    rw [hprofile.setting?_eq, h.setting?_eq]
    rfl
  | byDefault hprofile htenant =>
    rw [hprofile.setting?_eq, htenant.setting?_eq]
    exact r.byDefault_policy

theorem exists_decides (r : Regime) (tenant profile : String) : ∃ enabled, r.Decides tenant profile enabled := by
  rcases r.sets_or_leaves (.profile tenant profile) with ⟨enabled, hsets⟩ | hprofile
  · exact ⟨enabled, .profile hsets⟩
  rcases r.sets_or_leaves (.tenant tenant) with ⟨enabled, hsets⟩ | htenant
  · exact ⟨enabled, .tenant hprofile hsets⟩
  · exact ⟨r.byDefault, .byDefault hprofile htenant⟩

/-- The policy says what its updates say. -/
theorem decides_iff {tenant profile : String} {enabled : Bool} :
    r.Decides tenant profile enabled ↔ r.policy.enabledFor tenant profile = enabled := by
  refine ⟨Decides.enabledFor_eq, ?_⟩
  rintro rfl
  obtain ⟨enabled, hdecides⟩ := r.exists_decides tenant profile
  rw [hdecides.enabledFor_eq]
  exact hdecides

end Regime

end SecurityEvents
