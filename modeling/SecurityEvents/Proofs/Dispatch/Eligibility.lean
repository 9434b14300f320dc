import Mathlib.Data.List.Forall2
import SecurityEvents.Proofs.Condition
import SecurityEvents.Proofs.Dispatch.Decision
import SecurityEvents.Proofs.Rehearsal
set_option autoImplicit false

/-!
# Who is eligible

A chain of gates answers with its first denial, and the gates behind it are never asked; a gate that panics in front of
it hides it. In which order gates stand does not matter for what is let through, as long as they share no state
(`Gate.Independent`); gates that do may let through in one order what they deny in another. Of the standard gates, all
but the last answer at once, on the conditions that `localConditions` lists for logins; the publisher is asked behind
them.
-/

namespace SecurityEvents

open Condition

namespace Gate

variable {σ : Type} {input : GateInput}

/-! ## The first that does not allow -/

/-- Behind gates that allow, a gate denies. -/
inductive FirstDenial (input : GateInput) (gates : List (Gate σ)) (s : Scene σ) : Denial → Scene σ → Prop where
  | intro {before : List (Gate σ)} {gate : Gate σ} {after : List (Gate σ)} {reason : String} {s₁ s₂ : Scene σ}
    (hgates : gates = before ++ gate :: after) (hpass : Pass input before s s₁)
    (hdeny : gate.check input s₁ = .ok (.deny reason) s₂) : FirstDenial input gates s ⟨gate.name, reason⟩ s₂

/-- Behind gates that allow, a gate panics. -/
inductive FirstPanic (input : GateInput) (gates : List (Gate σ)) (s : Scene σ) : Panic → Scene σ → Prop where
  | intro {before : List (Gate σ)} {gate : Gate σ} {after : List (Gate σ)} {panic : Panic} {s₁ s₂ : Scene σ}
    (hgates : gates = before ++ gate :: after) (hpass : Pass input before s s₁)
    (hpanic : gate.check input s₁ = .error panic s₂) : FirstPanic input gates s panic s₂

section Chain

variable {gates : List (Gate σ)} {s s' : Scene σ}

theorem FirstDenial.evaluate_eq {denial : Denial} (h : FirstDenial input gates s denial s') :
    evaluate gates input s = .ok (.error denial) s' := by
  obtain ⟨rfl, hpass, hdeny⟩ := h
  exact hpass.evaluate_eq_of_deny hdeny

theorem FirstPanic.evaluate_eq {panic : Panic} (h : FirstPanic input gates s panic s') :
    evaluate gates input s = .error panic s' := by
  obtain ⟨rfl, hpass, hpanic⟩ := h
  exact hpass.evaluate_eq_of_panic hpanic

theorem pass_or_first (input : GateInput) (gates : List (Gate σ)) (s : Scene σ) :
    (∃ s', Pass input gates s s') ∨ (∃ denial s', FirstDenial input gates s denial s')
      ∨ ∃ panic s', FirstPanic input gates s panic s' := by
  obtain hpass | ⟨before, gate, after, s₁, s₂, hgates, hpass, ⟨reason, hdeny⟩ | ⟨panic, hpanic⟩⟩ :=
    @pass_or_stop σ input gates s
  · exact .inl hpass
  · exact .inr (.inl ⟨_, s₂, .intro hgates hpass hdeny⟩)
  · exact .inr (.inr ⟨panic, s₂, .intro hgates hpass hpanic⟩)

theorem evaluate_eq_ok_iff : evaluate gates input s = .ok (.ok ()) s' ↔ Pass input gates s s' := by
  refine ⟨fun h => ?_, Pass.evaluate_eq⟩
  obtain ⟨_, hfirst⟩ | ⟨_, _, hfirst⟩ | ⟨_, _, hfirst⟩ := pass_or_first input gates s
  · cases hfirst.evaluate_eq.symm.trans h
    exact hfirst
  · cases hfirst.evaluate_eq.symm.trans h
  · cases hfirst.evaluate_eq.symm.trans h

theorem evaluate_eq_error_iff {denial : Denial} :
    evaluate gates input s = .ok (.error denial) s' ↔ FirstDenial input gates s denial s' := by
  refine ⟨fun h => ?_, FirstDenial.evaluate_eq⟩
  obtain ⟨_, hfirst⟩ | ⟨_, _, hfirst⟩ | ⟨_, _, hfirst⟩ := pass_or_first input gates s
  · cases hfirst.evaluate_eq.symm.trans h
  · cases hfirst.evaluate_eq.symm.trans h
    exact hfirst
  · cases hfirst.evaluate_eq.symm.trans h

theorem evaluate_eq_panic_iff {panic : Panic} :
    evaluate gates input s = .error panic s' ↔ FirstPanic input gates s panic s' := by
  refine ⟨fun h => ?_, FirstPanic.evaluate_eq⟩
  obtain ⟨_, hfirst⟩ | ⟨_, _, hfirst⟩ | ⟨_, _, hfirst⟩ := pass_or_first input gates s
  · cases hfirst.evaluate_eq.symm.trans h
  · cases hfirst.evaluate_eq.symm.trans h
  · cases hfirst.evaluate_eq.symm.trans h
    exact hfirst

end Chain

/-! ## In any order -/

/-- Neither of two gates changes how the other answers. -/
structure Apart (input : GateInput) (gate other : Gate σ) : Prop where
  unmoved : ∀ s, (gate.check input).answer ((other.check input).after s) = (gate.check input).answer s
  unmoving : ∀ s, (other.check input).answer ((gate.check input).after s) = (other.check input).answer s

/-- Each gate decides for itself: they share no state. Gates that do may decide otherwise in another order. -/
def Independent (input : GateInput) (gates : List (Gate σ)) : Prop :=
  gates.Pairwise (Apart input)

theorem Apart.symm {gate other : Gate σ} (h : Apart input gate other) : Apart input other gate :=
  ⟨h.unmoving, h.unmoved⟩

theorem Independent.perm {gates others : List (Gate σ)} (h : Independent input gates) (hperm : others.Perm gates) :
    Independent input others :=
  (hperm.pairwise_iff Apart.symm).2 h

/-- A gate that answers at once has no state to share. -/
theorem apart_of_pure {gate : Gate σ} {decision : Decision} (h : gate.check input = pure decision)
    (other : Gate σ) : Apart input gate other := by
  constructor <;> intro s <;> rw [h] <;> rfl

/-- Independent gates allow together what each of them allows from the start. -/
theorem Independent.answer_eq_ok_iff {gates : List (Gate σ)} (h : Independent input gates) (s : Scene σ) :
    (evaluate gates input).answer s = .ok (.ok ())
      ↔ ∀ gate ∈ gates, (gate.check input).answer s = .ok .allow := by
  induction gates generalizing s with
  | nil => simp [evaluate]
  | cons gate rest ih =>
    obtain ⟨hgate, hrest⟩ := List.pairwise_cons.1 h
    rw [List.forall_mem_cons, evaluate]
    cases hanswer : (gate.check input).answer s with
    | error panic => simp [Act.answer_bind_of_error _ hanswer]
    | ok decision =>
      rw [Act.answer_bind_of_ok _ hanswer]
      cases decision with
      | deny reason => simp
      | allow =>
        rw [ih hrest]
        simp only [true_and]
        exact forall₂_congr fun other hother => by rw [(hgate other hother).unmoving]

/-- Independent gates that do not panic answer together. -/
theorem Independent.exists_answer {gates : List (Gate σ)} (h : Independent input gates) {s : Scene σ}
    (hanswers : ∀ gate ∈ gates, ∃ decision, (gate.check input).answer s = .ok decision) :
    ∃ result, (evaluate gates input).answer s = .ok result := by
  induction gates generalizing s with
  | nil => exact ⟨_, rfl⟩
  | cons gate rest ih =>
    obtain ⟨hgate, hrest⟩ := List.pairwise_cons.1 h
    obtain ⟨⟨decision, hdecision⟩, hothers⟩ := List.forall_mem_cons.1 hanswers
    rw [evaluate, Act.answer_bind_of_ok _ hdecision]
    cases decision with
    | deny reason => exact ⟨_, rfl⟩
    | allow =>
      refine ih hrest fun other hother => ?_
      rw [(hgate other hother).unmoving]
      exact hothers other hother

/-! ## Gates that answer at once -/

/-- The gate answers at once, and allows if the condition is met; otherwise it tells what the condition tells. -/
structure AnswersAtOnce (input : GateInput) (gate : Gate σ) (c : Condition Denial) : Prop where
  allow : c.Met → gate.check input = pure .allow
  deny : ¬ c.Met → ∃ reason, gate.check input = pure (.deny reason)
    ∧ ∀ denial, c.Tells denial ↔ denial = ⟨gate.name, reason⟩

/-- Gates that answer at once leave the answer to those behind them if all conditions are met, and otherwise they tell
of the first that is not. -/
theorem restsOn_evaluate {gates : List (Gate σ)} {conditions : List (Condition Denial)}
    (h : List.Forall₂ (AnswersAtOnce input) gates conditions) :
    ∃ result, RestsOn result conditions
      ∧ (result = .ok () → ∀ behind, evaluate (gates ++ behind) input = evaluate behind input)
      ∧ ∀ denial, result = .error denial → ∀ behind, evaluate (gates ++ behind) input = pure (.error denial) := by
  induction h with
  | nil =>
    refine ⟨.ok (), restsOn_ok (), fun _ _ => rfl, fun denial h => ?_⟩
    cases h
  | @cons gate c rest conditions hgate _ ih =>
    by_cases hmet : c.Met
    · obtain ⟨result, hrests, hallow, hdeny⟩ := ih
      have hrest (behind : List (Gate σ)) :
          evaluate ((gate :: rest) ++ behind) input = evaluate (rest ++ behind) input := by
        rw [List.cons_append, evaluate, hgate.allow hmet]
        rfl
      exact ⟨result, hrests.of_met hmet, fun h behind => (hrest behind).trans (hallow h behind),
        fun denial h behind => (hrest behind).trans (hdeny denial h behind)⟩
    · obtain ⟨reason, hreason, htells⟩ := hgate.deny hmet
      refine ⟨.error ⟨gate.name, reason⟩, restsOn_error hmet htells, fun h => ?_, fun denial h behind => ?_⟩
      · cases h
      · rw [List.cons_append, evaluate, hreason, ← Except.error.inj h]
        rfl

/-- The fact holds of no login that is asked about. -/
def loginCondition (input : GateInput) (fact : AuthenticationContext → Prop) (denial : Denial) :
    Condition Denial where
  Met := input.category.isLogin = true → ∀ context, input.data.authentication = some context → ¬ fact context
  Tells told := told = denial

theorem answersAtOnce_denyLogin {name reason : String} {fact : AuthenticationContext → Bool}
    {statedFact : AuthenticationContext → Prop} (hfact : ∀ context, fact context = true ↔ statedFact context) :
    AnswersAtOnce input (⟨name, fun input => pure (denyLogin input fact reason)⟩ : Gate σ)
      (loginCondition input statedFact ⟨name, reason⟩) := by
  have hmet : (loginCondition input statedFact ⟨name, reason⟩).Met
      ↔ ¬ (input.category.isLogin && input.data.authentication.any fact) = true := by
    simp only [loginCondition, Bool.and_eq_true, Option.any_eq_true, hfact]
    grind
  constructor
  · intro h
    simp only [denyLogin, if_neg (hmet.1 h)]
  · intro h
    refine ⟨reason, ?_, fun _ => Iff.rfl⟩
    simp only [denyLogin, if_pos (not_not.1 (mt hmet.2 h))]

/-! ## The standard gates -/

/-- What is asked of a login before the publisher is, in this order: it has a prompt, it is not to the system
application, and the user is not federated through the identity provider of the organization. -/
def localConditions (config : Configuration) (input : GateInput) : List (Condition Denial) :=
  [loginCondition input (fun context => context.passiveAuthenticate = true)
      ⟨"passive_authentication", "passive authentication"⟩,
    loginCondition input (fun context => context.serviceProviderName = some config.systemApplication)
      ⟨"system_application", "login to system application " ++ config.systemApplication⟩,
    loginCondition input (fun context => ∃ user, context.authenticatedUser = some user ∧ user.federatedUser = true
        ∧ user.federatedIdpName = some config.organizationIdp)
      ⟨"organization_federation", "organization federated user"⟩]

/-- The standard gates that ask nobody. -/
def localGates (config : Configuration) : List (Gate σ) :=
  [passiveAuthentication, systemApplication config.systemApplication, organizationFederation config.organizationIdp]

theorem localGates_answer (config : Configuration) (input : GateInput) :
    List.Forall₂ (AnswersAtOnce input) (localGates config : List (Gate σ)) (localConditions config input) := by
  refine .cons (answersAtOnce_denyLogin fun _ => Iff.rfl) (.cons (answersAtOnce_denyLogin fun context => ?_)
    (.cons (answersAtOnce_denyLogin fun context => ?_) .nil))
  · exact decide_eq_true_iff
  · simp only [Option.any_eq_true, Bool.and_eq_true, decide_eq_true_iff]

/-- How the publisher's answer is reported. -/
def publishing (taken : Bool) : Except Denial Unit :=
  if taken then .ok () else .error ⟨"publish_enabled", "publishing disabled"⟩

variable {config : Configuration} {publisher : Publisher σ}

theorem evaluate_publishEnabled (publisher : Publisher σ) (input : GateInput) :
    evaluate [publishEnabled publisher] input = publishing <$> publisher.accepts input.context := by
  funext s
  simp only [evaluate, publishEnabled, bind_assoc]
  cases hanswer : publisher.accepts input.context s with
  | error panic s' =>
    rw [Act.bind_of_error _ hanswer]
    simp only [Functor.map, EStateM.map, hanswer]
  | ok taken s' =>
    rw [Act.bind_of_ok _ hanswer, Act.map_of_ok _ hanswer]
    cases taken <;> rfl

theorem local_met_or_firstTold (config : Configuration) (input : GateInput) :
    (∀ c ∈ localConditions config input, c.Met)
      ∨ ∃ denial, ∀ told, FirstTold (localConditions config input) told ↔ told = denial := by
  obtain ⟨_, hrests, _⟩ := restsOn_evaluate (localGates_answer (σ := Unit) config input)
  exact hrests.met_or_firstTold

/-- If nothing local is in the way, all that happens is that the publisher is asked. -/
theorem evaluate_standard_of_met (h : ∀ c ∈ localConditions config input, c.Met) :
    evaluate (standard config publisher) input = publishing <$> publisher.accepts input.context := by
  obtain ⟨_, hrests, hallow, _⟩ := restsOn_evaluate (localGates_answer (σ := σ) config input)
  obtain ⟨_, rfl⟩ := hrests.exists_ok_iff.2 h
  exact (hallow rfl [publishEnabled publisher]).trans (evaluate_publishEnabled publisher input)

/-- If something local is in the way, it is told at once. -/
theorem evaluate_standard_of_firstTold {denial : Denial} (h : FirstTold (localConditions config input) denial) :
    evaluate (standard config publisher) input = pure (.error denial) := by
  obtain ⟨_, hrests, _, hdeny⟩ := restsOn_evaluate (localGates_answer (σ := σ) config input)
  exact hdeny denial ((hrests.eq_error_iff denial).2 h) [publishEnabled publisher]

/-- Nothing local is in the way of what is no login. -/
theorem local_met_of_not_login (config : Configuration) (hlogin : input.category.isLogin = false) :
    ∀ c ∈ localConditions config input, c.Met := by
  have hmet (fact : AuthenticationContext → Prop) (denial : Denial) : (loginCondition input fact denial).Met :=
    fun h => nomatch hlogin.symm.trans h
  exact List.forall_mem_cons.2 ⟨hmet _ _, List.forall_mem_cons.2 ⟨hmet _ _, List.forall_mem_singleton.2 (hmet _ _)⟩⟩

/-- At most one standard gate has a state, so they are independent whatever the publisher does. -/
theorem independent_standard (config : Configuration) (publisher : Publisher σ) (input : GateInput) :
    Independent input (standard config publisher) := by
  refine .cons (fun other _ => apart_of_pure rfl other) (.cons (fun other _ => apart_of_pure rfl other)
    (.cons (fun other _ => apart_of_pure rfl other) (List.pairwise_singleton _ _)))

/-- How the standard gates answer: for the first local condition that is not met, or else as the publisher does. -/
structure AnswersStandard (input : GateInput) (config : Configuration) (publisher : Publisher σ) (s : Scene σ) :
    Prop where
  denied_iff : ∀ denial, (evaluate (standard config publisher) input).answer s = .ok (.error denial)
    ↔ FirstTold (localConditions config input) denial
      ∨ (∀ c ∈ localConditions config input, c.Met) ∧ (publisher.accepts input.context).answer s = .ok false
        ∧ denial = ⟨"publish_enabled", "publishing disabled"⟩
  allowed_iff : (evaluate (standard config publisher) input).answer s = .ok (.ok ())
    ↔ (∀ c ∈ localConditions config input, c.Met) ∧ (publisher.accepts input.context).answer s = .ok true
  panicked_iff : ∀ panic, (evaluate (standard config publisher) input).answer s = .error panic
    ↔ (∀ c ∈ localConditions config input, c.Met) ∧ (publisher.accepts input.context).answer s = .error panic

theorem answersStandard (input : GateInput) (config : Configuration) (publisher : Publisher σ) (s : Scene σ) :
    AnswersStandard input config publisher s := by
  obtain hmet | ⟨denial, htold⟩ := local_met_or_firstTold config input
  · have hnone (told : Denial) : ¬ FirstTold (localConditions config input) told := fun h => by
      obtain ⟨c, hc, hunmet⟩ := h.exists_unmet
      exact hunmet (hmet c hc)
    have hanswer : (evaluate (standard config publisher) input).answer s
        = publishing <$> (publisher.accepts input.context).answer s := by
      rw [evaluate_standard_of_met hmet, Act.answer_map]
    constructor
    all_goals
      simp only [hanswer, hnone, eq_true hmet, true_and, false_or]
      cases (publisher.accepts input.context).answer s with
      | error panic => simp
      | ok taken => cases taken <;> simp [publishing, eq_comm]
  · have hdenial := (htold denial).2 rfl
    obtain ⟨c, hc, hunmet⟩ := hdenial.exists_unmet
    have hsome : ¬ ∀ c ∈ localConditions config input, c.Met := fun h => hunmet (h c hc)
    have hanswer : (evaluate (standard config publisher) input).answer s = .ok (.error denial) := by
      rw [evaluate_standard_of_firstTold hdenial]
      rfl
    constructor
    all_goals
      simp only [hanswer, hsome, false_and, or_false, htold]
      simp [eq_comm]

end Gate

/-! ## How often the publisher is asked -/

/-- The services beside a tally. -/
def Part.untallied (σ : Type) : Part (σ × Nat) σ where
  get s := s.1
  set services s := (services, s.2)

/-- The publisher, and a tally of how often it is asked what it takes. -/
def Publisher.tallied {σ : Type} (publisher : Publisher σ) : Publisher (σ × Nat) where
  accepts context := do
    let s ← Act.state
    Act.setState (s.1, s.2 + 1)
    (publisher.accepts context).on (.untallied σ)
  publish token context := (publisher.publish token context).on (.untallied σ)

namespace Gate

variable {σ : Type}

/-- How often the standard gates ask the publisher what it takes: once, even if it panics, unless something local is in
the way. To keep a tally of that changes no answer. -/
structure AsksOnce (input : GateInput) (config : Configuration) (publisher : Publisher σ) (s : Scene (σ × Nat)) :
    Prop where
  answer_eq : (evaluate (standard config publisher.tallied) input).answer s
    = (evaluate (standard config publisher) input).answer ⟨s.state.1, s.notices⟩
  once : (∀ c ∈ localConditions config input, c.Met) →
    ((evaluate (standard config publisher.tallied) input).after s).state.2 = s.state.2 + 1
  never : (∃ c ∈ localConditions config input, ¬ c.Met) →
    (evaluate (standard config publisher.tallied) input).after s = s

theorem asksOnce (input : GateInput) (config : Configuration) (publisher : Publisher σ) (s : Scene (σ × Nat)) :
    AsksOnce input config publisher s := by
  have hanswer : (publisher.tallied.accepts input.context).answer s
      = (publisher.accepts input.context).answer ⟨s.state.1, s.notices⟩ :=
    Act.answer_on (.untallied σ) (publisher.accepts input.context) ⟨(s.state.1, s.state.2 + 1), s.notices⟩
  have hafter : ((publisher.tallied.accepts input.context).after s).state.2 = s.state.2 + 1 :=
    congrArg (fun after : Scene (σ × Nat) => after.state.2)
      (Act.after_on (.untallied σ) (publisher.accepts input.context) ⟨(s.state.1, s.state.2 + 1), s.notices⟩)
  obtain hmet | ⟨denial, htold⟩ := local_met_or_firstTold config input
  · refine ⟨?_, fun _ => ?_, fun ⟨c, hc, hunmet⟩ => (hunmet (hmet c hc)).elim⟩
    · rw [evaluate_standard_of_met hmet, evaluate_standard_of_met hmet, Act.answer_map, Act.answer_map, hanswer]
    · rw [evaluate_standard_of_met hmet, Act.after_map, hafter]
  · have hdenial := (htold denial).2 rfl
    obtain ⟨c, hc, hunmet⟩ := hdenial.exists_unmet
    refine ⟨?_, fun hmet => (hunmet (hmet c hc)).elim, fun _ => ?_⟩
    · rw [evaluate_standard_of_firstTold hdenial, evaluate_standard_of_firstTold hdenial]
      rfl
    · rw [evaluate_standard_of_firstTold hdenial]
      rfl

/-! ## What gates report -/

/-- What a chain of gates reports in a scene. -/
structure Reports (input : GateInput) (gates : List (Gate σ)) (s : Scene σ) : Prop where
  denied_iff : ∀ denial s', evaluate gates input s = .ok (.error denial) s' ↔ FirstDenial input gates s denial s'
  allowed_iff : ∀ s', evaluate gates input s = .ok (.ok ()) s' ↔ Pass input gates s s'
  panicked_iff : ∀ panic s', evaluate gates input s = .error panic s' ↔ FirstPanic input gates s panic s'
  /-- The gates behind a denial are not asked, whatever they would do. -/
  behind_denial : ∀ before gate after reason s₁ s₂, gates = before ++ gate :: after → Pass input before s s₁ →
    gate.check input s₁ = .ok (.deny reason) s₂ → ∀ behind,
      evaluate (before ++ gate :: behind) input s = evaluate gates input s
  /-- Independent gates allow the same in any order; for gates that share a state that need not be so. -/
  any_order : Independent input gates → ∀ others, others.Perm gates →
    ((evaluate others input).answer s = .ok (.ok ()) ↔ (evaluate gates input).answer s = .ok (.ok ()))
  /-- If moreover none of them panics, they answer in any order. -/
  any_order_answers : Independent input gates →
    (∀ gate ∈ gates, ∃ decision, (gate.check input).answer s = .ok decision) → ∀ others, others.Perm gates →
      ∃ result, (evaluate others input).answer s = .ok result

theorem reports (input : GateInput) (gates : List (Gate σ)) (s : Scene σ) : Reports input gates s where
  denied_iff _ _ := evaluate_eq_error_iff
  allowed_iff _ := evaluate_eq_ok_iff
  panicked_iff _ _ := evaluate_eq_panic_iff
  behind_denial before gate after reason s₁ s₂ hgates hpass hdeny behind := by
    rw [hgates, hpass.evaluate_eq_of_deny hdeny, hpass.evaluate_eq_of_deny hdeny]
  any_order hindependent others hperm := by
    rw [hindependent.answer_eq_ok_iff, (hindependent.perm hperm).answer_eq_ok_iff]
    exact ⟨fun h gate hgate => h gate (hperm.mem_iff.2 hgate), fun h gate hgate => h gate (hperm.mem_iff.1 hgate)⟩
  any_order_answers hindependent hanswers others hperm :=
    (hindependent.perm hperm).exists_answer fun gate hgate => hanswers gate (hperm.mem_iff.1 hgate)

/-- Gates report the first denial among them. The standard gates are independent. They deny a login for the first thing
that is in its way, ask the publisher only if nothing is, and then once, and leave all that is no login to it. -/
theorem evaluate_reports_first (input : GateInput) :
    (∀ (gates : List (Gate σ)) (s : Scene σ), Reports input gates s)
    ∧ ∀ (config : Configuration) (publisher : Publisher σ),
      Independent input (standard config publisher)
      ∧ (∀ s, AnswersStandard input config publisher s)
      ∧ (input.category.isLogin = false → ∀ c ∈ localConditions config input, c.Met)
      ∧ ∀ s, AsksOnce input config publisher s :=
  ⟨reports input, fun config publisher => ⟨independent_standard config publisher input,
    answersStandard input config publisher, local_met_of_not_login config, asksOnce input config publisher⟩⟩

/-- What gates are asked about when a session ends. -/
def rehearsedInput : GateInput :=
  ⟨Rehearsal.data, .tokenRevoke, ⟨"WSO2", "1", [Rehearsal.channel]⟩, ⟨none, "urn:channel:session", "WSO2", "1"⟩⟩

/-- The standard gates backwards let the end of a session through. -/
theorem reversed_standard_allows :
    (evaluate (standard {} Recorder.publisher).reverse rehearsedInput).answer ⟨{}, []⟩ = .ok (.ok ()) := by
  obtain ⟨hreports, hstandard⟩ := evaluate_reports_first (σ := Recorder) rehearsedInput
  obtain ⟨hindependent, hanswers, hmet, _⟩ := hstandard {} Recorder.publisher
  have hallowed := (hanswers ⟨{}, []⟩).allowed_iff.2 ⟨hmet rfl, rfl⟩
  exact ((hreports _ ⟨{}, []⟩).any_order hindependent _ (List.reverse_perm _)).2 hallowed

/-- Leaves a mark, and allows. -/
def marking : Gate Bool where
  name := "marking"
  check _ := do
    Act.setState true
    return .allow

/-- Denies where there is a mark. -/
def reading : Gate Bool where
  name := "reading"
  check _ := do
    return if ← Act.state then .deny "marked" else .allow

/-- Two gates that never panic but share a mark let through in one order what they deny in the other. A gate that panics
hides the denial behind it. -/
theorem order_matters_for_marks :
    ([marking, reading].Perm [reading, marking]
      ∧ (∀ gate ∈ [reading, marking], ∀ s, ∃ decision, (gate.check rehearsedInput).answer s = .ok decision)
      ∧ (evaluate [reading, marking] rehearsedInput).answer ⟨false, []⟩ = .ok (.ok ())
      ∧ (evaluate [marking, reading] rehearsedInput).answer ⟨false, []⟩ = .ok (.error ⟨"reading", "marked"⟩))
    ∧ ((evaluate [scripted "closed" (.deny "closed")] rehearsedInput).answer ⟨(), []⟩
        = .ok (.error ⟨"closed", "closed"⟩)
      ∧ (evaluate [scripted "boom" (.panic (.text "gate exploded")), scripted "closed" (.deny "closed")]
        rehearsedInput).answer ⟨(), []⟩ = .error (.text "gate exploded")) := by
  refine ⟨⟨.swap _ _ _, fun gate hgate s => ?_, rfl, rfl⟩, rfl, rfl⟩
  simp only [List.mem_cons, List.not_mem_nil, or_false] at hgate
  rcases hgate with rfl | rfl
  · exact ⟨_, rfl⟩
  · exact ⟨_, rfl⟩

end Gate

end SecurityEvents
