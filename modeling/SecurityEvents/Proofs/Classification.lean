import SecurityEvents.Classification
set_option autoImplicit false

/-!
# Who takes an event

A classifier answers from the names of its own area only, and the areas have but one name in common, that of a
new user, on which the flow decides between the two. So at most one classifier takes an event: `taker_unique`
says so. The flow matters for this name and that of a new password alone.
-/

namespace SecurityEvents

namespace FlowName

theorem ofName?_eq_some_iff {s : String} {f : FlowName} : ofName? s = some f ↔ s = f.name := by
  constructor
  · intro h
    have hname := List.find?_some h
    exact (beq_iff_eq.1 hname).symm
  · intro h
    rw [h, ofName?_name]

end FlowName

namespace Event

theorem flowName_of_none {e : Event} (h : e.flow = none) : e.flowName = .ok none := by
  rw [flowName, h]

theorem flowName_of_known {e : Event} {f : Flow} {name : FlowName} (h : e.flow = some f)
    (hname : FlowName.ofName? f.name = some name) : e.flowName = .ok (some name) := by
  simp only [flowName, h, Flow.knownName, hname]
  rfl

theorem flowName_of_unknown {e : Event} {f : Flow} (h : e.flow = some f)
    (hname : FlowName.ofName? f.name = none) : e.flowName = .error (.unknownFlow f.name) := by
  simp only [flowName, h, Flow.knownName, hname]
  rfl

theorem flowName_eq_some_iff {e : Event} {name : FlowName} :
    e.flowName = .ok (some name) ↔ ∃ f, e.flow = some f ∧ f.name = name.name := by
  cases hflow : e.flow with
  | none => simp [flowName_of_none hflow]
  | some f =>
    have hname : e.flowName = .ok (some name) ↔ FlowName.ofName? f.name = some name := by
      cases hof : FlowName.ofName? f.name with
      | none => simp [flowName_of_unknown hflow hof]
      | some other => simp [flowName_of_known hflow hof]
    rw [hname, FlowName.ofName?_eq_some_iff]
    simp

/-- The event happened in a flow that registers the user. -/
def Registers (e : Event) : Prop :=
  ∃ f, e.flow = some f
    ∧ (f.name = FlowName.userRegistration.name ∨ f.name = FlowName.invitedUserRegistration.name)

/-- The event happened in a flow that resets credentials. -/
def Resets (e : Event) : Prop :=
  ∃ f, e.flow = some f ∧ f.name = FlowName.credentialReset.name

/-- The flow, if there is one, has a name that is known. -/
def FlowIsKnown (e : Event) : Prop :=
  ∀ f, e.flow = some f → (FlowName.ofName? f.name).isSome = true

theorem FlowIsKnown.exists_flowName {e : Event} (h : e.FlowIsKnown) : ∃ flow, e.flowName = .ok flow := by
  cases hflow : e.flow with
  | none => exact ⟨none, flowName_of_none hflow⟩
  | some f =>
    obtain ⟨name, hname⟩ := Option.isSome_iff_exists.1 (h f hflow)
    exact ⟨some name, flowName_of_known hflow hname⟩

theorem any_isRegistration_iff {e : Event} {flow : Option FlowName} (h : e.flowName = .ok flow) :
    flow.any (·.isRegistration) = true ↔ e.Registers := by
  have hregisters : e.Registers ↔ flow = some .userRegistration ∨ flow = some .invitedUserRegistration := by
    simp only [Registers, and_or_left, exists_or, ← flowName_eq_some_iff, h, Except.ok.injEq]
  rw [hregisters]
  cases flow with
  | none => decide
  | some name => cases name <;> decide

end Event

/-! ## The areas -/

/-- The areas of the five classifiers. -/
inductive Area where
  | login
  | credential
  | tokens
  | userOperation
  | registration
  deriving DecidableEq, Repr

namespace Area

/-- Every area, in the order of the handlers. -/
def all : List Area := [.login, .credential, .tokens, .userOperation, .registration]

/-- The classifier of an area. -/
def classifier : Area → Classifier
  | .login => .login
  | .credential => .credential
  | .tokens => .tokens
  | .userOperation => .userOperation
  | .registration => .registration

/-- The names that the classifier of an area looks out for. -/
def names : Area → List String
  | .login =>
    [EventName.authenticationSuccess, EventName.authenticationStepFailure, EventName.authenticationFailure]
  | .credential => [EventName.postAddNewPassword, EventName.postUpdateCredentialByScim]
  | .tokens => [EventName.sessionTerminate]
  | .userOperation =>
    [EventName.postAddUser, EventName.postDeleteUser, EventName.postLockAccount, EventName.postUnlockAccount,
      EventName.postEnableAccount, EventName.postDisableAccount, EventName.postSetUserClaimValuesWithId,
      EventName.postUpdateUserListOfRole]
  | .registration => [EventName.postAddUser, EventName.userRegistrationFailed]

theorem mem_all (a : Area) : a ∈ all := by cases a <;> decide

theorem map_classifier_all : all.map classifier = Classifier.all := rfl

theorem exists_classifier_eq {c : Classifier} (h : c ∈ Classifier.all) : ∃ a : Area, a.classifier = c := by
  rw [← map_classifier_all] at h
  obtain ⟨a, _, rfl⟩ := List.mem_map.1 h
  exact ⟨a, rfl⟩

/-- Two areas have no name in common but that of a new user. -/
theorem eq_or_eq_postAddUser {a b : Area} {name : String} (ha : name ∈ a.names) (hb : name ∈ b.names) :
    a = b ∨ name = EventName.postAddUser := by
  have hall : ∀ a ∈ all, ∀ b ∈ all, ∀ name ∈ a.names, name ∈ b.names →
      a = b ∨ name = EventName.postAddUser := by decide
  exact hall a a.mem_all b b.mem_all name ha hb

theorem eq_of_postAddUser_mem_names {a : Area} (h : EventName.postAddUser ∈ a.names) :
    a = .userOperation ∨ a = .registration := by
  have hall : ∀ a ∈ all, EventName.postAddUser ∈ a.names → a = .userOperation ∨ a = .registration := by decide
  exact hall a a.mem_all h

theorem eq_of_postAddNewPassword_mem_names {a : Area} (h : EventName.postAddNewPassword ∈ a.names) :
    a = .credential := by
  have hall : ∀ a ∈ all, EventName.postAddNewPassword ∈ a.names → a = .credential := by decide
  exact hall a a.mem_all h

/-! ## What the classifiers answer -/

variable {e : Event}

theorem properName_of_not_blank (h : Text.isBlankText e.name = false) : e.properName = .ok e.name := by
  rw [Event.properName, h]
  rfl

/-- No classifier takes a name that is missing. -/
theorem classify_of_blank (a : Area) (h : Text.isBlankText e.name = true) :
    a.classifier.classify e = .error .missingEventName := by
  have hname : e.properName = .error .missingEventName := by rw [Event.properName, if_pos h]
  cases a <;> exact congrArg (· >>= _) hname

/-- A classifier leaves names alone that it does not look out for. -/
theorem classify_of_not_mem (a : Area) (hproper : Text.isBlankText e.name = false) (h : e.name ∉ a.names) :
    a.classifier.classify e = .ok none := by
  have hname := properName_of_not_blank hproper
  cases a <;> simp only [names, List.mem_cons, List.not_mem_nil, or_false, not_or] at h <;>
    simp [classifier, Classifier.login, Classifier.credential, Classifier.tokens, Classifier.userOperation,
      Classifier.userOperation?, Classifier.registration, hname, h, bind, Except.bind, pure, Except.pure]

/-- With a new user the flow decides between two classifiers. -/
theorem classify_newUser (h : e.name = EventName.postAddUser) :
    Classifier.userOperation.classify e
        = e.flowName.map (fun flow => if flow.any (·.isRegistration) then none else some .userCreated)
      ∧ Classifier.registration.classify e
        = e.flowName.map fun flow =>
            if flow.any (·.isRegistration) then some .registrationSuccess else none := by
  have hname : e.properName = .ok e.name := properName_of_not_blank (h ▸ by decide)
  constructor
  · simp only [Classifier.userOperation, hname, h, bind, Except.bind, if_true]
    cases e.flowName <;> rfl
  · simp only [Classifier.registration, hname, h, bind, Except.bind, if_true]
    cases e.flowName <;> rfl

/-- With a new password the flow decides whether it counts. -/
theorem classify_newPassword (h : e.name = EventName.postAddNewPassword) :
    Classifier.credential.classify e
      = e.flowName.map fun flow =>
          if flow = some .credentialReset then some .credentialUpdate else none := by
  have hname : e.properName = .ok e.name := properName_of_not_blank (h ▸ by decide)
  simp only [Classifier.credential, hname, h, bind, Except.bind, if_true]
  cases e.flowName <;> rfl

/-- For other names no classifier looks at the flow. -/
theorem classify_capturedIn (a : Area) (huser : e.name ≠ EventName.postAddUser)
    (hpassword : e.name ≠ EventName.postAddNewPassword) (flow : Option Flow) :
    a.classifier.classify (e.capturedIn flow) = a.classifier.classify e := by
  have hname : (e.capturedIn flow).properName = e.properName := rfl
  cases hproper : e.properName with
  | error cause =>
    cases a <;> simp only [classifier, Classifier.login, Classifier.credential, Classifier.tokens,
      Classifier.userOperation, Classifier.registration, hname, hproper] <;> rfl
  | ok name =>
    have heq : name = e.name := by
      unfold Event.properName at hproper
      split at hproper
      · cases hproper
      · exact (Except.ok.inj hproper).symm
    subst heq
    cases a <;> simp only [classifier, Classifier.login, Classifier.credential, Classifier.tokens,
      Classifier.userOperation, Classifier.registration, hname, hproper, bind, Except.bind, huser, hpassword,
      if_false]

/-! ## Who takes an event -/

theorem accepts_iff {c : Classifier} :
    c.accepts e = true ↔ ∃ category, c.classify e = .ok (some category) := by
  unfold Classifier.accepts
  split
  · rename_i category h
    exact ⟨fun _ => ⟨category, h⟩, fun _ => rfl⟩
  · rename_i h
    refine ⟨fun hfalse => (Bool.false_ne_true hfalse).elim, ?_⟩
    rintro ⟨category, hcategory⟩
    exact (h category hcategory).elim

/-- Who takes an event looks out for its name. -/
theorem mem_names_of_accepts {a : Area} (h : a.classifier.accepts e = true) : e.name ∈ a.names := by
  obtain ⟨category, hcategory⟩ := accepts_iff.1 h
  cases hblank : Text.isBlankText e.name with
  | true =>
    rw [classify_of_blank a hblank] at hcategory
    cases hcategory
  | false =>
    apply Decidable.byContradiction
    intro hmem
    rw [classify_of_not_mem a hblank hmem] at hcategory
    cases hcategory

/-- A new user is not both created and registered. -/
theorem not_accepts_both (h : e.name = EventName.postAddUser)
    (huser : Classifier.userOperation.accepts e = true)
    (hregistration : Classifier.registration.accepts e = true) : False := by
  obtain ⟨category, hcategory⟩ := accepts_iff.1 huser
  obtain ⟨other, hother⟩ := accepts_iff.1 hregistration
  obtain ⟨hcreated, hregistered⟩ := classify_newUser h
  rw [hcreated] at hcategory
  rw [hregistered] at hother
  cases hflow : e.flowName with
  | error cause =>
    rw [hflow] at hcategory
    cases hcategory
  | ok flow =>
    rw [hflow] at hcategory hother
    cases hregisters : flow.any (·.isRegistration) <;> simp [Except.map, hregisters] at hcategory hother

/-- At most one classifier takes an event. -/
theorem taker_unique {a b : Area} (ha : a.classifier.accepts e = true) (hb : b.classifier.accepts e = true) :
    a = b := by
  rcases eq_or_eq_postAddUser (mem_names_of_accepts ha) (mem_names_of_accepts hb) with heq | hname
  · exact heq
  -- The name is that of a new user, so each of the two is one of those that the flow decides between.
  rcases eq_of_postAddUser_mem_names (hname ▸ mem_names_of_accepts ha) with rfl | rfl <;>
    rcases eq_of_postAddUser_mem_names (hname ▸ mem_names_of_accepts hb) with rfl | rfl
  · rfl
  · exact (not_accepts_both hname ha hb).elim
  · exact (not_accepts_both hname hb ha).elim
  · rfl

/-- Where one classifier takes an event, the others can classify it as well. -/
theorem exists_classify_eq_of_accepts {a : Area} (h : a.classifier.accepts e = true) (b : Area) :
    ∃ category, b.classifier.classify e = .ok category := by
  obtain ⟨category, hcategory⟩ := accepts_iff.1 h
  cases hblank : Text.isBlankText e.name with
  | true =>
    rw [classify_of_blank a hblank] at hcategory
    cases hcategory
  | false =>
    by_cases hmem : e.name ∈ b.names
    · rcases eq_or_eq_postAddUser (mem_names_of_accepts h) hmem with rfl | hname
      · exact ⟨_, hcategory⟩
      obtain ⟨hcreated, hregistered⟩ := classify_newUser hname
      cases hflow : e.flowName with
      | ok flow =>
        rw [hflow] at hcreated hregistered
        rcases eq_of_postAddUser_mem_names (hname ▸ hmem) with rfl | rfl
        · exact ⟨_, hcreated⟩
        · exact ⟨_, hregistered⟩
      | error cause =>
        rw [hflow] at hcreated hregistered
        rcases eq_of_postAddUser_mem_names (hname ▸ mem_names_of_accepts h) with rfl | rfl
        · cases hcreated.symm.trans hcategory
        · cases hregistered.symm.trans hcategory
    · exact ⟨none, classify_of_not_mem b hblank hmem⟩

end Area

namespace Classifier

/-- Those of the five classifiers that take an event. -/
def takers (e : Event) : List Classifier :=
  all.filter (·.accepts e)

/-- The answer of the classifier is not the same in every flow. -/
def LooksAtFlow (c : Classifier) (e : Event) : Prop :=
  ∃ flow other, c.classify (e.capturedIn flow) ≠ c.classify (e.capturedIn other)

variable {e : Event}

theorem takers_eq_nil_or_singleton (e : Event) :
    takers e = [] ∨ ∃ a : Area, takers e = [a.classifier] ∧ a.classifier.accepts e = true := by
  have hmap : takers e = (Area.all.filter (·.classifier.accepts e)).map Area.classifier := by
    rw [takers, ← Area.map_classifier_all, List.filter_map]
    rfl
  have hnodup : (Area.all.filter (·.classifier.accepts e)).Nodup :=
    List.Nodup.sublist List.filter_sublist (by decide)
  cases hareas : Area.all.filter (·.classifier.accepts e) with
  | nil => exact .inl (by rw [hmap, hareas]; rfl)
  | cons a rest =>
    have haccepts (b : Area) (hb : b ∈ a :: rest) : b.classifier.accepts e = true := by
      rw [← hareas] at hb
      exact (List.mem_filter.1 hb).2
    have hrest : rest = [] := by
      rw [hareas, List.nodup_cons] at hnodup
      apply List.eq_nil_iff_forall_not_mem.2
      intro b hb
      have hsame := Area.taker_unique (haccepts a List.mem_cons_self)
        (haccepts b (List.mem_cons_of_mem a hb))
      exact hnodup.1 (hsame ▸ hb)
    subst hrest
    exact .inr ⟨a, by rw [hmap, hareas]; rfl, haccepts a List.mem_cons_self⟩

/-- At most one of the five classifiers takes an event. -/
theorem length_takers_le_one (e : Event) : (takers e).length ≤ 1 := by
  rcases takers_eq_nil_or_singleton e with hnone | ⟨a, hone, _⟩
  · rw [hnone]
    exact Nat.zero_le 1
  · rw [hone]
    exact Nat.le_refl 1

/-- Who takes an event is the only one that does. -/
theorem takers_eq_of_accepts {a : Area} (h : a.classifier.accepts e = true) : takers e = [a.classifier] := by
  have hmem : a.classifier ∈ takers e :=
    List.mem_filter.2 ⟨List.mem_map_of_mem a.mem_all, h⟩
  rcases takers_eq_nil_or_singleton e with hnone | ⟨b, hone, hb⟩
  · rw [hnone] at hmem
    exact (List.not_mem_nil hmem).elim
  · rw [hone, Area.taker_unique h hb]

/-! ## The flow -/

/-- In a known flow a new user is taken by one of two classifiers, and the flow says by which. -/
theorem takers_newUser (hname : e.name = EventName.postAddUser) (hknown : e.FlowIsKnown) :
    (e.Registers → takers e = [registration] ∧ registration.classify e = .ok (some .registrationSuccess))
      ∧ (¬ e.Registers → takers e = [userOperation]
        ∧ userOperation.classify e = .ok (some .userCreated)) := by
  obtain ⟨flow, hflow⟩ := hknown.exists_flowName
  have hregisters := Event.any_isRegistration_iff hflow
  obtain ⟨hcreated, hregistered⟩ := Area.classify_newUser hname
  simp only [hflow, Except.map] at hcreated hregistered
  constructor
  · intro h
    rw [if_pos (hregisters.2 h)] at hregistered
    exact ⟨takers_eq_of_accepts (a := .registration) (Area.accepts_iff.2 ⟨_, hregistered⟩), hregistered⟩
  · intro h
    rw [if_neg (mt hregisters.1 h)] at hcreated
    exact ⟨takers_eq_of_accepts (a := .userOperation) (Area.accepts_iff.2 ⟨_, hcreated⟩), hcreated⟩

/-- A new password is taken exactly if it was reset. -/
theorem takers_newPassword (hname : e.name = EventName.postAddNewPassword) :
    (e.Resets → takers e = [credential] ∧ credential.classify e = .ok (some .credentialUpdate))
      ∧ (¬ e.Resets → takers e = []) := by
  have hcredential := Area.classify_newPassword hname
  constructor
  · intro h
    rw [Event.flowName_eq_some_iff.2 h] at hcredential
    exact ⟨takers_eq_of_accepts (a := .credential) (Area.accepts_iff.2 ⟨_, hcredential⟩), hcredential⟩
  · intro h
    rcases takers_eq_nil_or_singleton e with hnone | ⟨a, _, haccepts⟩
    · exact hnone
    obtain rfl := Area.eq_of_postAddNewPassword_mem_names (hname ▸ Area.mem_names_of_accepts haccepts)
    obtain ⟨category, hcategory⟩ := Area.accepts_iff.1 haccepts
    rw [Area.classifier, hcredential] at hcategory
    cases hflow : e.flowName with
    | error cause =>
      rw [hflow] at hcategory
      cases hcategory
    | ok flow =>
      have hreset : flow ≠ some .credentialReset := by
        rintro rfl
        exact h (Event.flowName_eq_some_iff.1 hflow)
      rw [hflow, Except.map, if_neg hreset] at hcategory
      cases hcategory

/-- Who looks out for one of the two names answers in no flow, and refuses to answer in an unknown flow. -/
theorem classify_of_unknown {f : Flow} (hflow : e.flow = some f)
    (hunknown : FlowName.ofName? f.name = none)
    (hname : e.name = EventName.postAddUser ∨ e.name = EventName.postAddNewPassword) {a : Area}
    (hmem : e.name ∈ a.names) :
    a.classifier.classify e = .error (.unknownFlow f.name)
      ∧ ∃ category, a.classifier.classify (e.capturedIn none) = .ok category := by
  have hflowName := Event.flowName_of_unknown hflow hunknown
  have hcaptured : (e.capturedIn none).flowName = .ok none := rfl
  rcases hname with huser | hpassword
  · obtain ⟨hcreated, hregistered⟩ := Area.classify_newUser huser
    obtain ⟨hcreated', hregistered'⟩ := Area.classify_newUser (e := e.capturedIn none) huser
    rw [hflowName] at hcreated hregistered
    rw [hcaptured] at hcreated' hregistered'
    rcases Area.eq_of_postAddUser_mem_names (huser ▸ hmem) with rfl | rfl
    · exact ⟨hcreated, _, hcreated'⟩
    · exact ⟨hregistered, _, hregistered'⟩
  · have hreset := Area.classify_newPassword hpassword
    have hreset' := Area.classify_newPassword (e := e.capturedIn none) hpassword
    rw [hflowName] at hreset
    rw [hcaptured] at hreset'
    obtain rfl := Area.eq_of_postAddNewPassword_mem_names (hpassword ▸ hmem)
    exact ⟨hreset, _, hreset'⟩

/-- In an unknown flow nobody takes an event of one of the two names. -/
theorem takers_of_unknown {f : Flow} (hflow : e.flow = some f) (hunknown : FlowName.ofName? f.name = none)
    (hname : e.name = EventName.postAddUser ∨ e.name = EventName.postAddNewPassword) : takers e = [] := by
  rcases takers_eq_nil_or_singleton e with hnone | ⟨a, _, haccepts⟩
  · exact hnone
  · obtain ⟨category, hcategory⟩ := Area.accepts_iff.1 haccepts
    obtain ⟨herror, _⟩ := classify_of_unknown hflow hunknown hname (Area.mem_names_of_accepts haccepts)
    cases herror.symm.trans hcategory

/-- In an unknown flow those who look at the flow for one of the two names are those who say that they do not
know it. -/
theorem looksAtFlow_iff_of_unknown {f : Flow} (hflow : e.flow = some f)
    (hunknown : FlowName.ofName? f.name = none)
    (hname : e.name = EventName.postAddUser ∨ e.name = EventName.postAddNewPassword) {c : Classifier}
    (hc : c ∈ all) : c.LooksAtFlow e ↔ c.classify e = .error (.unknownFlow f.name) := by
  obtain ⟨a, rfl⟩ := Area.exists_classifier_eq hc
  have hproper : Text.isBlankText e.name = false := by
    rcases hname with huser | hpassword
    · exact huser ▸ by decide
    · exact hpassword ▸ by decide
  by_cases hmem : e.name ∈ a.names
  · obtain ⟨herror, category, hcategory⟩ := classify_of_unknown hflow hunknown hname hmem
    refine ⟨fun _ => herror, fun _ => ⟨e.flow, none, fun hsame => ?_⟩⟩
    cases herror.symm.trans (hsame.trans hcategory)
  · have hnone (flow : Option Flow) : a.classifier.classify (e.capturedIn flow) = .ok none :=
      Area.classify_of_not_mem (e := e.capturedIn flow) a hproper hmem
    constructor
    · rintro ⟨flow, other, hdiffer⟩
      exact (hdiffer ((hnone flow).trans (hnone other).symm)).elim
    · intro herror
      cases herror.symm.trans (hnone e.flow)

/-- For each of the two names somebody looks at the flow. -/
theorem exists_looksAtFlow_of_unknown {f : Flow} (hflow : e.flow = some f)
    (hunknown : FlowName.ofName? f.name = none)
    (hname : e.name = EventName.postAddUser ∨ e.name = EventName.postAddNewPassword) :
    ∃ c ∈ all, c.LooksAtFlow e := by
  have hmem : ∃ a : Area, e.name ∈ a.names := by
    rcases hname with huser | hpassword
    · exact ⟨.userOperation, huser ▸ by decide⟩
    · exact ⟨.credential, hpassword ▸ by decide⟩
  obtain ⟨a, ha⟩ := hmem
  have hc : a.classifier ∈ all := List.mem_map_of_mem a.mem_all
  obtain ⟨herror, _⟩ := classify_of_unknown hflow hunknown hname ha
  exact ⟨a.classifier, hc, (looksAtFlow_iff_of_unknown hflow hunknown hname hc).2 herror⟩

end Classifier

end SecurityEvents
