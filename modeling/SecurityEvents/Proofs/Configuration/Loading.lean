import SecurityEvents.Proofs.Configuration.Count
import SecurityEvents.Proofs.Configuration.Issuer
import SecurityEvents.Proofs.Dispatch.Completion
set_option autoImplicit false

/-!
# Loading a configuration

A configuration is loaded from variables exactly if three conditions are met, which are looked at in turn: the number of
profiles can be read, the issuer begins like the URL of a server, and the number is not zero. What is loaded is what the
settings build that hold the values of the variables, in whatever order they were made (`Settings.eq_of_isLastOf_iff`).
All of it together is `Configuration.ofVariables_loads`.
-/

namespace SecurityEvents

/-! ## Settings, one after the other -/

/-- What a setting is about. -/
inductive Setting.Field where
  | setIssuer
  | superTenant
  | systemApplication
  | organizationIdp
  | profileConcurrency
  | profileDirectory
  deriving DecidableEq

/-- What the setting is about. -/
def Setting.field : Setting → Setting.Field
  | .setIssuer _ => .setIssuer
  | .superTenant _ => .superTenant
  | .systemApplication _ => .systemApplication
  | .organizationIdp _ => .organizationIdp
  | .profileConcurrency _ => .profileConcurrency
  | .profileDirectory _ => .profileDirectory

/-- The setting is the last one of its field. -/
def Setting.IsLastOf (x : Setting) (xs : List Setting) : Prop :=
  ∃ before after, xs = before ++ x :: after ∧ ∀ y ∈ after, y.field ≠ x.field

/-- The settings hold the value. -/
def Settings.Holds (s : Settings) : Setting → Prop
  | .setIssuer value => s.setIssuer = some value
  | .superTenant value => s.superTenant = some value
  | .systemApplication value => s.systemApplication = some value
  | .organizationIdp value => s.organizationIdp = some value
  | .profileConcurrency value => s.profileConcurrency = some value
  | .profileDirectory value => s.profileDirectory = some value

section Settings

variable {s t : Settings} {x y : Setting} {xs : List Setting}

/-- A setting displaces what was set of its field, and nothing else. -/
theorem Settings.holds_set_iff : (s.set y).Holds x ↔ x = y ∨ (y.field ≠ x.field ∧ s.Holds x) := by
  cases x <;> cases y <;> simp [Settings.set, Settings.Holds, Setting.field, eq_comm]

theorem Setting.not_isLastOf_nil (x : Setting) : ¬ x.IsLastOf [] := by
  rintro ⟨before, after, hnil, _⟩
  cases (List.append_eq_nil_iff.1 hnil.symm).2

theorem Setting.isLastOf_cons_iff :
    x.IsLastOf (y :: xs) ↔ x.IsLastOf xs ∨ (x = y ∧ ∀ z ∈ xs, z.field ≠ x.field) := by
  constructor
  · rintro ⟨before, after, hxs, hafter⟩
    cases before with
    | nil =>
      obtain ⟨rfl, rfl⟩ := List.cons.inj hxs
      exact .inr ⟨rfl, hafter⟩
    | cons z before =>
      obtain ⟨rfl, rfl⟩ := List.cons.inj hxs
      exact .inl ⟨before, after, rfl, hafter⟩
  · rintro (⟨before, after, rfl, hafter⟩ | ⟨rfl, hafter⟩)
    · exact ⟨y :: before, after, rfl, hafter⟩
    · exact ⟨[], xs, rfl, hafter⟩

/-- After settings in turn, the last one of each field holds. What was set before holds where none is of its field. -/
theorem Settings.holds_foldl_iff :
    (xs.foldl Settings.set s).Holds x ↔ x.IsLastOf xs ∨ ((∀ y ∈ xs, y.field ≠ x.field) ∧ s.Holds x) := by
  induction xs generalizing s with
  | nil => simp [Setting.not_isLastOf_nil]
  | cons y xs ih =>
    rw [List.foldl_cons, ih, holds_set_iff, Setting.isLastOf_cons_iff, List.forall_mem_cons]
    grind

theorem Settings.ext_holds (h : ∀ x, s.Holds x ↔ t.Holds x) : s = t := by
  cases s with
  | mk =>
  cases t with
  | mk =>
  rw [Settings.mk.injEq]
  exact ⟨Option.ext fun value => h (.setIssuer value), Option.ext fun value => h (.superTenant value),
    Option.ext fun value => h (.systemApplication value), Option.ext fun value => h (.organizationIdp value),
    Option.ext fun value => h (.profileConcurrency value), Option.ext fun value => h (.profileDirectory value)⟩

end Settings

/-! ## Variables -/

/-- The variable of the field gives the setting. -/
def Setting.Given (value? : String → Option String) : Setting → Prop
  | .setIssuer value => value? VariableName.setIssuer = some value
  | .superTenant value => value? VariableName.superTenant = some value
  | .systemApplication value => value? VariableName.systemApplication = some value
  | .organizationIdp value => value? VariableName.organizationIdp = some value
  | .profileConcurrency n =>
    ∃ raw, value? VariableName.profileConcurrency = some raw ∧ Denotes raw n ∧ n < UInt64.size
  | .profileDirectory value => value? VariableName.profileDirectory = some value

/-- What is set by the variables: their texts as they are, and the number that one of them stands for. -/
structure Settings.ReadFrom (value? : String → Option String) (s : Settings) : Prop where
  setIssuer_eq : s.setIssuer = value? VariableName.setIssuer
  superTenant_eq : s.superTenant = value? VariableName.superTenant
  systemApplication_eq : s.systemApplication = value? VariableName.systemApplication
  organizationIdp_eq : s.organizationIdp = value? VariableName.organizationIdp
  profileConcurrency_eq_some_iff : ∀ n, s.profileConcurrency = some n
    ↔ ∃ raw, value? VariableName.profileConcurrency = some raw ∧ Denotes raw n ∧ n < UInt64.size
  profileDirectory_eq : s.profileDirectory = value? VariableName.profileDirectory

section Variables

variable {value? : String → Option String} {s : Settings}

theorem Denotes.unique {text : String} {n m : Nat} (h : Denotes text n) (hn : n < UInt64.size) (h' : Denotes text m)
    (hm : m < UInt64.size) : n = m :=
  Except.ok.inj ((readCount_trim_eq_ok_iff.2 ⟨h, hn⟩).symm.trans (readCount_trim_eq_ok_iff.2 ⟨h', hm⟩))

/-- The number of profiles can be read, if one is given. -/
def readableCondition (value? : String → Option String) : Condition Error where
  Met := ∀ raw, value? VariableName.profileConcurrency = some raw → ∃ n, Denotes raw n ∧ n < UInt64.size
  Tells cause := ∃ raw fault, value? VariableName.profileConcurrency = some raw ∧ Misdenotes raw fault
    ∧ cause = .configInvalid VariableName.profileConcurrency (raw ++ ": " ++ fault.message)

/-- The issuer begins like the URL of a server, if one is given. -/
def issuerCondition (issuer? : Option String) : Condition Error where
  Met := ∀ issuer, issuer? = some issuer → IsServerUrl issuer
  Tells cause := ∃ issuer, issuer? = some issuer
    ∧ cause = .configInvalid VariableName.setIssuer ("Issuer must be an http(s) URL: " ++ issuer)

/-- The number of profiles is not zero: `zero` says that it is. -/
def positiveCondition (zero : Prop) : Condition Error where
  Met := ¬ zero
  Tells cause := cause = .configInvalid VariableName.profileConcurrency "Concurrency must be at least 1"

/-- The settings that hold the texts of the variables, and this number of profiles. -/
def Settings.ofTexts (value? : String → Option String) (profileConcurrency : Option Nat) : Settings where
  setIssuer := value? VariableName.setIssuer
  superTenant := value? VariableName.superTenant
  systemApplication := value? VariableName.systemApplication
  organizationIdp := value? VariableName.organizationIdp
  profileConcurrency
  profileDirectory := value? VariableName.profileDirectory

theorem Settings.ofVariables_of_unset (h : value? VariableName.profileConcurrency = none) :
    Settings.ofVariables value? = .ok (ofTexts value? none) := by
  simp only [Settings.ofVariables, h]
  rfl

theorem Settings.ofVariables_of_read {raw : String} {n : Nat} (h : value? VariableName.profileConcurrency = some raw)
    (hread : readCount (Text.trim raw.toList) = .ok n) :
    Settings.ofVariables value? = .ok (ofTexts value? (some n)) := by
  simp only [Settings.ofVariables, h, hread]
  rfl

theorem Settings.ofVariables_of_unread {raw : String} {fault : NumberFault}
    (h : value? VariableName.profileConcurrency = some raw)
    (hread : readCount (Text.trim raw.toList) = .error fault) :
    Settings.ofVariables value?
      = .error (.configInvalid VariableName.profileConcurrency (raw ++ ": " ++ fault.message)) := by
  simp only [Settings.ofVariables, h, hread]
  rfl

theorem Settings.restsOn_ofVariables (value? : String → Option String) :
    RestsOn (Settings.ofVariables value?) [readableCondition value?] := by
  cases hraw : value? VariableName.profileConcurrency with
  | none =>
    have hmet : (readableCondition value?).Met := fun raw hsome => nomatch hraw.symm.trans hsome
    rw [ofVariables_of_unset hraw]
    exact restsOn_ok_iff.2 (List.forall_mem_singleton.2 hmet)
  | some raw =>
    cases hread : readCount (Text.trim raw.toList) with
    | ok n =>
      have hmet : (readableCondition value?).Met := by
        intro other hsome
        cases hraw.symm.trans hsome
        exact ⟨n, readCount_trim_eq_ok_iff.1 hread⟩
      rw [ofVariables_of_read hraw hread]
      exact restsOn_ok_iff.2 (List.forall_mem_singleton.2 hmet)
    | error fault =>
      rw [ofVariables_of_unread hraw hread]
      refine restsOn_error (fun hmet => ?_) fun cause => ?_
      · obtain ⟨n, hn⟩ := hmet raw hraw
        cases hread.symm.trans (readCount_trim_eq_ok_iff.2 hn)
      · constructor
        · rintro ⟨other, fault', hsome, hfault, rfl⟩
          cases hraw.symm.trans hsome
          cases hread.symm.trans (readCount_trim_eq_error_iff.2 hfault)
          rfl
        · rintro rfl
          exact ⟨raw, fault, hraw, readCount_trim_eq_error_iff.1 hread, rfl⟩

theorem Settings.readFrom_of_ofVariables (h : Settings.ofVariables value? = .ok s) : s.ReadFrom value? := by
  cases hraw : value? VariableName.profileConcurrency with
  | none =>
    rw [ofVariables_of_unset hraw] at h
    cases h
    refine ⟨rfl, rfl, rfl, rfl, fun n => ?_, rfl⟩
    refine iff_of_false (fun h => nomatch h) ?_
    rintro ⟨raw, hsome, _⟩
    cases hraw.symm.trans hsome
  | some raw =>
    cases hread : readCount (Text.trim raw.toList) with
    | error fault =>
      rw [ofVariables_of_unread hraw hread] at h
      cases h
    | ok m =>
      rw [ofVariables_of_read hraw hread] at h
      cases h
      obtain ⟨hdenotes, hm⟩ := readCount_trim_eq_ok_iff.1 hread
      refine ⟨rfl, rfl, rfl, rfl, fun n => ?_, rfl⟩
      constructor
      · rintro ⟨⟩
        exact ⟨raw, hraw, hdenotes, hm⟩
      · rintro ⟨other, hsome, hother, hn⟩
        cases hraw.symm.trans hsome
        exact congrArg some (hdenotes.unique hm hother hn)

theorem Settings.restsOn_build (s : Settings) :
    RestsOn s.build [issuerCondition s.setIssuer, positiveCondition (s.profileConcurrency = some 0)] := by
  have hdefault : isServerUrl "https://localhost:9443" = true := by
    decide
  unfold Settings.build
  dsimp only
  split
  · rename_i hurl
    have hissuer : (issuerCondition s.setIssuer).Met := by
      intro issuer hsome
      rw [hsome] at hurl
      exact isServerUrl_eq_true_iff.1 hurl
    refine RestsOn.of_met ?_ hissuer
    split
    · rename_i hzero
      refine restsOn_error (fun hmet => hmet ?_) fun _ => Iff.rfl
      cases hcount : s.profileConcurrency with
      | none =>
        rw [hcount] at hzero
        cases hzero
      | some n =>
        rw [hcount] at hzero
        exact congrArg some hzero
    · rename_i hzero
      refine restsOn_ok_iff.2 (List.forall_mem_singleton.2 fun hsome => hzero ?_)
      rw [hsome]
      rfl
  · rename_i hurl
    cases hsome : s.setIssuer with
    | none =>
      rw [hsome] at hurl
      exact (hurl hdefault).elim
    | some issuer =>
      rw [hsome] at hurl
      refine restsOn_error (fun hmet => hurl (isServerUrl_eq_true_iff.2 (hmet issuer rfl))) fun cause => ?_
      simp only [issuerCondition, Option.some.injEq, exists_eq_left', Option.getD_some]

/-- The settings that were read hold what is given by the variables. -/
theorem Settings.ReadFrom.holds_iff (h : s.ReadFrom value?) (x : Setting) : s.Holds x ↔ x.Given value? := by
  cases x with
  | setIssuer => rw [Holds, h.setIssuer_eq, Setting.Given]
  | superTenant => rw [Holds, h.superTenant_eq, Setting.Given]
  | systemApplication => rw [Holds, h.systemApplication_eq, Setting.Given]
  | organizationIdp => rw [Holds, h.organizationIdp_eq, Setting.Given]
  | profileConcurrency n => exact h.profileConcurrency_eq_some_iff n
  | profileDirectory => rw [Holds, h.profileDirectory_eq, Setting.Given]

/-- Settings that are made in turn come to those that were read, if the last ones are those that are given. -/
theorem Settings.eq_of_isLastOf_iff (h : s.ReadFrom value?) {xs : List Setting}
    (hxs : ∀ x : Setting, x.IsLastOf xs ↔ x.Given value?) : xs.foldl Settings.set {} = s := by
  refine ext_holds fun x => ?_
  have hnone : ¬ Settings.Holds {} x := by
    cases x <;> exact fun hsome => nomatch hsome
  rw [holds_foldl_iff, hxs, h.holds_iff]
  exact or_iff_left fun hbefore => hnone hbefore.2

end Variables

/-! ## Configurations -/

namespace Configuration

variable {value? : String → Option String} {c : Configuration}

/-- All that is in the configuration is the text of a variable, the number that it stands for, or the default. -/
structure ReadFrom (value? : String → Option String) (c : Configuration) : Prop where
  setIssuer_eq : c.setIssuer = (value? VariableName.setIssuer).getD "https://localhost:9443"
  superTenant_eq : c.superTenant = (value? VariableName.superTenant).getD "carbon.super"
  systemApplication_eq : c.systemApplication = (value? VariableName.systemApplication).getD "Console"
  organizationIdp_eq : c.organizationIdp = (value? VariableName.organizationIdp).getD "SSO"
  profileConcurrency : (value? VariableName.profileConcurrency = none ∧ c.profileConcurrency = 1)
    ∨ ∃ raw, value? VariableName.profileConcurrency = some raw ∧ Denotes raw c.profileConcurrency
  profileDirectory_eq : c.profileDirectory = value? VariableName.profileDirectory

/-- A configuration is built of the settings and the defaults, and its number of profiles is positive. -/
theorem eq_of_build {s : Settings} (h : s.build = .ok c) :
    c = {
      setIssuer := s.setIssuer.getD "https://localhost:9443"
      superTenant := s.superTenant.getD "carbon.super"
      systemApplication := s.systemApplication.getD "Console"
      organizationIdp := s.organizationIdp.getD "SSO"
      profileConcurrency := s.profileConcurrency.getD 1
      profileDirectory := s.profileDirectory }
    ∧ 1 ≤ c.profileConcurrency := by
  unfold Settings.build at h
  dsimp only at h
  split at h
  · split at h
    · cases h
    · rename_i hpositive
      cases h
      exact ⟨rfl, Nat.pos_of_ne_zero hpositive⟩
  · cases h

theorem Accepted.one_le_profileConcurrency (h : c.Accepted) : 1 ≤ c.profileConcurrency := by
  obtain ⟨s, hbuilt⟩ := h.exists_settings
  exact (eq_of_build hbuilt).2

theorem readFrom_of_ofVariables (h : ofVariables value? = .ok c) : c.ReadFrom value? := by
  obtain ⟨s, hread, hbuilt⟩ := exists_of_bind_eq_ok h
  have hs := Settings.readFrom_of_ofVariables hread
  obtain ⟨rfl, _⟩ := eq_of_build hbuilt
  refine ⟨?_, ?_, ?_, ?_, ?_, hs.profileDirectory_eq⟩
  · rw [hs.setIssuer_eq]
  · rw [hs.superTenant_eq]
  · rw [hs.systemApplication_eq]
  · rw [hs.organizationIdp_eq]
  · cases hcount : s.profileConcurrency with
    | some n =>
      obtain ⟨raw, hraw, hdenotes, _⟩ := (hs.profileConcurrency_eq_some_iff n).1 hcount
      exact .inr ⟨raw, hraw, hdenotes⟩
    | none =>
      have hreadable : (readableCondition value?).Met :=
        List.forall_mem_singleton.1 ((Settings.restsOn_ofVariables value?).exists_ok_iff.1 ⟨s, hread⟩)
      refine .inl ⟨?_, rfl⟩
      cases hraw : value? VariableName.profileConcurrency with
      | none => rfl
      | some raw =>
        obtain ⟨n, hn⟩ := hreadable raw hraw
        cases hcount.symm.trans ((hs.profileConcurrency_eq_some_iff n).2 ⟨raw, hraw, hn⟩)

/-- What is asked of the variables, in the order in which it is looked at. -/
def conditions (value? : String → Option String) : List (Condition Error) :=
  [readableCondition value?, issuerCondition (value? VariableName.setIssuer),
    positiveCondition (∃ raw, value? VariableName.profileConcurrency = some raw ∧ Denotes raw 0)]

theorem restsOn_ofVariables (value? : String → Option String) : RestsOn (ofVariables value?) (conditions value?) := by
  refine (Settings.restsOn_ofVariables value?).bind fun s hs => ?_
  have hread := Settings.readFrom_of_ofVariables hs
  have hbuild := s.restsOn_build
  -- What the settings are built on are conditions on the variables, since the settings were read from them.
  have hzero : (s.profileConcurrency = some 0)
      = ∃ raw, value? VariableName.profileConcurrency = some raw ∧ Denotes raw 0 := by
    rw [hread.profileConcurrency_eq_some_iff]
    simp only [zero_lt_size, and_true]
  rwa [hread.setIssuer_eq, hzero] at hbuild

/-- The conditions are met exactly if the issuer begins like the URL of a server and the number of profiles is from one
to the greatest number of sixty-four bits, where they are given. -/
theorem conditions_met_iff (value? : String → Option String) :
    (∀ condition ∈ conditions value?, condition.Met)
      ↔ (∀ issuer, value? VariableName.setIssuer = some issuer → IsServerUrl issuer)
        ∧ ∀ raw, value? VariableName.profileConcurrency = some raw →
            ∃ n, Denotes raw n ∧ 1 ≤ n ∧ n < UInt64.size := by
  simp only [conditions, List.forall_mem_cons, List.not_mem_nil, false_implies, implies_true, and_true]
  constructor
  · rintro ⟨hreadable, hissuer, hpositive⟩
    refine ⟨hissuer, fun raw hraw => ?_⟩
    obtain ⟨n, hdenotes, hn⟩ := hreadable raw hraw
    refine ⟨n, hdenotes, Nat.pos_of_ne_zero ?_, hn⟩
    rintro rfl
    exact hpositive ⟨raw, hraw, hdenotes⟩
  · rintro ⟨hissuer, hcount⟩
    refine ⟨fun raw hraw => ?_, hissuer, ?_⟩
    · obtain ⟨n, hdenotes, _, hn⟩ := hcount raw hraw
      exact ⟨n, hdenotes, hn⟩
    · rintro ⟨raw, hraw, hzero⟩
      obtain ⟨n, hdenotes, hpos, hn⟩ := hcount raw hraw
      obtain rfl := hdenotes.unique hn hzero zero_lt_size
      cases hpos

/-- Settings in any order build what variables describe, if the last ones of each field are those that are given. -/
theorem build_eq_ofVariables (hreadable : (readableCondition value?).Met) {xs : List Setting}
    (hxs : ∀ x : Setting, x.IsLastOf xs ↔ x.Given value?) : (xs.foldl Settings.set {}).build = ofVariables value? := by
  obtain ⟨s, hs⟩ := (Settings.restsOn_ofVariables value?).exists_ok_iff.2 (List.forall_mem_singleton.2 hreadable)
  rw [Settings.eq_of_isLastOf_iff (Settings.readFrom_of_ofVariables hs) hxs, ofVariables, hs]
  rfl

/-- Loading a configuration. Variables describe one exactly if the issuer begins like the URL of a server and the number
of profiles is a decimal number from one to the greatest of sixty-four bits, with blanks and a plus sign or without,
where they are given; otherwise the first condition that is not met is told. All that is in the configuration is what
the variables say, or the default, and any settings build the same whose last ones of each field are those that are
given. So at least one profile is served at a time under an accepted configuration, and until all were served some move
is possible, and moves finish the dispatch; if none might be served at a time, no moves would begin any. -/
theorem ofVariables_loads (value? : String → Option String) :
    ((∃ c, ofVariables value? = .ok c)
      ↔ (∀ issuer, value? VariableName.setIssuer = some issuer → IsServerUrl issuer)
        ∧ ∀ raw, value? VariableName.profileConcurrency = some raw →
            ∃ n, Denotes raw n ∧ 1 ≤ n ∧ n < UInt64.size)
    ∧ (∀ cause, ofVariables value? = .error cause ↔ Condition.FirstTold (conditions value?) cause)
    ∧ (∀ c, ofVariables value? = .ok c → c.ReadFrom value?)
    ∧ ((readableCondition value?).Met → ∀ xs : List Setting, (∀ x : Setting, x.IsLastOf xs ↔ x.Given value?) →
        (xs.foldl Settings.set {}).build = ofVariables value?)
    ∧ (∀ c : Configuration, c.Accepted → 1 ≤ c.profileConcurrency)
    ∧ ∀ {σ : Type} (d : Dispatcher σ) (o : Occurrence),
        (d.config.Accepted → ∀ f : FanOut σ,
          (f.isDone = false → ∃ move : Move σ, move.Possible d.config.profileConcurrency f)
          ∧ ∀ s, ∃ moves f' s', FanOut.playAll d o moves f s = .ok f' s' ∧ f'.isDone = true)
        ∧ (d.config.profileConcurrency = 0 → ∀ f : FanOut σ, f.inFlight = [] → ∀ moves s,
            ∃ s', FanOut.playAll d o moves f s = .ok f s') := by
  refine ⟨?_, (restsOn_ofVariables value?).eq_error_iff, fun c => readFrom_of_ofVariables,
    fun hreadable xs => build_eq_ofVariables hreadable, fun c => Accepted.one_le_profileConcurrency, ?_⟩
  · rw [(restsOn_ofVariables value?).exists_ok_iff]
    exact conditions_met_iff value?
  · intro σ d o
    refine ⟨fun haccepted f => ?_, fun hzero f hflight moves s => ?_⟩
    · have hpositive : 0 < d.config.profileConcurrency := haccepted.one_le_profileConcurrency
      refine ⟨FanOut.exists_possible hpositive, fun s => ?_⟩
      obtain ⟨moves, f', s', hplay, hdone, _⟩ := FanOut.exists_finish hpositive o f s
      exact ⟨moves, f', s', hplay, hdone⟩
    · exact FanOut.exists_playAll_stuck hzero o moves hflight s

/-- Variables for the issuer and for the number of profiles, which is written with a plus sign, a zero and blanks. -/
def twoVariables (name : String) : Option String :=
  if name = VariableName.setIssuer then some "https://id.example.com/"
  else if name = VariableName.profileConcurrency then some " +04 "
  else none

/-- The same as settings, after another number of profiles. -/
def threeSettings : List Setting :=
  [.profileConcurrency 9, .setIssuer "https://id.example.com/", .profileConcurrency 4]

theorem denotes_four {n : Nat} : Denotes " +04 " n ∧ n < UInt64.size ↔ n = 4 := by
  have hread : readCount (Text.trim " +04 ".toList) = .ok 4 := by
    rfl
  rw [← readCount_trim_eq_ok_iff, hread, Except.ok.injEq, eq_comm]

theorem isLastOf_threeSettings_iff (x : Setting) : x.IsLastOf threeSettings ↔ x.Given twoVariables := by
  simp only [threeSettings, Setting.isLastOf_cons_iff, Setting.not_isLastOf_nil]
  cases x <;> simp [Setting.Given, Setting.field, twoVariables, VariableName.setIssuer,
    VariableName.superTenant, VariableName.systemApplication, VariableName.organizationIdp,
    VariableName.profileConcurrency, VariableName.profileDirectory, denotes_four, eq_comm]

theorem twoVariables_loads :
    (threeSettings.foldl Settings.set {}).build
      = .ok { setIssuer := "https://id.example.com/", profileConcurrency := 4 } := by
  have hreadable : (readableCondition twoVariables).Met := by
    rintro raw ⟨⟩
    exact ⟨4, denotes_four.2 rfl⟩
  exact (ofVariables_loads twoVariables).2.2.2.1 hreadable threeSettings isLastOf_threeSettings_iff

end Configuration

end SecurityEvents
