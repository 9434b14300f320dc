import SecurityEvents.EventData
import SecurityEvents.Proofs.Condition
set_option autoImplicit false

/-!
# What is extracted from an event

The data of an event stand in its parameters and, where these say nothing, in its authentication context. `Extracted`
tells field by field what the data of an event are; `Parameters.conditions` is what is asked of the parameters, in the
order in which it is looked at. `EventData.ofEvent_extracts`: there are data exactly if all that is asked for is so, and
otherwise the first fault is reported.
-/

namespace SecurityEvents

/-! ## Scalars -/

/-- A value that cannot stand where a scalar is expected. -/
inductive Json.NoScalar : Json → Prop where
  | bool (b : Bool) : NoScalar (.bool b)
  | array (items : List Json) : NoScalar (.array items)
  | object (members : List (String × Json)) : NoScalar (.object members)

/-- What a parameter says where a scalar is expected: a text as it stands, or a number as it is written. Where it says
nothing, something else does. -/
inductive ScalarOr (otherwise : Option String) : Option Json → Option String → Prop where
  | missing : ScalarOr otherwise none otherwise
  | null : ScalarOr otherwise (some .null) otherwise
  | blank {s : String} (h : ∀ c ∈ s.toList, Text.isBlank c = true) :
    ScalarOr otherwise (some (.string s)) otherwise
  | text {s : String} (h : ∃ c ∈ s.toList, Text.isBlank c = false) :
    ScalarOr otherwise (some (.string s)) (some s)
  | number (n : Json.Number) : ScalarOr otherwise (some (.number n)) (some (Json.number n).text)

theorem Text.isBlankText_eq_true_iff {s : String} :
    isBlankText s = true ↔ ∀ c ∈ s.toList, isBlank c = true :=
  List.all_eq_true

theorem Text.isBlankText_eq_false_iff {s : String} :
    isBlankText s = false ↔ ∃ c ∈ s.toList, isBlank c = false := by
  simp only [isBlankText, List.all_eq_false, Bool.not_eq_true]

namespace Parameters

variable {ps : Parameters} {name : String}

/-- If the parameter is there, a scalar can be read from it. -/
def scalarCondition (ps : Parameters) (name : String) : Condition String where
  Met := ∀ v, ps.get? name = some v → ¬ v.NoScalar
  Tells reason := ∃ v, ps.get? name = some v ∧ reason = name ++ " must be a string, got " ++ v.text

theorem scalarOr_iff {otherwise said : Option String} :
    ScalarOr otherwise (ps.get? name) said ↔ ∃ own, ps.scalar name = .ok own ∧ own.or otherwise = said := by
  unfold scalar
  generalize ps.get? name = v
  constructor
  · intro h
    cases h with
    | missing | null => exact ⟨none, rfl, rfl⟩
    | @blank s hblank => exact ⟨none, by simp [Text.isBlankText_eq_true_iff.2 hblank], rfl⟩
    | @text s htext => exact ⟨some s, by simp [Text.isBlankText_eq_false_iff.2 htext], rfl⟩
    | number n => exact ⟨some n.text, rfl, rfl⟩
  · rintro ⟨own, hown, rfl⟩
    split at hown
    · cases hown
      exact .missing
    · cases hown
      exact .null
    · rename_i s
      cases hblank : Text.isBlankText s with
      | true =>
        simp only [hblank, if_true] at hown
        cases hown
        exact .blank (Text.isBlankText_eq_true_iff.1 hblank)
      | false =>
        simp only [hblank, Bool.false_eq_true, if_false] at hown
        cases hown
        exact .text (Text.isBlankText_eq_false_iff.1 hblank)
    · cases hown
      exact .number _
    · cases hown

theorem restsOn_scalar (ps : Parameters) (name : String) : RestsOn (ps.scalar name) [ps.scalarCondition name] := by
  unfold scalar scalarCondition
  generalize ps.get? name = v
  have hnone (w : Json) (h : w.NoScalar) :
      RestsOn (.error (name ++ " must be a string, got " ++ w.text) : Except String (Option String))
        [⟨∀ v, some w = some v → ¬ v.NoScalar,
          fun reason => ∃ v, some w = some v ∧ reason = name ++ " must be a string, got " ++ v.text⟩] := by
    refine restsOn_error (fun hmet => hmet w rfl h) fun reason => ?_
    simp only [Option.some.injEq, exists_eq_left']
  cases v with
  | none => exact restsOn_ok_iff.2 (List.forall_mem_singleton.2 nofun)
  | some v =>
    cases v with
    | null | string | number =>
      refine restsOn_ok_iff.2 (List.forall_mem_singleton.2 fun w hw => ?_)
      cases hw
      exact nofun
    | bool b => exact hnone _ (.bool b)
    | array items => exact hnone _ (.array items)
    | object members => exact hnone _ (.object members)

/-! ## The authentication context -/

/-- If there is a context, it can be read. -/
def contextCondition (ps : Parameters) : Condition String where
  Met := ∀ v, ps.get? ParameterName.context = some v →
    v = .null ∨ ∃ context, AuthenticationContext.reading.ofValue v = some context
  Tells reason := reason = "invalid " ++ ParameterName.context

/-- What the context parameter says of the authentication. -/
inductive Authenticates : Option Json → Option AuthenticationContext → Prop where
  | missing : Authenticates none none
  | null : Authenticates (some .null) none
  | context {v : Json} {context : AuthenticationContext} (hnull : v ≠ .null)
    (hread : AuthenticationContext.reading.ofValue v = some context) : Authenticates (some v) (some context)

theorem authentication_of_read {v : Json} {context : AuthenticationContext}
    (hv : ps.get? ParameterName.context = some v) (hnull : v ≠ .null)
    (hread : AuthenticationContext.reading.ofValue v = some context) : ps.authentication = .ok (some context) := by
  cases v with
  | null => exact (hnull rfl).elim
  | _ => simp only [authentication, hv, hread]

theorem authentication_of_unread {v : Json} (hv : ps.get? ParameterName.context = some v) (hnull : v ≠ .null)
    (hread : AuthenticationContext.reading.ofValue v = none) :
    ps.authentication = .error ("invalid " ++ ParameterName.context) := by
  cases v with
  | null => exact (hnull rfl).elim
  | _ => simp only [authentication, hv, hread]

/-- There is no context, or a null in its place, or it can be read or cannot. -/
theorem authentication_cases (ps : Parameters) :
    (ps.get? ParameterName.context = none ∧ ps.authentication = .ok none)
    ∨ (ps.get? ParameterName.context = some .null ∧ ps.authentication = .ok none)
    ∨ ∃ v, ps.get? ParameterName.context = some v ∧ v ≠ .null
      ∧ ((∃ context, AuthenticationContext.reading.ofValue v = some context
          ∧ ps.authentication = .ok (some context))
        ∨ AuthenticationContext.reading.ofValue v = none
          ∧ ps.authentication = .error ("invalid " ++ ParameterName.context)) := by
  cases hv : ps.get? ParameterName.context with
  | none => exact .inl ⟨rfl, by rw [authentication, hv]⟩
  | some v =>
    by_cases hnull : v = .null
    · subst hnull
      exact .inr (.inl ⟨rfl, by rw [authentication, hv]⟩)
    · refine .inr (.inr ⟨v, rfl, hnull, ?_⟩)
      cases hread : AuthenticationContext.reading.ofValue v with
      | some context => exact .inl ⟨context, rfl, authentication_of_read hv hnull hread⟩
      | none => exact .inr ⟨rfl, authentication_of_unread hv hnull hread⟩

theorem authentication_eq_ok_iff {context : Option AuthenticationContext} :
    ps.authentication = .ok context ↔ Authenticates (ps.get? ParameterName.context) context := by
  obtain ⟨hv, hok⟩ | ⟨hv, hok⟩ | ⟨v, hv, hnull, ⟨read, hread, hok⟩ | ⟨hread, herror⟩⟩ := ps.authentication_cases
  · rw [hv, hok, Except.ok.injEq]
    exact ⟨fun h => h ▸ .missing, fun h => by cases h; rfl⟩
  · rw [hv, hok, Except.ok.injEq]
    refine ⟨fun h => h ▸ .null, fun h => ?_⟩
    cases h with
    | null => rfl
    | context hnull _ => exact (hnull rfl).elim
  · rw [hv, hok, Except.ok.injEq]
    refine ⟨fun h => h ▸ .context hnull hread, fun h => ?_⟩
    cases h with
    | null => exact (hnull rfl).elim
    | context _ hsame => exact hread.symm.trans hsame
  · rw [hv, herror]
    refine iff_of_false (fun h => nomatch h) fun h => ?_
    cases h with
    | null => exact hnull rfl
    | context _ hsame => cases hread.symm.trans hsame

theorem restsOn_authentication (ps : Parameters) : RestsOn ps.authentication [ps.contextCondition] := by
  have hmet {v : Option Json} {x : Option AuthenticationContext} (hv : ps.get? ParameterName.context = v)
      (hok : ps.authentication = .ok x)
      (hcontext : ∀ w, v = some w → w = .null ∨ ∃ context, AuthenticationContext.reading.ofValue w = some context) :
      RestsOn ps.authentication [ps.contextCondition] := by
    rw [hok]
    exact restsOn_ok_iff.2 (List.forall_mem_singleton.2 fun w hw => hcontext w (hv ▸ hw))
  obtain ⟨hv, hok⟩ | ⟨hv, hok⟩ | ⟨v, hv, hnull, ⟨read, hread, hok⟩ | ⟨hread, herror⟩⟩ := ps.authentication_cases
  · exact hmet hv hok nofun
  · exact hmet hv hok fun w hw => .inl (Option.some.inj hw).symm
  · exact hmet hv hok fun w hw => .inr ⟨read, Option.some.inj hw ▸ hread⟩
  · rw [herror]
    refine restsOn_error (fun hmet => ?_) fun _ => Iff.rfl
    rcases hmet v hv with h | ⟨context, h⟩
    · exact hnull h
    · cases hread.symm.trans h

/-- What is asked of the parameters, in the order in which it is looked at. -/
def conditions (ps : Parameters) : List (Condition String) :=
  ps.contextCondition :: [ParameterName.tenantDomain, ParameterName.userId, ParameterName.userName,
    ParameterName.userStoreDomain, ParameterName.tenantId, ParameterName.correlationId].map ps.scalarCondition

end Parameters

/-! ## Names of users -/

/-- The text is a user store and a name with a slash between them, the first in the text. -/
structure SplitsAs (text store name : String) : Prop where
  text_eq : text = store ++ "/" ++ name
  slash_not_mem : '/' ∉ store.toList
  store_ne : store ≠ ""
  name_ne : name ≠ ""

/-- How the name of a user and the user store are found: a name may be qualified by the store, and an explicit store
wins. Where there is a name there is a store. -/
inductive Identifies : (qualified explicitStore name store : Option String) → Prop where
  | unnamed (explicitStore : Option String) : Identifies none explicitStore none explicitStore
  | split {text store name : String} (h : SplitsAs text store name) (explicitStore : Option String) :
    Identifies (some text) explicitStore (some name) (some (explicitStore.getD (Text.uppercase store)))
  | whole {text : String} (h : ∀ store name, ¬ SplitsAs text store name) (explicitStore : Option String) :
    Identifies (some text) explicitStore (some text) (some (explicitStore.getD "PRIMARY"))

theorem Identifies.isSome_store {qualified explicitStore name store : Option String}
    (h : Identifies qualified explicitStore name store) (hname : name.isSome = true) : store.isSome = true := by
  cases h with
  | unnamed => cases hname
  | split | whole => rfl

theorem splitsAs_iff {text store name : String} :
    SplitsAs text store name
      ↔ Text.cutAtSlash? text.toList = some (store.toList, name.toList) ∧ store ≠ "" ∧ name ≠ "" := by
  rw [Text.cutAtSlash?_eq_some_iff]
  constructor
  · exact fun h => ⟨⟨h.text_eq, h.slash_not_mem⟩, h.store_ne, h.name_ne⟩
  · exact fun ⟨⟨htext, hslash⟩, hstore, hname⟩ => ⟨htext, hslash, hstore, hname⟩

theorem splitQualifiedName_of_splitsAs {text store name : String} (h : SplitsAs text store name) :
    splitQualifiedName text = (some (Text.uppercase store), name) := by
  obtain ⟨hcut, hstore, hname⟩ := splitsAs_iff.1 h
  have hempty (s : String) : s.toList.isEmpty = decide (s = "") := by
    rw [Bool.eq_iff_iff, List.isEmpty_iff, decide_eq_true_iff, String.toList_eq_nil_iff]
  simp [splitQualifiedName, hcut, hempty, hstore, hname]

theorem splitQualifiedName_of_not_splitsAs {text : String} (h : ∀ store name, ¬ SplitsAs text store name) :
    splitQualifiedName text = (none, text) := by
  cases hcut : Text.cutAtSlash? text.toList with
  | none => rw [splitQualifiedName, hcut]
  | some parts =>
    obtain ⟨store, name⟩ := parts
    have hsplit := h (String.ofList store) (String.ofList name)
    rw [splitsAs_iff, String.toList_ofList, String.toList_ofList] at hsplit
    have hempty : (store.isEmpty || name.isEmpty) = true := by
      cases store with
      | nil => rfl
      | cons c store =>
        cases name with
        | nil => rfl
        | cons b name => exact (hsplit ⟨hcut, by simp, by simp⟩).elim
    simp only [splitQualifiedName, hcut, hempty, if_true]

theorem identity_eq_iff {qualified explicitStore name store : Option String} :
    EventData.identity qualified explicitStore = (name, store) ↔ Identifies qualified explicitStore name store := by
  constructor
  · intro h
    cases qualified with
    | none =>
      cases h
      exact .unnamed _
    | some text =>
      by_cases hsplit : ∃ store name, SplitsAs text store name
      · obtain ⟨_, _, hsplit⟩ := hsplit
        rw [EventData.identity, splitQualifiedName_of_splitsAs hsplit] at h
        cases h
        cases explicitStore <;> exact .split hsplit _
      · have hwhole : ∀ store name, ¬ SplitsAs text store name := fun store name h => hsplit ⟨store, name, h⟩
        rw [EventData.identity, splitQualifiedName_of_not_splitsAs hwhole] at h
        cases h
        cases explicitStore <;> exact .whole hwhole _
  · intro h
    cases h with
    | unnamed => rfl
    | split h =>
      rw [EventData.identity, splitQualifiedName_of_splitsAs h]
      cases explicitStore <;> rfl
    | whole h =>
      rw [EventData.identity, splitQualifiedName_of_not_splitsAs h]
      cases explicitStore <;> rfl

/-! ## Events -/

/-- The data are those of the event. -/
structure Extracted (e : Event) (d : EventData) : Prop where
  authentication : Parameters.Authenticates (e.parameters.get? ParameterName.context) d.authentication
  tenantDomain : ScalarOr (d.authentication.bind (·.tenantDomain))
    (e.parameters.get? ParameterName.tenantDomain) d.tenantDomain
  userId : ScalarOr ((d.authentication.bind (·.authenticatedUser)).bind (·.userId))
    (e.parameters.get? ParameterName.userId) d.userId
  /-- A qualified name and an explicit store are looked for apart, and say together who the user is. -/
  user : ∃ qualified explicitStore,
    ScalarOr ((d.authentication.bind (·.authenticatedUser)).bind (·.userName))
      (e.parameters.get? ParameterName.userName) qualified
    ∧ ScalarOr ((d.authentication.bind (·.authenticatedUser)).bind (·.userStoreDomain))
      (e.parameters.get? ParameterName.userStoreDomain) explicitStore
    ∧ Identifies qualified explicitStore d.userName d.userStoreDomain
  tenantId : ScalarOr none (e.parameters.get? ParameterName.tenantId) d.tenantId
  correlationId : ScalarOr none (e.parameters.get? ParameterName.correlationId) d.correlationId
  eventName : d.eventName = e.name
  parameters : d.parameters = e.parameters
  flow : d.flow = e.flow

namespace EventData

theorem restsOn_ofParameters (e : Event) : RestsOn (ofParameters e) e.parameters.conditions := by
  apply (e.parameters.restsOn_authentication).bind
  intro authentication _
  apply (e.parameters.restsOn_scalar _).bind
  intro tenantDomain _
  apply (e.parameters.restsOn_scalar _).bind
  intro userId _
  apply (e.parameters.restsOn_scalar _).bind
  intro userName _
  apply (e.parameters.restsOn_scalar _).bind
  intro userStoreDomain _
  apply (e.parameters.restsOn_scalar _).bind
  intro tenantId _
  apply (e.parameters.restsOn_scalar _).bind
  intro correlationId _
  exact restsOn_ok _

theorem extracted_of_ofParameters {e : Event} {d : EventData} (h : ofParameters e = .ok d) : Extracted e d := by
  obtain ⟨authentication, hauthentication, h⟩ := exists_of_bind_eq_ok h
  obtain ⟨tenantDomain, htenantDomain, h⟩ := exists_of_bind_eq_ok h
  obtain ⟨userId, huserId, h⟩ := exists_of_bind_eq_ok h
  obtain ⟨userName, huserName, h⟩ := exists_of_bind_eq_ok h
  obtain ⟨userStoreDomain, huserStoreDomain, h⟩ := exists_of_bind_eq_ok h
  obtain ⟨tenantId, htenantId, h⟩ := exists_of_bind_eq_ok h
  obtain ⟨correlationId, hcorrelationId, h⟩ := exists_of_bind_eq_ok h
  cases h
  exact {
    authentication := Parameters.authentication_eq_ok_iff.1 hauthentication
    tenantDomain := Parameters.scalarOr_iff.2 ⟨tenantDomain, htenantDomain, rfl⟩
    userId := Parameters.scalarOr_iff.2 ⟨userId, huserId, rfl⟩
    user := ⟨_, _, Parameters.scalarOr_iff.2 ⟨userName, huserName, rfl⟩,
      Parameters.scalarOr_iff.2 ⟨userStoreDomain, huserStoreDomain, rfl⟩, identity_eq_iff.1 rfl⟩
    tenantId := Parameters.scalarOr_iff.2 ⟨tenantId, htenantId, Option.or_none⟩
    correlationId := Parameters.scalarOr_iff.2 ⟨correlationId, hcorrelationId, Option.or_none⟩
    eventName := rfl
    parameters := rfl
    flow := rfl }

theorem ofParameters_of_extracted {e : Event} {d : EventData} (h : Extracted e d) : ofParameters e = .ok d := by
  obtain ⟨eventName, tenantDomain, tenantId, userId, name, store, correlationId, authentication, flow, parameters⟩ := d
  obtain ⟨hauthentication, htenant, huser, ⟨qualified, explicitStore, hqualified, hexplicit, hidentifies⟩, htenantId,
    hcorrelationId, heventName, hparameters, hflow⟩ := h
  dsimp only at *
  subst heventName hparameters hflow
  have hcontext := Parameters.authentication_eq_ok_iff.2 hauthentication
  obtain ⟨ownTenant, hownTenant, rfl⟩ := Parameters.scalarOr_iff.1 htenant
  obtain ⟨ownUser, hownUser, rfl⟩ := Parameters.scalarOr_iff.1 huser
  obtain ⟨userName, huserName, rfl⟩ := Parameters.scalarOr_iff.1 hqualified
  obtain ⟨userStore, huserStore, rfl⟩ := Parameters.scalarOr_iff.1 hexplicit
  obtain ⟨ownTenantId, hownTenantId, rfl⟩ := Parameters.scalarOr_iff.1 htenantId
  obtain ⟨ownCorrelationId, hownCorrelationId, rfl⟩ := Parameters.scalarOr_iff.1 hcorrelationId
  simp only [ofParameters, hcontext, hownTenant, hownUser, huserName, huserStore, hownTenantId, hownCorrelationId, bind,
    Except.bind, identity_eq_iff.2 hidentifies, Option.or_none]
  rfl

theorem ofEvent_eq_ok_iff {e : Event} {d : EventData} : ofEvent e = .ok d ↔ Extracted e d := by
  have hmap : ofEvent e = .ok d ↔ ofParameters e = .ok d := by
    unfold ofEvent
    cases ofParameters e with
    | error reason => exact iff_of_false (fun h => nomatch h) fun h => nomatch h
    | ok data => exact ⟨fun h => congrArg _ (Except.ok.inj h), fun h => congrArg _ (Except.ok.inj h)⟩
  exact hmap.trans ⟨extracted_of_ofParameters, ofParameters_of_extracted⟩

theorem ofEvent_eq_error_iff {e : Event} {error : Error} :
    ofEvent e = .error error ↔ ∃ reason, ofParameters e = .error reason ∧ error = .dataExtraction e.name reason := by
  unfold ofEvent
  cases ofParameters e with
  | ok data => exact iff_of_false (fun h => nomatch h) fun ⟨_, h, _⟩ => nomatch h
  | error reason =>
    constructor
    · intro h
      exact ⟨reason, rfl, (Except.error.inj h).symm⟩
    · rintro ⟨other, hother, rfl⟩
      rw [← Except.error.inj hother]
      rfl

/-- Extraction fails exactly if something that is asked of the parameters is not so, and the first fault is blamed.
Otherwise it gives the data of the event, which name a user store wherever they name a user. -/
theorem ofEvent_extracts (e : Event) :
    ((∃ error, ofEvent e = .error error) ↔ ∃ c ∈ e.parameters.conditions, ¬ c.Met)
    ∧ (∀ error, ofEvent e = .error error ↔
        ∃ reason, Condition.FirstTold e.parameters.conditions reason ∧ error = .dataExtraction e.name reason)
    ∧ (∀ d, ofEvent e = .ok d ↔ Extracted e d)
    ∧ ∀ d, ofEvent e = .ok d → d.userName.isSome = true → d.userStoreDomain.isSome = true := by
  have hrests := restsOn_ofParameters e
  have herror (error : Error) : ofEvent e = .error error ↔
      ∃ reason, Condition.FirstTold e.parameters.conditions reason ∧ error = .dataExtraction e.name reason := by
    simp only [ofEvent_eq_error_iff, hrests.eq_error_iff]
  refine ⟨⟨?_, ?_⟩, herror, fun d => ofEvent_eq_ok_iff, ?_⟩
  · rintro ⟨error, h⟩
    obtain ⟨reason, htold, _⟩ := (herror error).1 h
    exact htold.exists_unmet
  · rintro ⟨c, hc, hunmet⟩
    cases hparameters : ofParameters e with
    | error reason => exact ⟨_, ofEvent_eq_error_iff.2 ⟨reason, hparameters, rfl⟩⟩
    | ok data => exact (hunmet (hrests.exists_ok_iff.1 ⟨data, hparameters⟩ c hc)).elim
  · intro d h hname
    obtain ⟨_, _, _, _, hidentifies⟩ := (ofEvent_eq_ok_iff.1 h).user
    exact hidentifies.isSome_store hname

end EventData

end SecurityEvents
