import SecurityEvents.Proofs.Configuration.Issuer
import SecurityEvents.Proofs.Dispatch.Runs
import SecurityEvents.Proofs.Payload.Subject
set_option autoImplicit false

/-!
# Issuers of what is published

Every token that is recorded over a run goes out under the issuer of the tenant in its context, which is the tenant that
the announcement of its event belongs to (`Dispatcher.IssuedFor`). So two tokens have the same issuer exactly if they
belong to the same tenant (`Dispatcher.issuers_separate_tenants`), and whether issuers and references to users are URLs
is decided by the configuration alone (`Configuration.issuers_are_urls_iff`).
-/

namespace SecurityEvents

/-! ## References to users -/

namespace Wso2

variable {config : Configuration} {category : Category} {data : EventData} {document : Document}

/-- Whatever a document refers to is a user of the event's tenant. -/
theorem exists_of_reference (h : Wso2.document config category data = .ok document) {u : User} {reference : String}
    (hu : document.user = some u) (hreference : u.reference = some reference) :
    ∃ id, reference = userReference config data id := by
  have hdescribes := describes_document h
  rw [hu] at hdescribes
  cases hdescribes with
  | known _ _ hidentifies | claimed _ _ _ hidentifies =>
    exact ⟨_, Option.some.inj (hreference.symm.trans hidentifies.reference_eq)⟩
  | unnamed hcategory =>
    subst hcategory
    obtain ⟨claims, _, huser⟩ := exists_of_registrationFailure h
    obtain rfl := Option.some.inj (hu.symm.trans huser)
    cases hid : data.userId.or ((claimOf? claims ClaimUri.location).bind idOfLocation?) with
    | none =>
      rw [hid] at hreference
      cases hreference
    | some id =>
      rw [hid] at hreference
      exact ⟨id, (Option.some.inj hreference).symm⟩

/-- A payload refers to its user by a URL if the issuer in the configuration names a server. -/
theorem isServerUrl_reference_iff (h : IsServerUrl config.setIssuer) {payload : Payload}
    (hpayload : Wso2.encode config category data = .ok payload) {user : Json} {reference : String}
    (huser : payload.json.member? "user" = some user) (hreference : user.member? "ref" = some (.string reference)) :
    IsServerUrl reference ↔ NamesServer config.setIssuer := by
  obtain ⟨document, hdocument, rfl⟩ := exists_of_encode hpayload
  obtain ⟨u, hu, rfl⟩ := Option.map_eq_some_iff.1 (document.member?_user.symm.trans huser)
  obtain ⟨text, htext, hstring⟩ := Option.map_eq_some_iff.1 (u.member?_ref.symm.trans hreference)
  obtain rfl := Json.string.inj hstring
  obtain ⟨id, rfl⟩ := exists_of_reference hdocument hu htext
  rw [userReference, String.append_assoc]
  apply config.isServerUrl_issuerFor_append_iff h
  intro rest hrest
  rw [← String.toList_inj] at hrest
  simp at hrest

end Wso2

/-! ## Tokens -/

namespace Dispatcher

variable {σ : Type} {d : Dispatcher σ}

/-- The token was issued for an event that was asked about, under the issuer of the tenant in its context: the one that
the announcement of the event belongs to. -/
def IssuedFor (d : Dispatcher σ) (asked : Event → Category → Prop) (v : Published) : Prop :=
  ∃ event category data, asked event category ∧ EventData.ofEvent event = .ok data
    ∧ v.context.tenantDomain = data.publishTenantDomain category
    ∧ v.token.issuer = d.config.issuerFor v.context.tenantDomain

theorem AnnouncesAsked.issuedFor {asked : Event → Category → Prop} {v : Published} (h : d.AnnouncesAsked asked v) :
    d.IssuedFor asked v := by
  obtain ⟨event, category, hasked, data, p, hdata, route, payload, stamp, _, _, rfl⟩ := h
  exact ⟨event, category, data, hasked, hdata, rfl, rfl⟩

end Dispatcher

/-- Whether issuers are URLs, in an accepted configuration. All of them are if the issuer in it names a server, and so
are the references to users in payloads and the issuers of all tokens that are recorded over a run. Otherwise none of
them is: the issuer is a protocol and slashes, and all that is left of it is the protocol. -/
theorem Configuration.issuers_are_urls_iff {c : Configuration} (h : c.Accepted) :
    IsServerUrl c.setIssuer
    ∧ (¬ NamesServer c.setIssuer → c.issuerBase ∈ serverProtocols)
    ∧ (∀ tenant, IsServerUrl (c.issuerFor tenant) ↔ NamesServer c.setIssuer)
    ∧ (∀ category data payload user reference, Wso2.encode c category data = .ok payload →
        payload.json.member? "user" = some user → user.member? "ref" = some (.string reference) →
        (IsServerUrl reference ↔ NamesServer c.setIssuer))
    ∧ ∀ {σ : Type} (d : Dispatcher σ) (record : σ → List Published)
        (noted : Except Panic (Except PublishError Unit) → Bool), d.config = c → d.Books record noted →
        d.provider.list.Keeps record → ∀ run : Run σ, (∀ act, run.Disturbs act → act.Keeps record) → ∀ s,
          ∃ new, record (run.after d s).state.services = record s.state.services ++ new
            ∧ ∀ v ∈ new, IsServerUrl v.token.issuer ↔ NamesServer c.setIssuer := by
  have hurl : IsServerUrl c.setIssuer := h.isServerUrl
  refine ⟨hurl, issuerBase_mem_serverProtocols hurl, isServerUrl_issuerFor_iff hurl, ?_, ?_⟩
  · intro category data payload user reference hpayload huser hreference
    exact Wso2.isServerUrl_reference_iff hurl hpayload huser hreference
  · rintro σ d record noted rfl hb hlist run hrun s
    obtain ⟨new, hnew, hall⟩ := run.exists_recorded hb hlist hrun s
    refine ⟨new, hnew, fun v hv => ?_⟩
    obtain ⟨event, category, data, _, _, _, hissuer⟩ := (hall v hv).issuedFor
    rw [hissuer]
    exact isServerUrl_issuerFor_iff hurl _

/-- An accepted configuration with an issuer that does not name its server. -/
def Configuration.bareProtocol : Configuration :=
  { setIssuer := "https://" }

/-- The variables of the configuration. -/
def Configuration.bareVariables (name : String) : Option String :=
  if name = VariableName.setIssuer then some "https://" else none

theorem Configuration.ofVariables_bareVariables : Configuration.ofVariables bareVariables = .ok bareProtocol :=
  rfl

/-- The dispatcher with the standard catalog and encoders, under the issuer that does not name its server. -/
def Dispatcher.underBareProtocol : Dispatcher Stage :=
  { Dispatcher.standardRehearsal with
    config := Configuration.bareProtocol
    encoders := .standard Configuration.bareProtocol }

/-- The issuer is accepted as a URL, but the tenants' are none, and tokens go out under what is none. -/
theorem Configuration.issuer_loses_slashes :
    Configuration.bareProtocol.Accepted
    ∧ isServerUrl Configuration.bareProtocol.setIssuer = true
    ∧ Configuration.bareProtocol.issuerFor none = "https:" ∧ isServerUrl "https:" = false
    ∧ (Stage.recorded ((Dispatcher.underBareProtocol.dispatch Dispatcher.lockedAccount .userLocked).after
        Dispatcher.standardScene).state.services).map (·.token.issuer)
      = ["https:/t/example.com", "https:/t/example.com"] := by
  refine ⟨.inr ⟨bareVariables, ofVariables_bareVariables⟩, ?_⟩
  decide +kernel

/-- The configuration of the rehearsal names its server, so the tokens of the locked account go out under URLs. -/
theorem Configuration.rehearsed_issuers_are_urls_iff :
    NamesServer Dispatcher.standardRehearsal.config.setIssuer
    ∧ ∃ new, Stage.recorded ((Run.caller [.dispatch Dispatcher.lockedAccount .userLocked]).after
        Dispatcher.standardRehearsal Dispatcher.standardScene).state.services = new
      ∧ new.length = 2 ∧ ∀ v ∈ new, IsServerUrl v.token.issuer := by
  have hbuilt : Settings.build { profileConcurrency := some 2 } = .ok Dispatcher.standardRehearsal.config :=
    rfl
  have hnames : NamesServer Dispatcher.standardRehearsal.config.setIssuer :=
    ⟨"https:", List.mem_cons_self, "localhost:9443", by decide, 'l', by decide, by decide⟩
  have hlength : (Stage.recorded ((Run.caller [.dispatch Dispatcher.lockedAccount .userLocked]).after
      Dispatcher.standardRehearsal Dispatcher.standardScene).state.services).length = 2 := by
    decide +kernel
  obtain ⟨new, hnew, hall⟩ := (issuers_are_urls_iff (.inl ⟨_, hbuilt⟩)).2.2.2.2 Dispatcher.standardRehearsal
    Stage.recorded isTaken rfl Dispatcher.books_standardRehearsal (Provider.keeps_memory Rehearsal.aside)
    (.caller [.dispatch Dispatcher.lockedAccount .userLocked]) (by simp [Run.Disturbs]) Dispatcher.standardScene
  rw [hnew] at hlength
  exact ⟨hnames, new, hnew, hlength, fun v hv => (hall v hv).2 hnames⟩

namespace Dispatcher

/-- Issuers separate tenants, whatever the configuration is: two tenants have the same issuer exactly if they are the
same or both are root tenants, and slashes at the end of the issuer in the configuration make no difference. Every token
that is recorded over a run goes out under the issuer of the tenant that the announcement of its event belongs to, so
two of them have the same issuer exactly if they belong to the same tenant. -/
theorem issuers_separate_tenants (c : Configuration) :
    (∀ tenant other, c.issuerFor tenant = c.issuerFor other ↔ c.SameTenant tenant other)
    ∧ (∀ n tenant, { c with setIssuer := c.setIssuer ++ String.ofList (List.replicate n '/') }.issuerFor tenant
        = c.issuerFor tenant)
    ∧ ∀ {σ : Type} (d : Dispatcher σ) (record : σ → List Published)
        (noted : Except Panic (Except PublishError Unit) → Bool), d.config = c → d.Books record noted →
        d.provider.list.Keeps record → ∀ run : Run σ, (∀ act, run.Disturbs act → act.Keeps record) → ∀ s,
          ∃ new, record (run.after d s).state.services = record s.state.services ++ new
            ∧ (∀ v ∈ new, d.IssuedFor (fun event category => run.Asks event category) v)
            ∧ ∀ v ∈ new, ∀ w ∈ new,
                v.token.issuer = w.token.issuer ↔ c.SameTenant v.context.tenantDomain w.context.tenantDomain := by
  refine ⟨fun tenant other => c.issuerFor_eq_iff, c.issuerFor_append_slashes, ?_⟩
  rintro σ d record noted rfl hb hlist run hrun s
  obtain ⟨new, hnew, hall⟩ := run.exists_recorded hb hlist hrun s
  refine ⟨new, hnew, fun v hv => (hall v hv).issuedFor, fun v hv w hw => ?_⟩
  obtain ⟨_, _, _, _, _, _, hissuer⟩ := (hall v hv).issuedFor
  obtain ⟨_, _, _, _, _, _, hissuer'⟩ := (hall w hw).issuedFor
  rw [hissuer, hissuer']
  exact d.config.issuerFor_eq_iff

/-- The same account is locked, but in the super tenant. -/
def lockedRootAccount : Event :=
  ⟨EventName.postLockAccount,
    ⟨[(ParameterName.tenantDomain, .string "carbon.super"), (ParameterName.userId, .string "1f3a")], by decide⟩,
    none⟩

/-- Accounts of two tenants are locked. -/
def lockings : Run Stage :=
  .caller [.dispatch lockedAccount .userLocked, .dispatch lockedRootAccount .userLocked]

theorem issuers_lockings :
    (Stage.recorded (lockings.after standardRehearsal standardScene).state.services).map (·.token.issuer)
      = ["https://localhost:9443/t/example.com", "https://localhost:9443/t/example.com", "https://localhost:9443",
        "https://localhost:9443"] := by
  decide +kernel

theorem rehearsed_issuers_separate_tenants :
    ∃ new, Stage.recorded (lockings.after standardRehearsal standardScene).state.services = new
      ∧ new.length = 4
      ∧ ∀ v ∈ new, ∀ w ∈ new, v.token.issuer = w.token.issuer
        ↔ standardRehearsal.config.SameTenant v.context.tenantDomain w.context.tenantDomain := by
  obtain ⟨new, hnew, _, hall⟩ := (issuers_separate_tenants standardRehearsal.config).2.2 standardRehearsal
    Stage.recorded isTaken rfl books_standardRehearsal (Provider.keeps_memory Rehearsal.aside) lockings
    (by simp [Run.Disturbs, lockings]) standardScene
  have hlength := congrArg List.length issuers_lockings
  rw [List.length_map, hnew] at hlength
  exact ⟨new, hnew, hlength, hall⟩

end Dispatcher

end SecurityEvents
