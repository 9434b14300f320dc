import SecurityEvents.Configuration
import SecurityEvents.Proofs.Condition
set_option autoImplicit false

/-!
# Issuers

A configuration is accepted only if its issuer begins like the URL of a server, but what tenants are announced under is
made of the issuer without the slashes at its end. The two agree where the issuer names a server (`NamesServer`). An
accepted issuer that does not is a scheme followed by slashes, and loses the slashes of the scheme with the others: then
no issuer of a tenant is a URL (`isServerUrl_issuerFor_append_iff`).

Issuers separate tenants whatever the configuration is: they are the same for the root tenants, and for nobody else
(`issuerFor_eq_iff`).
-/

namespace SecurityEvents

/-! ## URLs of servers -/

/-- What the URL of a server begins with, up to the slashes. -/
def serverProtocols : List String :=
  ["https:", "http:"]

/-- The text begins like the URL of a server. -/
def IsServerUrl (s : String) : Prop :=
  ∃ protocol ∈ serverProtocols, ∃ rest, s = protocol ++ "//" ++ rest

/-- The text begins like the URL of a server, and goes on with something else than slashes. -/
def NamesServer (s : String) : Prop :=
  ∃ protocol ∈ serverProtocols, ∃ rest, s = protocol ++ "//" ++ rest ∧ ∃ c ∈ rest.toList, c ≠ '/'

theorem isServerUrl_eq_true_iff {s : String} : isServerUrl s = true ↔ IsServerUrl s := by
  have hprefix (start : String) : start.toList.isPrefixOf s.toList = true ↔ ∃ rest, s = start ++ rest := by
    rw [List.isPrefixOf_iff_prefix]
    constructor
    · rintro ⟨rest, hrest⟩
      refine ⟨String.ofList rest, ?_⟩
      rw [← String.toList_inj, String.toList_append, String.toList_ofList, hrest]
    · rintro ⟨rest, rfl⟩
      exact ⟨rest.toList, (String.toList_append ..).symm⟩
  rw [isServerUrl, Bool.or_eq_true, hprefix, hprefix]
  simp only [IsServerUrl, serverProtocols, List.mem_cons, List.not_mem_nil, or_false, exists_eq_or_imp, exists_eq_left]
  rfl

/-- What follows a protocol in the URL of a server begins with its slashes. -/
theorem exists_of_isServerUrl {protocol tail : String} (hprotocol : protocol ∈ serverProtocols)
    (h : IsServerUrl (protocol ++ tail)) : ∃ rest, tail = "//" ++ rest := by
  obtain ⟨other, hother, rest, heq⟩ := h
  refine ⟨rest, ?_⟩
  rw [← String.toList_inj, String.toList_append, String.toList_append, String.toList_append, List.append_assoc] at heq
  rw [← String.toList_inj, String.toList_append]
  simp only [serverProtocols, List.mem_cons, List.not_mem_nil, or_false] at hprotocol hother
  rcases hprotocol with rfl | rfl <;> rcases hother with rfl | rfl
  · exact List.append_cancel_left heq
  -- The one protocol goes on where the other has its colon.
  · simp at heq
  · simp at heq
  · exact List.append_cancel_left heq

namespace Configuration

variable {c : Configuration} {tenant other : Option String}

/-! ## The issuer without the slashes at its end -/

/-- An issuer that names a server keeps the slashes of its protocol. -/
theorem issuerBase_of_exists {protocol rest : String} (hissuer : c.setIssuer = protocol ++ "//" ++ rest)
    (hrest : ∃ ch ∈ rest.toList, ch ≠ '/') :
    c.issuerBase = protocol ++ "//" ++ String.ofList (Text.dropTrailingSlashes rest.toList) := by
  rw [← String.toList_inj, issuerBase, hissuer, String.toList_ofList, String.toList_append,
    Text.dropTrailingSlashes_append_of_exists hrest]
  simp only [String.toList_append, String.toList_ofList]

/-- An issuer that is nothing but a protocol and slashes loses them all. -/
theorem issuerBase_of_forall {protocol rest : String} (hprotocol : protocol ∈ serverProtocols)
    (hissuer : c.setIssuer = protocol ++ "//" ++ rest) (hrest : ∀ ch ∈ rest.toList, ch = '/') :
    c.issuerBase = protocol := by
  have hslashes : ∀ ch ∈ "//".toList ++ rest.toList, ch = '/' := by
    simpa using hrest
  rw [← String.toList_inj, issuerBase, hissuer, String.toList_ofList, String.toList_append, String.toList_append,
    List.append_assoc, Text.dropTrailingSlashes_append_slashes hslashes]
  simp only [serverProtocols, List.mem_cons, List.not_mem_nil, or_false] at hprotocol
  rcases hprotocol with rfl | rfl <;> decide

/-- All that is left of an issuer that does not name its server is the protocol. -/
theorem issuerBase_mem_serverProtocols (h : IsServerUrl c.setIssuer) (hnot : ¬ NamesServer c.setIssuer) :
    c.issuerBase ∈ serverProtocols := by
  obtain ⟨protocol, hprotocol, rest, hissuer⟩ := h
  have hrest : ∀ ch ∈ rest.toList, ch = '/' := fun ch hch =>
    Classical.byContradiction fun hne => hnot ⟨protocol, hprotocol, rest, hissuer, ch, hch, hne⟩
  rw [issuerBase_of_forall hprotocol hissuer hrest]
  exact hprotocol

/-- What is made of an accepted issuer is a URL if the issuer names a server, unless it brings slashes of its own. -/
theorem isServerUrl_issuerBase_append_iff (h : IsServerUrl c.setIssuer) {tail : String}
    (htail : ∀ rest, tail ≠ "//" ++ rest) : IsServerUrl (c.issuerBase ++ tail) ↔ NamesServer c.setIssuer := by
  constructor
  · intro hurl
    refine Classical.byContradiction fun hnot => ?_
    obtain ⟨rest, hrest⟩ := exists_of_isServerUrl (issuerBase_mem_serverProtocols h hnot) hurl
    exact htail rest hrest
  · rintro ⟨protocol, hprotocol, rest, hissuer, hrest⟩
    rw [issuerBase_of_exists hissuer hrest, String.append_assoc]
    exact ⟨protocol, hprotocol, _, rfl⟩

/-! ## Issuers of tenants -/

/-- The tenant is announced under the issuer itself: it is absent, nameless, or the super tenant. -/
def IsRoot (c : Configuration) (tenant : Option String) : Prop :=
  tenant = none ∨ tenant = some "" ∨ tenant = some c.superTenant

/-- The two are one tenant, as which all root tenants count. -/
def SameTenant (c : Configuration) (tenant other : Option String) : Prop :=
  tenant = other ∨ c.IsRoot tenant ∧ c.IsRoot other

/-- What the issuer of a tenant has behind the issuer of the root tenants. -/
inductive Path (c : Configuration) : Option String → String → Prop where
  | root {tenant : Option String} (h : c.IsRoot tenant) : c.Path tenant ""
  | named {name : String} (h : ¬ c.IsRoot (some name)) : c.Path (some name) ("/t/" ++ name)

theorem exists_path (c : Configuration) (tenant : Option String) :
    ∃ path, c.Path tenant path ∧ c.issuerFor tenant = c.issuerBase ++ path := by
  cases tenant with
  | none => exact ⟨"", .root (.inl rfl), String.append_empty.symm⟩
  | some name =>
    by_cases hname : name = "" ∨ name = c.superTenant
    · refine ⟨"", .root (.inr (hname.imp (congrArg some) (congrArg some))), ?_⟩
      rw [issuerFor, if_pos (by simpa using hname), String.append_empty]
    · refine ⟨"/t/" ++ name, .named fun hroot => hname ?_, ?_⟩
      · rcases hroot with hnone | hempty | hsuper
        · cases hnone
        · exact .inl (Option.some.inj hempty)
        · exact .inr (Option.some.inj hsuper)
      · rw [issuerFor, if_neg (by simpa using hname), String.append_assoc]

/-- Root tenants have no path, and the names of the others are told apart by what follows the path piece. -/
theorem Path.eq_iff {path path' : String} (h : c.Path tenant path) (h' : c.Path other path') :
    path = path' ↔ c.SameTenant tenant other := by
  have hpiece (name : String) : "" ≠ "/t/" ++ name := by
    rw [Ne, ← String.toList_inj]
    simp
  cases h with
  | root hroot =>
    cases h' with
    | root hother => exact iff_of_true rfl (.inr ⟨hroot, hother⟩)
    | named hother =>
      refine iff_of_false (hpiece _) fun hsame => ?_
      rcases hsame with rfl | ⟨_, h⟩
      · exact hother hroot
      · exact hother h
  | named hnamed =>
    cases h' with
    | root hother =>
      refine iff_of_false (hpiece _).symm fun hsame => ?_
      rcases hsame with rfl | ⟨h, _⟩
      · exact hnamed hother
      · exact hnamed h
    | named hother =>
      rw [String.append_right_inj]
      refine ⟨fun heq => .inl (congrArg some heq), fun hsame => ?_⟩
      rcases hsame with heq | ⟨h, _⟩
      · exact Option.some.inj heq
      · exact (hnamed h).elim

theorem issuerFor_eq_iff : c.issuerFor tenant = c.issuerFor other ↔ c.SameTenant tenant other := by
  obtain ⟨path, hpath, htenant⟩ := c.exists_path tenant
  obtain ⟨path', hpath', hother⟩ := c.exists_path other
  rw [htenant, hother, String.append_right_inj]
  exact hpath.eq_iff hpath'

/-- An issuer of a tenant is a URL if the issuer in the configuration names a server, and so is what goes on from there
with a path. -/
theorem isServerUrl_issuerFor_append_iff (h : IsServerUrl c.setIssuer) (tenant : Option String) {tail : String}
    (htail : ∀ rest, tail ≠ "//" ++ rest) : IsServerUrl (c.issuerFor tenant ++ tail) ↔ NamesServer c.setIssuer := by
  obtain ⟨path, hpath, htenant⟩ := c.exists_path tenant
  rw [htenant, String.append_assoc]
  apply isServerUrl_issuerBase_append_iff h
  cases hpath with
  | root => exact fun rest hrest => htail rest (String.empty_append.symm.trans hrest)
  | named =>
    intro rest hrest
    rw [← String.toList_inj] at hrest
    simp at hrest

theorem isServerUrl_issuerFor_iff (h : IsServerUrl c.setIssuer) (tenant : Option String) :
    IsServerUrl (c.issuerFor tenant) ↔ NamesServer c.setIssuer := by
  have hempty (rest : String) : "" ≠ "//" ++ rest := by
    rw [Ne, ← String.toList_inj]
    simp
  have happend := isServerUrl_issuerFor_append_iff h tenant hempty
  rwa [String.append_empty] at happend

/-- Slashes at the end of the issuer make no difference to anybody. -/
theorem issuerFor_append_slashes (c : Configuration) (n : Nat) (tenant : Option String) :
    { c with setIssuer := c.setIssuer ++ String.ofList (List.replicate n '/') }.issuerFor tenant
      = c.issuerFor tenant := by
  have hbase : { c with setIssuer := c.setIssuer ++ String.ofList (List.replicate n '/') }.issuerBase
      = c.issuerBase := by
    simp only [issuerBase, String.toList_append, String.toList_ofList]
    rw [Text.dropTrailingSlashes_append_slashes fun _ hch => List.eq_of_mem_replicate hch]
  simp only [issuerFor, hbase]

/-! ## Accepted configurations -/

/-- The configuration was built, from settings or from variables. -/
def Accepted (c : Configuration) : Prop :=
  (∃ settings : Settings, settings.build = .ok c) ∨ ∃ value?, Configuration.ofVariables value? = .ok c

/-- Variables are read as settings, which are built. -/
theorem Accepted.exists_settings (h : c.Accepted) : ∃ settings : Settings, settings.build = .ok c := by
  rcases h with hbuilt | ⟨value?, hread⟩
  · exact hbuilt
  · obtain ⟨settings, _, hbuilt⟩ := exists_of_bind_eq_ok hread
    exact ⟨settings, hbuilt⟩

theorem Accepted.isServerUrl (h : c.Accepted) : IsServerUrl c.setIssuer := by
  obtain ⟨settings, hbuilt⟩ := h.exists_settings
  unfold Settings.build at hbuilt
  dsimp only at hbuilt
  split at hbuilt
  · rename_i hurl
    split at hbuilt
    · cases hbuilt
    · cases hbuilt
      exact isServerUrl_eq_true_iff.1 hurl
  · cases hbuilt

end Configuration

end SecurityEvents
