import SecurityEvents.Proofs.Extraction
import SecurityEvents.Proofs.Json.RoundTrip
import SecurityEvents.Proofs.Text.Uppercase
set_option autoImplicit false

/-!
# Blank identifiers

A parameter that is blank says nothing, but what the authentication context says is taken as it stands, and a qualified
name is cut into pieces that are not looked at again. So an identifier of an event can be blank, and
`EventData.BlanksTraced` tells for each of the five exactly when it is.
-/

namespace SecurityEvents

/-- There is a text, and every character of it is blank. -/
def IsBlank (o : Option String) : Prop :=
  ∃ s, o = some s ∧ ∀ c ∈ s.toList, Text.isBlank c = true

/-- What the parameter holds, if it is there at all, is nothing or blank. -/
inductive SaysNothing : Option Json → Prop where
  | missing : SaysNothing none
  | null : SaysNothing (some .null)
  | blank {s : String} (h : ∀ c ∈ s.toList, Text.isBlank c = true) : SaysNothing (some (.string s))

theorem not_isBlank_none : ¬ IsBlank none :=
  fun ⟨_, h, _⟩ => nomatch h

theorem isBlank_some_iff {s : String} : IsBlank (some s) ↔ ∀ c ∈ s.toList, Text.isBlank c = true := by
  simp only [IsBlank, Option.some.injEq, exists_eq_left']

/-! ## Scalars -/

/-- The text of a number begins with its sign or with a digit. -/
theorem not_isBlank_number (n : Json.Number) : ¬ IsBlank (some (Json.number n).text) := by
  have hdigit : ∀ d < 10, Text.isBlank (Decimal.digitChar d) = false := by decide
  obtain ⟨c, cs, hchars, hc⟩ := Json.Reader.exists_chars_number n
  have hvisible : Text.isBlank c = false := by
    rcases hc with rfl | ⟨d, hd, rfl⟩
    · decide
    · exact hdigit d hd
  rw [isBlank_some_iff, Json.text, String.toList_ofList, Json.chars, hchars]
  intro hblank
  exact Bool.false_ne_true (hvisible.symm.trans (hblank c List.mem_cons_self))

/-- A scalar is blank only if the parameter says nothing and what is taken in its place is blank. -/
theorem ScalarOr.isBlank_iff {otherwise said : Option String} {v : Option Json} (h : ScalarOr otherwise v said) :
    IsBlank said ↔ SaysNothing v ∧ IsBlank otherwise := by
  cases h with
  | missing => exact (and_iff_right .missing).symm
  | null => exact (and_iff_right .null).symm
  | blank hblank => exact (and_iff_right (.blank hblank)).symm
  | @text s hvisible =>
    obtain ⟨c, hc, hvisible⟩ := hvisible
    have hnot {p : Prop} (hblank : ∀ c ∈ s.toList, Text.isBlank c = true) : p :=
      (Bool.false_ne_true (hvisible.symm.trans (hblank c hc))).elim
    refine iff_of_false (fun hblank => hnot (isBlank_some_iff.1 hblank)) fun ⟨hnothing, _⟩ => ?_
    cases hnothing with
    | blank hblank => exact hnot hblank
  | number n => exact iff_of_false (not_isBlank_number n) fun ⟨hnothing, _⟩ => nomatch hnothing

/-! ## Names of users -/

theorem SplitsAs.unique {text store name store' name' : String} (h : SplitsAs text store name)
    (h' : SplitsAs text store' name') : store = store' ∧ name = name' := by
  have hsame := Option.some.inj ((splitsAs_iff.1 h).1.symm.trans (splitsAs_iff.1 h').1)
  exact ⟨String.toList_injective (congrArg Prod.fst hsame), String.toList_injective (congrArg Prod.snd hsame)⟩

/-- A slash is not blank. -/
theorem SplitsAs.not_isBlank {text store name : String} (h : SplitsAs text store name) : ¬ IsBlank (some text) := by
  rw [isBlank_some_iff, h.text_eq]
  intro hblank
  exact absurd (hblank '/' (by simp)) (by decide)

section Identifies

variable {qualified explicitStore name store : Option String}

/-- The name is blank if the text that it is taken from is, or if the text is split and nothing can be seen of what
stands behind the slash. -/
theorem Identifies.isBlank_name_iff (h : Identifies qualified explicitStore name store) :
    IsBlank name ↔ IsBlank qualified
      ∨ ∃ text front rest, qualified = some text ∧ SplitsAs text front rest ∧ IsBlank (some rest) := by
  cases h with
  | unnamed =>
    exact iff_of_false not_isBlank_none fun h => h.elim not_isBlank_none fun ⟨_, _, _, h, _⟩ => nomatch h
  | @split text front rest hsplit =>
    constructor
    · exact fun hblank => .inr ⟨text, front, rest, rfl, hsplit, hblank⟩
    · rintro (hblank | ⟨_, front', rest', htext, hsplit', hblank⟩)
      · exact (hsplit.not_isBlank hblank).elim
      · cases htext
        rwa [(hsplit.unique hsplit').2]
  | whole hwhole =>
    constructor
    · exact .inl
    · rintro (hblank | ⟨_, front, rest, htext, hsplit, _⟩)
      · exact hblank
      · cases htext
        exact (hwhole front rest hsplit).elim

/-- The user store is blank if an explicit store is, or if there is none and nothing can be seen of what stands in
front of the slash. -/
theorem Identifies.isBlank_store_iff (h : Identifies qualified explicitStore name store) :
    IsBlank store ↔ IsBlank explicitStore ∨ explicitStore = none
      ∧ ∃ text front rest, qualified = some text ∧ SplitsAs text front rest ∧ IsBlank (some front) := by
  cases h with
  | unnamed => exact ⟨.inl, fun h => h.elim id fun ⟨_, _, _, _, h, _⟩ => nomatch h⟩
  | @split text front rest hsplit =>
    cases explicitStore with
    | some explicit => exact ⟨.inl, fun h => h.elim id fun h => nomatch h.1⟩
    | none =>
      have hupper : IsBlank (some (Text.uppercase front)) ↔ IsBlank (some front) := by
        rw [isBlank_some_iff, Text.isBlank_uppercase_iff, isBlank_some_iff]
      refine hupper.trans ⟨fun hblank => .inr ⟨rfl, text, front, rest, rfl, hsplit, hblank⟩, ?_⟩
      rintro (hblank | ⟨-, _, front', rest', htext, hsplit', hblank⟩)
      · exact (not_isBlank_none hblank).elim
      · cases htext
        rwa [(hsplit.unique hsplit').1]
  | whole hwhole =>
    cases explicitStore with
    | some explicit => exact ⟨.inl, fun h => h.elim id fun h => nomatch h.1⟩
    | none =>
      refine iff_of_false (fun hblank => ?_) fun h => h.elim not_isBlank_none ?_
      · exact absurd (isBlank_some_iff.1 hblank 'P' (by decide)) (by decide)
      · rintro ⟨-, _, front, rest, htext, hsplit, _⟩
        cases htext
        exact hwhole front rest hsplit

end Identifies

/-! ## Events -/

namespace EventData

/-- Where blank identifiers of an event come from: from the authentication context, if the parameter says nothing, or
from a qualified name that has only blank characters on one side of its first slash. -/
structure BlanksTraced (e : Event) (d : EventData) : Prop where
  tenantDomain : IsBlank d.tenantDomain ↔ SaysNothing (e.parameters.get? ParameterName.tenantDomain)
    ∧ IsBlank (d.authentication.bind (·.tenantDomain))
  loginTenantDomain : IsBlank d.loginTenantDomain ↔ IsBlank (d.authentication.bind (·.loginTenantDomain))
    ∨ d.authentication.bind (·.loginTenantDomain) = none ∧ IsBlank d.tenantDomain
  userId : IsBlank d.userId ↔ SaysNothing (e.parameters.get? ParameterName.userId)
    ∧ IsBlank ((d.authentication.bind (·.authenticatedUser)).bind (·.userId))
  user : ∃ qualified explicitStore,
    ScalarOr ((d.authentication.bind (·.authenticatedUser)).bind (·.userName))
      (e.parameters.get? ParameterName.userName) qualified
    ∧ ScalarOr ((d.authentication.bind (·.authenticatedUser)).bind (·.userStoreDomain))
      (e.parameters.get? ParameterName.userStoreDomain) explicitStore
    ∧ (IsBlank d.userName ↔
      SaysNothing (e.parameters.get? ParameterName.userName)
        ∧ IsBlank ((d.authentication.bind (·.authenticatedUser)).bind (·.userName))
      ∨ ∃ text front rest, qualified = some text ∧ SplitsAs text front rest ∧ IsBlank (some rest))
    ∧ (IsBlank d.userStoreDomain ↔
      SaysNothing (e.parameters.get? ParameterName.userStoreDomain)
        ∧ IsBlank ((d.authentication.bind (·.authenticatedUser)).bind (·.userStoreDomain))
      ∨ explicitStore = none
        ∧ ∃ text front rest, qualified = some text ∧ SplitsAs text front rest ∧ IsBlank (some front))

theorem blanksTraced_of_extracted {e : Event} {d : EventData} (h : Extracted e d) : d.BlanksTraced e := by
  obtain ⟨qualified, explicitStore, hqualified, hexplicit, hidentifies⟩ := h.user
  refine ⟨h.tenantDomain.isBlank_iff, ?_, h.userId.isBlank_iff, qualified, explicitStore, hqualified, hexplicit,
    ?_, ?_⟩
  · unfold loginTenantDomain
    cases d.authentication.bind (·.loginTenantDomain) with
    | none => simp [not_isBlank_none]
    | some domain => simp
  · rw [hidentifies.isBlank_name_iff, hqualified.isBlank_iff]
  · rw [hidentifies.isBlank_store_iff, hexplicit.isBlank_iff]

end EventData

end SecurityEvents
