import Mathlib.Data.List.Forall2
import SecurityEvents.EventData
import SecurityEvents.Proofs.Condition
set_option autoImplicit false

/-!
# Claims and lists in parameters

A parameter can hold claims, or a list of strings. What is asked of it is told entry by entry
(`Parameters.claimsConditions`, `Parameters.stringsCondition`), and each entry of an object that is not null makes one
claim (`MakesClaim`), in the order of the object.
-/

namespace SecurityEvents

/-! ## Values of claims -/

/-- The value is an object, whatever it holds. -/
def Json.IsObject (v : Json) : Prop :=
  ∃ members, v = .object members

/-- An item of a list as it stands in a claim: a string as it is, anything else as JSON text. -/
inductive ItemText : Json → String → Prop where
  | string (s : String) : ItemText (.string s) s
  | other {v : Json} (h : ∀ s, v ≠ .string s) : ItemText v v.text

/-- What a value says as a claim. Null and objects say nothing. -/
inductive ClaimText : Json → String → Prop where
  | string (s : String) : ClaimText (.string s) s
  | number (n : Json.Number) : ClaimText (.number n) (Json.number n).text
  | bool (b : Bool) : ClaimText (.bool b) (Json.bool b).text
  | array {items : List Json} {texts : List String} (h : List.Forall₂ ItemText items texts) :
    ClaimText (.array items) (",".intercalate texts)

/-- The claim is what the entry of an object says. -/
structure MakesClaim (entry : String × Json) (claim : String × String) : Prop where
  uri_eq : claim.1 = entry.1
  text : ClaimText entry.2 claim.2

theorem itemText_iff {v : Json} {text : String} : ItemText v text ↔ v.text?.getD v.text = text := by
  constructor
  · intro h
    cases h with
    | string => rfl
    | other h =>
      cases v with
      | string s => exact (h s rfl).elim
      | _ => rfl
  · rintro rfl
    cases v with
    | string s => exact .string s
    | _ => exact .other nofun

theorem forall₂_itemText_iff {items : List Json} {texts : List String} :
    List.Forall₂ ItemText items texts ↔ items.map (fun v => v.text?.getD v.text) = texts := by
  have hitem : ItemText = fun v text => v.text?.getD v.text = text := by
    ext v text
    exact itemText_iff
  rw [hitem, ← List.forall₂_map_left_iff (R := Eq), List.forall₂_eq_eq_eq]

theorem EventData.claimValue_eq_some_iff {v : Json} {text : String} :
    claimValue v = .ok (some text) ↔ ClaimText v text := by
  constructor
  · intro h
    cases v with
    | null | object => cases h
    | bool b =>
      cases h
      exact .bool b
    | number n =>
      cases h
      exact .number n
    | string s =>
      cases h
      exact .string _
    | array items =>
      cases h
      exact .array (forall₂_itemText_iff.2 rfl)
  · intro h
    cases h with
    | array h => rw [← forall₂_itemText_iff.1 h, claimValue]
    | _ => rfl

theorem EventData.claimValue_cases (v : Json) :
    v = .null ∧ claimValue v = .ok none
    ∨ v.IsObject ∧ claimValue v = .error ()
    ∨ v ≠ .null ∧ ¬ v.IsObject ∧ ∃ text, claimValue v = .ok (some text) := by
  cases v with
  | null => exact .inl ⟨rfl, rfl⟩
  | object members => exact .inr (.inl ⟨⟨members, rfl⟩, rfl⟩)
  | _ => exact .inr (.inr ⟨nofun, nofun, _, rfl⟩)

/-! ## Entries -/

/-- The entry of a parameter can make a claim. -/
def entryCondition (parameter : String) (entry : String × Json) : Condition EncodeError where
  Met := ¬ entry.2.IsObject
  Tells cause :=
    cause = .invalidField (parameter ++ "." ++ entry.1) "nested objects are not claim values"

namespace EventData

theorem restsOn_claimsOf (parameter : String) (entries : List (String × Json)) :
    RestsOn (claimsOf parameter entries) (entries.map (entryCondition parameter)) := by
  induction entries with
  | nil => exact restsOn_ok []
  | cons entry rest ih =>
    obtain ⟨uri, v⟩ := entry
    obtain ⟨rfl, hvalue⟩ | ⟨hobject, hvalue⟩ | ⟨_, hobject, text, hvalue⟩ := claimValue_cases v
    · rw [claimsOf, hvalue]
      exact ih.of_met nofun
    · rw [claimsOf, hvalue]
      exact restsOn_error (fun hmet => hmet hobject) fun _ => Iff.rfl
    · rw [claimsOf, hvalue]
      exact (ih.map _).of_met hobject

/-- Every entry that is not null makes a claim, and nothing else does. -/
theorem claimsOf_eq_ok_iff {parameter : String} {entries : List (String × Json)} {claims : List (String × String)} :
    claimsOf parameter entries = .ok claims
      ↔ List.Forall₂ MakesClaim (entries.filter (·.2 ≠ .null)) claims := by
  induction entries generalizing claims with
  | nil =>
    rw [claimsOf, Except.ok.injEq, List.filter_nil, List.forall₂_nil_left_iff, eq_comm]
  | cons entry rest ih =>
    obtain ⟨uri, v⟩ := entry
    obtain ⟨rfl, hvalue⟩ | ⟨⟨members, rfl⟩, hvalue⟩ | ⟨hnull, hobject, text, hvalue⟩ := claimValue_cases v
    · rw [claimsOf, hvalue, List.filter_cons_of_neg (by simp)]
      exact ih
    · rw [claimsOf, hvalue, List.filter_cons_of_pos (by simp), List.forall₂_cons_left_iff]
      exact iff_of_false (fun h => nomatch h) fun ⟨_, _, hmakes, _⟩ => nomatch hmakes.text
    · rw [claimsOf, hvalue, List.filter_cons_of_pos (by simpa using hnull), List.forall₂_cons_left_iff]
      constructor
      · intro h
        cases hrest : claimsOf parameter rest with
        | error cause =>
          rw [hrest] at h
          cases h
        | ok others =>
          rw [hrest] at h
          cases h
          exact ⟨(uri, text), others, ⟨rfl, claimValue_eq_some_iff.1 hvalue⟩, ih.1 hrest, rfl⟩
      · rintro ⟨⟨claimed, said⟩, others, ⟨huri, hsaid⟩, hothers, rfl⟩
        dsimp only at huri hsaid
        subst huri
        rw [← claimValue_eq_some_iff, hvalue] at hsaid
        cases hsaid
        rw [ih.2 hothers]
        rfl

end EventData

/-! ## Parameters -/

namespace Parameters

/-- The entries of the parameter, if it is an object. -/
def entries (ps : Parameters) (parameter : String) : List (String × Json) :=
  match ps.get? parameter with
  | some (.object members) => members
  | _ => []

/-- What is asked of a parameter with claims: it is an object if it is there, and then its entries can make claims. -/
def claimsConditions (ps : Parameters) (parameter : String) : List (Condition EncodeError) :=
  { Met := ∀ v, ps.get? parameter = some v → v = .null ∨ v.IsObject
    Tells := fun cause => cause = .invalidField parameter "expected an object of claims" }
  :: (ps.entries parameter).map (entryCondition parameter)

/-- What is asked of a parameter with a list: it is a list of strings if it is there. -/
def stringsCondition (ps : Parameters) (parameter : String) : Condition EncodeError where
  Met := ∀ v, ps.get? parameter = some v → v = .null ∨ ∃ ss : List String, v = .array (ss.map .string)
  Tells cause := cause = .invalidField parameter "expected a list of strings"

end Parameters

theorem Json.keyed_of_lookup {members : List (String × Json)} {name : String} {v : Json}
    (hkeyed : Json.membersKeyed members = true) (h : members.lookup name = some v) : v.isKeyed = true := by
  induction members with
  | nil => cases h
  | cons m rest ih =>
    obtain ⟨k, w⟩ := m
    simp only [Json.membersKeyed, Bool.and_eq_true] at hkeyed
    rw [List.lookup_cons] at h
    split at h
    · cases h
      exact hkeyed.1.2
    · exact ih hkeyed.2 h

theorem Json.nodup_of_membersKeyed {members : List (String × Json)} (hkeyed : Json.membersKeyed members = true) :
    (members.map (·.1)).Nodup := by
  induction members with
  | nil => exact List.nodup_nil
  | cons m rest ih =>
    obtain ⟨k, v⟩ := m
    simp only [Json.membersKeyed, Bool.and_eq_true, Bool.not_eq_true'] at hkeyed
    refine List.nodup_cons.2 ⟨fun hk => ?_, ih hkeyed.2⟩
    obtain ⟨m, hm, rfl⟩ := List.mem_map.1 hk
    have hfirst := hkeyed.1.1
    rw [Json.hasMember, List.any_eq_false] at hfirst
    exact hfirst m hm (beq_self_eq_true m.1)

theorem Parameters.nodup_entries (ps : Parameters) (parameter : String) :
    ((ps.entries parameter).map (·.1)).Nodup := by
  unfold Parameters.entries
  split
  · rename_i members hv
    have hkeyed : (Json.object members).isKeyed = true := Json.keyed_of_lookup ps.keyed hv
    rw [Json.isKeyed] at hkeyed
    exact Json.nodup_of_membersKeyed hkeyed
  · exact List.nodup_nil

theorem uris_of_makesClaim {entries : List (String × Json)} {claims : List (String × String)}
    (h : List.Forall₂ MakesClaim entries claims) : claims.map (·.1) = entries.map (·.1) := by
  induction h with
  | nil => rfl
  | cons hmakes _ ih => rw [List.map_cons, List.map_cons, hmakes.uri_eq, ih]

namespace EventData

section Claims

variable (data : EventData) (parameter : String)

/-- The parameter has nothing to say, or is an object of entries, or anything else. -/
theorem claims_cases :
    (data.parameters.entries parameter = []
      ∧ (∀ v, data.parameters.get? parameter = some v → v = .null)
      ∧ data.claims parameter = .ok [])
    ∨ (∃ members, data.parameters.get? parameter = some (.object members)
      ∧ data.parameters.entries parameter = members
      ∧ data.claims parameter = claimsOf parameter members)
    ∨ ∃ v, data.parameters.get? parameter = some v ∧ v ≠ .null ∧ ¬ v.IsObject
      ∧ data.claims parameter = .error (.invalidField parameter "expected an object of claims") := by
  unfold Parameters.entries claims
  cases hv : data.parameters.get? parameter with
  | none => exact .inl ⟨rfl, nofun, rfl⟩
  | some v =>
    cases v with
    | null => exact .inl ⟨rfl, fun _ h => (Option.some.inj h).symm, rfl⟩
    | object members => exact .inr (.inl ⟨members, rfl, rfl, rfl⟩)
    | _ => exact .inr (.inr ⟨_, rfl, nofun, nofun, rfl⟩)

theorem restsOn_claims : RestsOn (data.claims parameter) (data.parameters.claimsConditions parameter) := by
  obtain ⟨hentries, hnull, hclaims⟩ | ⟨members, hv, hentries, hclaims⟩ | ⟨v, hv, hnull, hobject, hclaims⟩ :=
    data.claims_cases parameter
  · rw [hclaims, Parameters.claimsConditions, hentries]
    exact (restsOn_ok []).of_met fun v hv => .inl (hnull v hv)
  · rw [hclaims, Parameters.claimsConditions, hentries]
    refine (restsOn_claimsOf parameter members).of_met fun v hw => .inr ⟨members, ?_⟩
    exact Option.some.inj (hw.symm.trans hv)
  · rw [hclaims]
    exact restsOn_error (fun hmet => (hmet v hv).elim hnull hobject) fun _ => Iff.rfl

variable {data parameter} {claims : List (String × String)}

/-- There are claims if the parameter is missing, null, or an object without objects in it. -/
theorem exists_claims_iff :
    (∃ claims, data.claims parameter = .ok claims) ↔
      data.parameters.get? parameter = none ∨ data.parameters.get? parameter = some .null
      ∨ ∃ members, data.parameters.get? parameter = some (.object members) ∧ ∀ entry ∈ members, ¬ entry.2.IsObject := by
  rw [(data.restsOn_claims parameter).exists_ok_iff, Parameters.claimsConditions, List.forall_mem_cons,
    List.forall_mem_map]
  unfold Parameters.entries
  cases data.parameters.get? parameter with
  | none => simp
  | some v =>
    cases v with
    | object members => simp [entryCondition, Json.IsObject]
    | _ => simp [Json.IsObject]

theorem makesClaim_of_claims (h : data.claims parameter = .ok claims) :
    List.Forall₂ MakesClaim ((data.parameters.entries parameter).filter (·.2 ≠ .null)) claims := by
  obtain ⟨hentries, _, hclaims⟩ | ⟨members, _, hentries, hclaims⟩ | ⟨v, _, _, _, hclaims⟩ :=
    data.claims_cases parameter
  · rw [hclaims] at h
    cases h
    rw [hentries]
    exact .nil
  · rw [hentries]
    exact claimsOf_eq_ok_iff.1 (hclaims.symm.trans h)
  · cases hclaims.symm.trans h

/-- No two claims are about the same, because no two entries of an object are. -/
theorem nodup_uris_of_claims (h : data.claims parameter = .ok claims) : (claims.map (·.1)).Nodup := by
  rw [uris_of_makesClaim (makesClaim_of_claims h)]
  exact (data.parameters.nodup_entries parameter).sublist (List.filter_sublist.map _)

end Claims

/-! ## Lists of strings -/

theorem stringsOf?_eq_some_iff {items : List Json} {ss : List String} :
    stringsOf? items = some ss ↔ items = ss.map .string := by
  induction items generalizing ss with
  | nil => rw [stringsOf?, Option.some.injEq, eq_comm, eq_comm (a := []), List.map_eq_nil_iff]
  | cons v rest ih =>
    cases v with
    | string s => cases ss <;> simp [stringsOf?, ih, and_comm]
    | _ => cases ss <;> simp [stringsOf?]

theorem restsOn_strings (data : EventData) (parameter : String) :
    RestsOn (data.strings parameter) [data.parameters.stringsCondition parameter] := by
  unfold strings Parameters.stringsCondition
  cases hv : data.parameters.get? parameter with
  | none => exact restsOn_ok_iff.2 (List.forall_mem_singleton.2 nofun)
  | some v =>
    cases v with
    | null => exact restsOn_ok_iff.2 (List.forall_mem_singleton.2 fun _ h => .inl (Option.some.inj h).symm)
    | array items =>
      cases hstrings : stringsOf? items with
      | some ss =>
        simp only [hstrings]
        have hitems : items = ss.map .string := stringsOf?_eq_some_iff.1 hstrings
        exact restsOn_ok_iff.2 (List.forall_mem_singleton.2 fun _ h => .inr ⟨ss, hitems ▸ (Option.some.inj h).symm⟩)
      | none =>
        simp only [hstrings]
        refine restsOn_error (fun hmet => ?_) fun _ => Iff.rfl
        obtain h | ⟨ss, h⟩ := hmet _ rfl
        · cases h
        · cases (stringsOf?_eq_some_iff.2 (Json.array.inj h)).symm.trans hstrings
    | _ => exact restsOn_error (fun hmet => by simpa using hmet _ rfl) fun _ => Iff.rfl

end EventData

end SecurityEvents
