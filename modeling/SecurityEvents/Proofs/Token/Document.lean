import SecurityEvents.Proofs.Json.Record
import SecurityEvents.Proofs.Json.RoundTrip
import SecurityEvents.Token.Basic
set_option autoImplicit false

/-!
# Tokens are read back

The octets of a token are taken for the token again when it has one event, the payload is not nested too deeply
and its floats are the numbers of their spellings: `Token.ofOctets_toOctets`. Whatever the octets look like that a
token was read from, the token meets the first two of these: `Token.accepted_of_ofOctets`.
-/

namespace SecurityEvents

open Json

/-! ## Numbers and subjects -/

theorem Json.Number.toInt64?_ofInt64 (i : Int64) : Number.toInt64? (.ofInt64 i) = some i := by
  have hle := i.le_toInt
  have hlt := i.toInt_lt
  rw [Number.ofInt64]
  split
  · rename_i hnegative
    have hvalue : -((-i.toInt - 1).toNat : Int) - 1 = i.toInt := by omega
    change some (Int64.ofInt (-((-i.toInt - 1).toNat : Int) - 1)) = some i
    rw [hvalue, Int64.ofInt_toInt]
  · rename_i hnatural
    have hsmall : i.toInt.toNat < 0x8000000000000000 := by omega
    have hsize : i.toInt.toNat < UInt64.size := Nat.lt_trans hsmall (by decide)
    have hvalue : (i.toInt.toNat : Int) = i.toInt := by omega
    rw [Number.toInt64?, UInt64.toNat_ofNat_of_lt' hsize, if_pos hsmall, ← Int64.ofInt_eq_ofNat, hvalue,
      Int64.ofInt_toInt]

theorem SubjectId.reading_json (s : SubjectId) (budget : Nat) :
    SubjectId.reading (budget + 1) s.json.tree = some s := by
  obtain ⟨fs, -, hold, hrecord⟩ := exists_record_ofFields SubjectId.layout
    [("format", some (.string s.format)), ("id", some (.string s.id))] (by simp)
    (by simp [Knows, SubjectId.layout, Field.answersTo]) _ budget
  refine hrecord.trans ?_
  rw [hold.required_eq rfl (reading_text _ _), hold.required_eq rfl (reading_text _ _)]
  rfl

theorem SubjectId.plain_json (s : SubjectId) : Plain 1 s.json :=
  plain_ofFields (by simp [plain_string])

/-! ## Events -/

theorem insertEvent_eq_append {uri : String} {payload : Payload} {es : List (String × Payload)}
    (h : ∀ e ∈ es, e.1 < uri) : insertEvent uri payload es = es ++ [(uri, payload)] := by
  induction es with
  | nil => rfl
  | cons e rest ih =>
    obtain ⟨u, p⟩ := e
    obtain ⟨hu, hrest⟩ := List.forall_mem_cons.1 h
    rw [insertEvent, if_neg (String.lt_asymm hu), if_pos hu, ih hrest, List.cons_append]

namespace EventMap

theorem eq_of_entries_eq {m n : EventMap} (h : m.entries = n.entries) : m = n := by
  cases m
  cases n
  cases h
  rfl

/-- Events that are put in behind the others in ascending order stay in that order. -/
theorem entries_foldl_insert {es : List (String × Payload)} (hes : es.Pairwise (·.1 < ·.1)) (m : EventMap)
    (h : ∀ e ∈ m.entries, ∀ f ∈ es, e.1 < f.1) :
    (es.foldl (fun m (uri, payload) => m.insert uri payload) m).entries = m.entries ++ es := by
  induction es generalizing m with
  | nil => rw [List.foldl_nil, List.append_nil]
  | cons e rest ih =>
    obtain ⟨uri, payload⟩ := e
    obtain ⟨hfirst, hrest⟩ := List.pairwise_cons.1 hes
    have hput : (m.insert uri payload).entries = m.entries ++ [(uri, payload)] :=
      insertEvent_eq_append fun e he => h e he _ List.mem_cons_self
    rw [List.foldl_cons, ih hrest (m.insert uri payload) ?_, hput, List.append_assoc, List.singleton_append]
    intro e he f hf
    rw [hput] at he
    rcases List.mem_append.1 he with he | he
    · exact h e he f (List.mem_cons_of_mem _ hf)
    · rw [List.mem_singleton.1 he]
      exact hfirst f hf

theorem ofList_entries (m : EventMap) : ofList m.entries = m :=
  eq_of_entries_eq (entries_foldl_insert m.ascending empty fun _ he => (List.not_mem_nil he).elim)

theorem mem_foldl_insert {es : List (String × Payload)} {m : EventMap} {e : String × Payload}
    (h : e ∈ (es.foldl (fun m (uri, payload) => m.insert uri payload) m).entries) : e ∈ es ∨ e ∈ m.entries := by
  induction es generalizing m with
  | nil => exact .inr h
  | cons f rest ih =>
    rcases ih h with h | h
    · exact .inl (List.mem_cons_of_mem _ h)
    · rcases mem_insertEvent h with rfl | h
      · exact .inl List.mem_cons_self
      · exact .inr h

/-- The events of a list are among the list. -/
theorem mem_of_mem_ofList {es : List (String × Payload)} {e : String × Payload}
    (h : e ∈ (ofList es).entries) : e ∈ es :=
  (mem_foldl_insert h).resolve_right List.not_mem_nil

end EventMap

theorem Payload.keyed_json (p : Payload) {budget : Nat} (h : p.json.nesting ≤ budget) :
    Reading.keyed budget p.json.tree = some p := by
  have hvalue := value?_tree p.json budget p.property h
  rw [Reading.keyed]
  split
  · rename_i v hv
    cases hv.symm.trans hvalue
    rfl
  · rename_i hv
    cases hv.symm.trans hvalue

theorem Payload.nesting_le_of_keyed {t : Tree} {budget : Nat} {p : Payload}
    (h : Reading.keyed budget t = some p) : p.json.nesting ≤ budget := by
  rw [Reading.keyed] at h
  split at h
  · rename_i v hv
    cases h
    exact nesting_le_of_value? t budget hv
  · cases h

namespace EventMap

theorem members?_memberTrees {budget : Nat} {es : List (String × Payload)}
    (h : ∀ e ∈ es, e.2.json.nesting ≤ budget) :
    Reading.members? Reading.keyed budget (memberTrees (es.map fun (uri, payload) => (uri, payload.json)))
      = some es := by
  induction es with
  | nil => rfl
  | cons e rest ih =>
    obtain ⟨hfirst, hrest⟩ := List.forall_mem_cons.1 h
    change Reading.members? Reading.keyed budget ((Text.placesOf e.1, e.2.json.tree) :: memberTrees _) = _
    rw [Reading.members?, Text.whole?_placesOf, e.2.keyed_json hfirst]
    dsimp only
    rw [ih hrest]
    rfl

theorem reading_json (m : EventMap) {budget : Nat} (h : ∀ e ∈ m.entries, e.2.json.nesting ≤ budget) :
    EventMap.reading (budget + 1) m.json.tree = some m := by
  change (Reading.members? Reading.keyed budget (memberTrees _)).map ofList = some m
  rw [members?_memberTrees h, Option.map_some, ofList_entries]

theorem nesting_le_of_members? {budget : Nat} {ms : List (List (Option Char) × Tree)}
    {es : List (String × Payload)} (h : Reading.members? Reading.keyed budget ms = some es) :
    ∀ e ∈ es, e.2.json.nesting ≤ budget := by
  induction ms generalizing es with
  | nil =>
    cases h
    exact fun e he => (List.not_mem_nil he).elim
  | cons m rest ih =>
    rw [Reading.members?] at h
    split at h
    · rename_i name payload _ hpayload
      obtain ⟨later, hlater, rfl⟩ := Option.map_eq_some_iff.1 h
      exact List.forall_mem_cons.2 ⟨Payload.nesting_le_of_keyed hpayload, ih hlater⟩
    · cases h

/-- Events that are read take one unit of the budget, and their payloads have to do with what is left. -/
theorem nesting_lt_of_reading {budget : Nat} {t : Tree} {m : EventMap} (h : EventMap.reading budget t = some m) :
    ∀ e ∈ m.entries, e.2.json.nesting < budget := by
  intro e he
  obtain ⟨es, hes, rfl⟩ := Option.map_eq_some_iff.1 h
  unfold Reading.members at hes
  split at hes
  · exact Nat.lt_succ_of_le (nesting_le_of_members? hes e (mem_of_mem_ofList he))
  · cases hes

end EventMap

namespace Token

/-! ## From the document of a token -/

/-- A record of a token holds its fields, and what is read of them is the token. -/
theorem reading_json (t : Token) {budget : Nat} (h : ∀ e ∈ t.events.entries, e.2.json.nesting ≤ budget) :
    reading (budget + 2) t.json.tree = some t := by
  obtain ⟨fs, hbudget, hold, hrecord⟩ := exists_record_ofFields layout
    [("iss", some (.string t.issuer)), ("iat", some (.number (.ofInt64 t.issuedAt))),
      ("jti", some (.string t.id)), ("rci", t.correlationId.map Json.string),
      ("sub_id", t.subject.map SubjectId.json), ("events", some t.events.json)]
    (by simp) (by simp [Knows, layout, Field.answersTo]) _ (budget + 1)
  have hnumber : Reading.number Number.toInt64? fs.budget (Json.number (.ofInt64 t.issuedAt)).tree
      = some t.issuedAt := Number.toInt64?_ofInt64 t.issuedAt
  have hevents : EventMap.reading fs.budget t.events.json.tree = some t.events := by
    rw [hbudget]
    exact t.events.reading_json h
  have hcorrelation (s : String) : Json.string s ≠ .null ∧ Reading.text fs.budget (Json.string s).tree = some s :=
    ⟨(nomatch ·), reading_text _ s⟩
  have hsubject (s : SubjectId) : s.json ≠ .null ∧ SubjectId.reading fs.budget s.json.tree = some s := by
    rw [hbudget]
    exact ⟨(nomatch ·), s.reading_json budget⟩
  refine hrecord.trans ?_
  rw [hold.required_eq rfl (reading_text _ _), hold.required_eq rfl hnumber,
    hold.required_eq rfl (reading_text _ _), hold.optional_eq rfl fun s _ => hcorrelation s,
    hold.optional_eq rfl fun s _ => hsubject s, hold.required_eq rfl hevents]
  rfl

theorem legible_json {t : Token} (h : ∀ e ∈ t.events.entries, Legible e.2.json.floats) :
    Legible t.json.floats := by
  have hstring (s : String) : Plain 0 (.string s) := plain_string s
  have hnumber : Plain 0 (.number (.ofInt64 t.issuedAt)) := plain_ofInt64 t.issuedAt
  have hevents : Legible t.events.json.floats := by
    intro x hx
    obtain ⟨m, hm, hx⟩ := mem_floats_object.1 hx
    obtain ⟨e, he, rfl⟩ := List.mem_map.1 hm
    exact h e he x hx
  apply legible_ofFields
  simp only [List.forall_mem_cons, Option.mem_some_iff, forall_eq']
  exact ⟨(hstring _).legible, hnumber.legible, (hstring _).legible,
    fun _ hv => (plain_of_mem_map hstring hv).legible,
    fun _ hv => (plain_of_mem_map SubjectId.plain_json hv).legible, hevents,
    fun _ hf => (List.not_mem_nil hf).elim⟩

/-- The octets of a token are taken for the token, or refused for the number of its events. -/
theorem ofOctets_toOctets {t : Token} (hnesting : ∀ e ∈ t.events.entries, e.2.json.nesting ≤ 125)
    (hlegible : ∀ e ∈ t.events.entries, Legible e.2.json.floats) :
    ofOctets t.toOctets
      = if t.events.size = 1 then .ok t else .error (.eventCount t.events.size) := by
  have hread : reading.ofPlaces (Text.places t.toOctets) = some t := by
    rw [toOctets, Text.places_toUTF8, placesOf_text, Reading.ofPlaces, Tree.read?_chars (legible_json hlegible),
      Option.bind_some]
    exact t.reading_json hnesting
  rw [ofOctets, hread]

/-! ## From any document -/

/-- A token that is read takes two units of the budget. -/
theorem nesting_le_of_reading {budget : Nat} {tree : Tree} {t : Token} (h : reading budget tree = some t) :
    ∀ e ∈ t.events.entries, e.2.json.nesting + 2 ≤ budget := by
  intro e he
  obtain ⟨fs, hbudget, hbuild⟩ := exists_of_record_eq_some h
  obtain ⟨issuer, -, hbuild⟩ := Option.bind_eq_some_iff.1 hbuild
  obtain ⟨issuedAt, -, hbuild⟩ := Option.bind_eq_some_iff.1 hbuild
  obtain ⟨id, -, hbuild⟩ := Option.bind_eq_some_iff.1 hbuild
  obtain ⟨correlationId, -, hbuild⟩ := Option.bind_eq_some_iff.1 hbuild
  obtain ⟨subject, -, hbuild⟩ := Option.bind_eq_some_iff.1 hbuild
  obtain ⟨events, hevents, hbuild⟩ := Option.bind_eq_some_iff.1 hbuild
  cases hbuild
  obtain ⟨tree, hread⟩ := Fields.exists_of_required_eq_some hevents
  have hlt := EventMap.nesting_lt_of_reading hread e he
  omega

theorem accepted_of_ofOctets {octets : ByteArray} {t : Token} (h : ofOctets octets = .ok t) :
    t.events.size = 1 ∧ ∀ e ∈ t.events.entries, e.2.json.nesting ≤ 125 := by
  rw [ofOctets] at h
  split at h
  · cases h
  · rename_i t' hread
    split at h
    · rename_i hsize
      cases h
      obtain ⟨tree, -, hread⟩ := Option.bind_eq_some_iff.1 hread
      exact ⟨hsize, fun e he => Nat.le_of_add_le_add_right (nesting_le_of_reading hread e he)⟩
    · cases h

/-! ## The only event -/

theorem exists_single {t : Token} (h : t.events.size = 1) :
    ∃ uri payload, t.events.entries = [(uri, payload)] ∧ t.eventUri? = some uri ∧ t.payload? = some payload := by
  obtain ⟨⟨uri, payload⟩, hentries⟩ := List.length_eq_one_iff.1 h
  have hfirst : t.events.first? = some (uri, payload) := congrArg List.head? hentries
  exact ⟨uri, payload, hentries, by rw [eventUri?, hfirst]; rfl, by rw [payload?, hfirst]; rfl⟩

end Token

end SecurityEvents
