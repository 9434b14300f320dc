import SecurityEvents.Json.Number
set_option autoImplicit false

/-!
# JSON values

Objects keep their members in order. In the objects of a *keyed* value no name stands twice; every value
that is read from a text is keyed, because a repeated name keeps its first place and takes its last value.
-/

namespace SecurityEvents

/-- A JSON value; the members of an object are in order. -/
inductive Json where
  | null
  | bool (b : Bool)
  | number (n : Json.Number)
  | string (s : String)
  | array (items : List Json)
  | object (members : List (String × Json))
  deriving Inhabited

namespace Json

/-! ## Equality -/

mutual

/-- Equality of values can be decided. -/
def decEq : (a b : Json) → Decidable (a = b)
  | .null, .null => isTrue rfl
  | .bool a, .bool b => if h : a = b then isTrue (h ▸ rfl) else isFalse fun e => h (by injection e)
  | .number a, .number b =>
    if h : a = b then isTrue (h ▸ rfl) else isFalse fun e => h (by injection e)
  | .string a, .string b =>
    if h : a = b then isTrue (h ▸ rfl) else isFalse fun e => h (by injection e)
  | .array a, .array b =>
    match decEqItems a b with
    | isTrue h => isTrue (h ▸ rfl)
    | isFalse h => isFalse fun e => h (by injection e)
  | .object a, .object b =>
    match decEqMembers a b with
    | isTrue h => isTrue (h ▸ rfl)
    | isFalse h => isFalse fun e => h (by injection e)
  | .null, .bool _ | .null, .number _ | .null, .string _ | .null, .array _ | .null, .object _
  | .bool _, .null | .bool _, .number _ | .bool _, .string _ | .bool _, .array _ | .bool _, .object _
  | .number _, .null | .number _, .bool _ | .number _, .string _ | .number _, .array _
  | .number _, .object _
  | .string _, .null | .string _, .bool _ | .string _, .number _ | .string _, .array _
  | .string _, .object _
  | .array _, .null | .array _, .bool _ | .array _, .number _ | .array _, .string _
  | .array _, .object _
  | .object _, .null | .object _, .bool _ | .object _, .number _ | .object _, .string _
  | .object _, .array _ => isFalse (by intro h; cases h)

/-- Equality of lists of values can be decided. -/
def decEqItems : (a b : List Json) → Decidable (a = b)
  | [], [] => isTrue rfl
  | x :: xs, y :: ys =>
    match decEq x y, decEqItems xs ys with
    | isTrue h, isTrue t => isTrue (by rw [h, t])
    | isFalse h, _ => isFalse fun e => h (by injection e)
    | _, isFalse t => isFalse fun e => t (by injection e)
  | [], _ :: _ | _ :: _, [] => isFalse (by intro h; cases h)

/-- Equality of lists of members can be decided. -/
def decEqMembers : (a b : List (String × Json)) → Decidable (a = b)
  | [], [] => isTrue rfl
  | (k, x) :: xs, (l, y) :: ys =>
    if hk : k = l then
      match decEq x y, decEqMembers xs ys with
      | isTrue h, isTrue t => isTrue (by rw [hk, h, t])
      | isFalse h, _ => isFalse fun e => h (by injection e with e; injection e)
      | _, isFalse t => isFalse fun e => t (by injection e)
    else isFalse fun e => hk (by injection e with e; injection e)
  | [], _ :: _ | _ :: _, [] => isFalse (by intro h; cases h)

end

instance : DecidableEq Json := decEq

/-! ## Members -/

/-- The members with one put in: a name that is there keeps its place and takes the new value. -/
def putMember (name : String) (value : Json) : List (String × Json) → List (String × Json)
  | [] => [(name, value)]
  | (k, v) :: rest => if k = name then (k, value) :: rest else (k, v) :: putMember name value rest

/-- The member of this name, of a value that is an object. -/
def member? (name : String) : Json → Option Json
  | .object members => members.lookup name
  | _ => none

/-- The text of a string value. -/
def text? : Json → Option String
  | .string s => some s
  | _ => none

/-- Whether a name is among those of the members. -/
def hasMember (name : String) (members : List (String × Json)) : Bool :=
  members.any (·.1 == name)

/-! ## Keyed values -/

mutual

/-- No object in the value names a member twice. -/
def isKeyed : Json → Bool
  | .array items => itemsKeyed items
  | .object members => membersKeyed members
  | _ => true

/-- Every value of the list is keyed. -/
def itemsKeyed : List Json → Bool
  | [] => true
  | v :: rest => v.isKeyed && itemsKeyed rest

/-- The names differ and every member's value is keyed. -/
def membersKeyed : List (String × Json) → Bool
  | [] => true
  | (k, v) :: rest => !hasMember k rest && v.isKeyed && membersKeyed rest

end

theorem hasMember_putMember (name other : String) (value : Json) (members : List (String × Json)) :
    hasMember other (putMember name value members) = (name == other || hasMember other members) := by
  induction members with
  | nil => simp [putMember, hasMember]
  | cons m rest ih =>
    obtain ⟨k, v⟩ := m
    simp only [hasMember] at ih
    by_cases hk : k = name
    · subst hk
      simp [putMember, hasMember]
    · simp [putMember, hk, hasMember, ih, Bool.or_left_comm]

/-- A member put in leaves the members keyed. -/
theorem membersKeyed_putMember {name : String} {value : Json} {members : List (String × Json)}
    (hv : value.isKeyed = true) (hm : membersKeyed members = true) :
    membersKeyed (putMember name value members) = true := by
  induction members with
  | nil => simp [putMember, membersKeyed, hasMember, hv]
  | cons m rest ih =>
    obtain ⟨k, v⟩ := m
    simp only [membersKeyed, Bool.and_eq_true, Bool.not_eq_true'] at hm
    obtain ⟨⟨hk, hkv⟩, hrest⟩ := hm
    by_cases h : k = name
    · simp [putMember, h, membersKeyed, h ▸ hk, hv, hrest]
    · simp [putMember, h, membersKeyed, hasMember_putMember, hk, hkv, ih hrest, Ne.symm h]

/-- A value that is keyed. -/
abbrev Keyed := { v : Json // v.isKeyed = true }

/-! ## Nesting -/

mutual

/-- How many arrays and objects stand inside one another, at most. -/
def nesting : Json → Nat
  | .array items => itemsNesting items + 1
  | .object members => membersNesting members + 1
  | _ => 0

/-- The greatest nesting among the values of a list. -/
def itemsNesting : List Json → Nat
  | [] => 0
  | v :: rest => max v.nesting (itemsNesting rest)

/-- The greatest nesting among the values of the members. -/
def membersNesting : List (String × Json) → Nat
  | [] => 0
  | (_, v) :: rest => max v.nesting (membersNesting rest)

end

end Json

end SecurityEvents
