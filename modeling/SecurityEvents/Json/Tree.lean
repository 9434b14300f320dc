import SecurityEvents.Json.Basic
import SecurityEvents.Text.Utf8
set_option autoImplicit false

/-!
# JSON texts before they are values

A `Tree` is a well-formed JSON text with its layout gone and nothing refused: a number may be out of range, a
string may have places without a character, an object may name a member twice. A part of a document that
nobody asks for stays in this form, so only its form is checked.

`Tree.value?` turns a tree into a value. A budget bounds how many arrays and objects may stand inside one
another; `textBudget` is the budget of a whole text.
-/

namespace SecurityEvents.Json

/-- A well-formed JSON text. -/
inductive Tree where
  | null
  | bool (b : Bool)
  /-- A number, or nothing where the spelling is out of range. -/
  | number (n : Option Number)
  | string (places : List (Option Char))
  | array (items : List Tree)
  | object (members : List (List (Option Char) × Tree))
  deriving Inhabited

/-- How many arrays and objects may stand inside one another in a text. -/
def textBudget : Nat := 127

namespace Tree

mutual

/-- The value of a tree. Nothing when a number is out of range, a string is incomplete, or the nesting
exceeds the budget. -/
def value? (budget : Nat) : Tree → Option Json
  | .null => some .null
  | .bool b => some (.bool b)
  | .number n => n.map Json.number
  | .string places => (Text.whole? places).map Json.string
  | .array items =>
    match budget with
    | 0 => none
    | budget + 1 => (itemValues? budget items).map Json.array
  | .object members =>
    match budget with
    | 0 => none
    | budget + 1 => (memberValues? budget [] members).map Json.object

/-- The values of the items of an array. -/
def itemValues? (budget : Nat) : List Tree → Option (List Json)
  | [] => some []
  | t :: rest =>
    match t.value? budget with
    | none => none
    | some v => (itemValues? budget rest).map (v :: ·)

/-- The members of an object, put one after the other to those that were read before. -/
def memberValues? (budget : Nat) (before : List (String × Json)) :
    List (List (Option Char) × Tree) → Option (List (String × Json))
  | [] => some before
  | (k, t) :: rest =>
    match Text.whole? k, t.value? budget with
    | some name, some v => memberValues? budget (putMember name v before) rest
    | _, _ => none

end

mutual

/-- The value of a tree is keyed. -/
theorem isKeyed_of_value? {budget : Nat} : {t : Tree} → {v : Json} → t.value? budget = some v →
    v.isKeyed = true
  | .null, v, h => by
    simp only [value?, Option.some.injEq] at h
    simp [← h, Json.isKeyed]
  | .bool b, v, h => by
    simp only [value?, Option.some.injEq] at h
    simp [← h, Json.isKeyed]
  | .number l, v, h => by
    obtain ⟨n, -, rfl⟩ := Option.map_eq_some_iff.1 h
    simp [Json.isKeyed]
  | .string s, v, h => by
    obtain ⟨n, -, rfl⟩ := Option.map_eq_some_iff.1 h
    simp [Json.isKeyed]
  | .array items, v, h => by
    cases budget with
    | zero => simp [value?] at h
    | succ budget =>
      obtain ⟨vs, hvs, rfl⟩ := Option.map_eq_some_iff.1 h
      simpa [Json.isKeyed] using itemsKeyed_of_itemValues? hvs
  | .object members, v, h => by
    cases budget with
    | zero => simp [value?] at h
    | succ budget =>
      obtain ⟨ms, hms, rfl⟩ := Option.map_eq_some_iff.1 h
      simpa [Json.isKeyed] using membersKeyed_of_memberValues? (by simp [Json.membersKeyed]) hms

/-- The values of the items of an array are keyed. -/
theorem itemsKeyed_of_itemValues? {budget : Nat} : {ts : List Tree} → {vs : List Json} →
    itemValues? budget ts = some vs → Json.itemsKeyed vs = true
  | [], vs, h => by
    simp only [itemValues?, Option.some.injEq] at h
    simp [← h, Json.itemsKeyed]
  | t :: rest, vs, h => by
    simp only [itemValues?] at h
    split at h
    · simp at h
    · rename_i v hv
      obtain ⟨ws, hws, rfl⟩ := Option.map_eq_some_iff.1 h
      simp [Json.itemsKeyed, isKeyed_of_value? hv, itemsKeyed_of_itemValues? hws]

/-- The members of an object are keyed. -/
theorem membersKeyed_of_memberValues? {budget : Nat} : {ts : List (List (Option Char) × Tree)} →
    {before ms : List (String × Json)} → Json.membersKeyed before = true →
    memberValues? budget before ts = some ms → Json.membersKeyed ms = true
  | [], before, ms, hb, h => by
    simp only [memberValues?, Option.some.injEq] at h
    exact h ▸ hb
  | (k, t) :: rest, before, ms, hb, h => by
    simp only [memberValues?] at h
    split at h
    · rename_i name v hk hv
      exact membersKeyed_of_memberValues? (Json.membersKeyed_putMember (isKeyed_of_value? hv) hb) h
    · simp at h

end

mutual

/-- How many arrays and objects stand inside one another, at most. -/
def nesting : Tree → Nat
  | .array items => itemsNesting items + 1
  | .object members => membersNesting members + 1
  | _ => 0

/-- The greatest nesting among the items of a list. -/
def itemsNesting : List Tree → Nat
  | [] => 0
  | t :: rest => max t.nesting (itemsNesting rest)

/-- The greatest nesting among the members of a list. -/
def membersNesting : List (List (Option Char) × Tree) → Nat
  | [] => 0
  | (_, t) :: rest => max t.nesting (membersNesting rest)

end

end Tree

mutual

/-- A value as a tree. -/
def tree : Json → Tree
  | .null => .null
  | .bool b => .bool b
  | .number n => .number (some n)
  | .string s => .string (Text.placesOf s)
  | .array items => .array (itemTrees items)
  | .object members => .object (memberTrees members)

/-- The trees of the items of an array. -/
def itemTrees : List Json → List Tree
  | [] => []
  | v :: rest => v.tree :: itemTrees rest

/-- The trees of the members of an object. -/
def memberTrees : List (String × Json) → List (List (Option Char) × Tree)
  | [] => []
  | (k, v) :: rest => (Text.placesOf k, v.tree) :: memberTrees rest

end

end SecurityEvents.Json
