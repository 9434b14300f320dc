import SecurityEvents.Json.Tree
set_option autoImplicit false

/-!
# Reading JSON

The grammar is that of RFC 8259 with nothing added: no byte order mark, no comments, no trailing commas, no
characters after the value. Each reader takes the places that are left and gives what it read with the
places after it. A value is read on *fuel*: one unit for each value, item and member on the way down. A text
is never shorter than the way to its innermost value, so its length is always enough.
-/

namespace SecurityEvents.Json

namespace Reader

/-- The places that are left to read. -/
abbrev Input := List (Option Char)

/-- The four characters that may stand between the tokens. -/
def isGap (place : Option Char) : Bool :=
  match place with
  | some c => c == ' ' || c == '\n' || c == '\t' || c == '\r'
  | none => false

/-- The input without the blanks in front. -/
def skip (input : Input) : Input :=
  input.dropWhile isGap

/-! ## Strings -/

/-- A part of a string: a place as it stands, or the number in a `\u` escape. -/
inductive Piece where
  | place (c : Option Char)
  | unit (n : Nat)
  deriving DecidableEq, Repr

/-- The value of a hexadecimal digit. -/
def hexDigit? (place : Option Char) : Option Nat :=
  match place with
  | none => none
  | some c =>
    let code := c.toNat
    if 48 ≤ code ∧ code ≤ 57 then some (code - 48)
    else if 97 ≤ code ∧ code ≤ 102 then some (code - 87)
    else if 65 ≤ code ∧ code ≤ 70 then some (code - 55)
    else none

/-- The value of four hexadecimal digits. -/
def hexUnit? (a b c d : Option Char) : Option Nat :=
  match hexDigit? a, hexDigit? b, hexDigit? c, hexDigit? d with
  | some a, some b, some c, some d => some (((a * 16 + b) * 16 + c) * 16 + d)
  | _, _, _, _ => none

/-- The character that a one-letter escape stands for. -/
def shortEscape? (c : Char) : Option Char :=
  if c = '"' || c = '\\' || c = '/' then some c
  else if c = 'b' then some '\x08'
  else if c = 'f' then some '\x0c'
  else if c = 'n' then some '\n'
  else if c = 'r' then some '\r'
  else if c = 't' then some '\t'
  else none

/-- The parts of a string up to its closing quote. Controls have to be escaped. -/
def pieces? : Input → Option (List Piece × Input)
  | [] => none
  | none :: rest => (pieces? rest).map fun (ps, after) => (.place none :: ps, after)
  | some c :: rest =>
    if c = '"' then some ([], rest)
    else if c = '\\' then
      match rest with
      | some 'u' :: h₁ :: h₂ :: h₃ :: h₄ :: rest =>
        match hexUnit? h₁ h₂ h₃ h₄ with
        | some n => (pieces? rest).map fun (ps, after) => (.unit n :: ps, after)
        | none => none
      | some e :: rest =>
        match shortEscape? e with
        | some c => (pieces? rest).map fun (ps, after) => (.place (some c) :: ps, after)
        | none => none
      | _ => none
    else if c.toNat < 0x20 then none
    else (pieces? rest).map fun (ps, after) => (.place (some c) :: ps, after)

/-- Whether the number is a leading half of a surrogate pair. -/
def isLeading (n : Nat) : Bool := 0xD800 ≤ n && n < 0xDC00

/-- Whether the number is a trailing half of a surrogate pair. -/
def isTrailing (n : Nat) : Bool := 0xDC00 ≤ n && n < 0xE000

/-- The character of a number on its own; half a surrogate pair has none. -/
def scalar? (n : Nat) : Option Char :=
  if isLeading n || isTrailing n then none else some (Char.ofNat n)

/-- The places of a string: two escapes that form a surrogate pair are one character. -/
def joinPieces : List Piece → List (Option Char)
  | [] => []
  | .place c :: rest => c :: joinPieces rest
  | .unit n :: .unit m :: rest =>
    if isLeading n && isTrailing m then
      some (Char.ofNat (0x10000 + (n - 0xD800) * 0x400 + (m - 0xDC00))) :: joinPieces rest
    else scalar? n :: joinPieces (.unit m :: rest)
  | .unit n :: rest => scalar? n :: joinPieces rest

/-- A string after its opening quote. -/
def string? (input : Input) : Option (List (Option Char) × Input) :=
  (pieces? input).map fun (ps, after) => (joinPieces ps, after)

/-! ## Numbers -/

/-- The digits in front. -/
def digits : Input → List Nat × Input
  | some c :: rest =>
    match Decimal.digit? c with
    | some d => (d :: (digits rest).1, (digits rest).2)
    | none => ([], some c :: rest)
  | input => ([], input)

/-- At least one digit. -/
def digits? (input : Input) : Option (List Nat × Input) :=
  let (ds, rest) := digits input
  if ds.isEmpty then none else some (ds, rest)

/-- The whole part of a number: a zero stands alone. -/
def whole? (input : Input) : Option (List Nat × Input) :=
  match digits? input with
  | some (0 :: _ :: _, _) => none
  | read => read

/-- The fraction of a number, where there is a point. -/
def fraction? : Input → Option (List Nat × Input)
  | some '.' :: rest => digits? rest
  | input => some ([], input)

/-- The exponent of a number, where there is one. -/
def exponent? : Input → Option (Option (Bool × List Nat) × Input)
  | some c :: rest =>
    if c = 'e' || c = 'E' then
      let (below, rest) := match rest with
        | some '-' :: rest => (true, rest)
        | some '+' :: rest => (false, rest)
        | rest => (false, rest)
      (digits? rest).map fun (ds, after) => (some (below, ds), after)
    else some (none, some c :: rest)
  | input => some (none, input)

/-- A number without its sign. -/
def unsigned? (negative : Bool) (input : Input) : Option (Literal × Input) :=
  match whole? input with
  | none => none
  | some (whole, input) =>
    match fraction? input with
    | none => none
    | some (fraction, input) =>
      (exponent? input).map fun (exponent, after) => (⟨negative, whole, fraction, exponent⟩, after)

/-- A number. -/
def number? : Input → Option (Literal × Input)
  | some '-' :: rest => unsigned? true rest
  | input => unsigned? false input

/-! ## Values -/

/-- The input after a word, if the word stands in front. -/
def after? : List Char → Input → Option Input
  | [], input => some input
  | w :: word, some c :: rest => if w = c then after? word rest else none
  | _ :: _, _ => none

mutual

/-- A value, after any blanks. -/
def value? : Nat → Input → Option (Tree × Input)
  | 0, _ => none
  | fuel + 1, input =>
    match skip input with
    | some '\x7b' :: rest =>
      match skip rest with
      | some '\x7d' :: after => some (.object [], after)
      | rest => (members? fuel rest).map fun (ms, after) => (.object ms, after)
    | some '[' :: rest =>
      match skip rest with
      | some ']' :: after => some (.array [], after)
      | rest => (items? fuel rest).map fun (ts, after) => (.array ts, after)
    | some '"' :: rest => (string? rest).map fun (s, after) => (.string s, after)
    | some 'n' :: rest => (after? ['u', 'l', 'l'] rest).map fun after => (.null, after)
    | some 't' :: rest => (after? ['r', 'u', 'e'] rest).map fun after => (.bool true, after)
    | some 'f' :: rest => (after? ['a', 'l', 's', 'e'] rest).map fun after => (.bool false, after)
    | rest => (number? rest).map fun (l, after) => (.number (Number.ofLiteral? l), after)

/-- At least one item, and the closing bracket. -/
def items? : Nat → Input → Option (List Tree × Input)
  | 0, _ => none
  | fuel + 1, input =>
    match value? fuel input with
    | none => none
    | some (t, rest) =>
      match skip rest with
      | some ',' :: rest => (items? fuel rest).map fun (ts, after) => (t :: ts, after)
      | some ']' :: after => some ([t], after)
      | _ => none

/-- At least one member, and the closing brace. -/
def members? : Nat → Input → Option (List (List (Option Char) × Tree) × Input)
  | 0, _ => none
  | fuel + 1, input =>
    match skip input with
    | some '"' :: rest =>
      match string? rest with
      | none => none
      | some (k, rest) =>
        match skip rest with
        | some ':' :: rest =>
          match value? fuel rest with
          | none => none
          | some (t, rest) =>
            match skip rest with
            | some ',' :: rest => (members? fuel rest).map fun (ms, after) => ((k, t) :: ms, after)
            | some '\x7d' :: after => some ([(k, t)], after)
            | _ => none
        | _ => none
    | _ => none

end

end Reader

/-- The tree of a text: one value with blanks around it and nothing else. -/
def Tree.read? (input : List (Option Char)) : Option Tree :=
  match Reader.value? (input.length + 1) input with
  | some (t, rest) => if (Reader.skip rest).isEmpty then some t else none
  | none => none

/-- The value of a text. -/
def read? (s : String) : Option Json :=
  (Tree.read? (Text.placesOf s)).bind (Tree.value? textBudget)

end SecurityEvents.Json
