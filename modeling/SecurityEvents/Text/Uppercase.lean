import SecurityEvents.Text.UppercaseTable
set_option autoImplicit false

/-!
# Uppercase text

The full uppercase mapping of Unicode, which looks at one character at a time: most characters stay or
become one other character, a few become two or three (`ß` becomes `SS`).
-/

namespace SecurityEvents.Text

namespace UppercaseRun

/-- Whether the code point is one of the run. -/
def covers (run : UppercaseRun) (code : Nat) : Bool :=
  run.first ≤ code && code ≤ run.last && (code - run.first) % run.step == 0

/-- Where the run moves a code point that it covers. -/
def move (run : UppercaseRun) (code : Nat) : Nat :=
  run.target + (code - run.first)

end UppercaseRun

/-- The uppercase form of one character. -/
def uppercaseChar (c : Char) : List Char :=
  match uppercaseExpansions.lookup c.toNat with
  | some codes => codes.map Char.ofNat
  | none =>
    match uppercaseRuns.find? (·.covers c.toNat) with
    | some run => [Char.ofNat (run.move c.toNat)]
    | none => [c]

/-- The uppercase form of a text. -/
def uppercase (s : String) : String :=
  String.ofList (s.toList.flatMap uppercaseChar)

end SecurityEvents.Text
