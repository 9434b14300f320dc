import SecurityEvents.Text.UnprintableTable
set_option autoImplicit false

/-!
# Quoted text

How descriptions show a text: between double quotes, with a backslash in front of quotes and backslashes,
short forms for the common controls, and the hexadecimal number of every other character that has no glyph
of its own.
-/

namespace SecurityEvents.Text

/-- Whether the character is shown by its number. -/
def isUnprintable (c : Char) : Bool :=
  unprintableRanges.any fun (first, last) => first ≤ c.toNat && c.toNat ≤ last

/-- One character inside quotes. -/
def quoteChar (c : Char) : List Char :=
  if c = '"' || c = '\\' then ['\\', c]
  else if c = '\t' then ['\\', 't']
  else if c = '\r' then ['\\', 'r']
  else if c = '\n' then ['\\', 'n']
  else if c.toNat = 0 then ['\\', '0']
  else if isUnprintable c then
    ['\\', 'u', '\x7b'] ++ Nat.toDigits 16 c.toNat ++ ['\x7d']
  else [c]

/-- A text between double quotes. -/
def quoted (s : String) : String :=
  String.ofList ('"' :: s.toList.flatMap quoteChar ++ ['"'])

/-- A list in brackets, its items separated by commas. -/
def bracketed (items : List String) : String :=
  "[" ++ ", ".intercalate items ++ "]"

/-- A record in braces: its name, then each field with its value. -/
def braced (name : String) (fields : List (String × String)) (complete : Bool := true) : String :=
  let shown := fields.map (fun (field, value) => field ++ ": " ++ value)
  name ++ " \x7b " ++ ", ".intercalate (if complete then shown else shown ++ [".."]) ++ " \x7d"

end SecurityEvents.Text
