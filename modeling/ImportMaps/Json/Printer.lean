/-!
# ImportMaps — writing JSON

Only objects are ever written, and their values are texts, numbers or objects
again. A value is handed over as the text it has been written to, so one
function per layout is enough.

* `quote` — a text between quotes. The quote, the backslash and the control
  characters below the space are escaped, the five common ones by their letter;
  everything else stands for itself, whatever its script.
* `compactObject` — an object without any blanks.
* `indentedObject` — an object with every member on a line of its own, two
  spaces further in, and one space after the colon. An empty object stays on
  its line.
-/

namespace ImportMaps.Json

/-! ## Texts -/

/-- A digit of a hexadecimal number, in lower case. -/
def hexDigit (n : Nat) : Char :=
  if n < 10 then Char.ofNat (48 + n) else Char.ofNat (87 + n)

/-- A character as it stands in a quoted text. -/
def escape (c : Char) : List Char :=
  if c = '"' then ['\\', '"']
  else if c = '\\' then ['\\', '\\']
  else if c = '\x08' then ['\\', 'b']
  else if c = '\x0c' then ['\\', 'f']
  else if c = '\n' then ['\\', 'n']
  else if c = '\r' then ['\\', 'r']
  else if c = '\t' then ['\\', 't']
  else if c.toNat < 0x20 then
    ['\\', 'u', '0', '0', hexDigit (c.toNat / 16), hexDigit (c.toNat % 16)]
  else [c]

/-- A text between quotes. -/
def quote (text : String) : List Char :=
  '"' :: text.toList.flatMap escape ++ ['"']

/-! ## Objects -/

/-- Items with commas between them. -/
def commaSeparated : List (List Char) → List Char
  | [] => []
  | [item] => item
  | item :: next :: items => item ++ ',' :: commaSeparated (next :: items)

/-- An object without blanks. Each member is its name and its written value. -/
def compactObject (members : List (String × List Char)) : List Char :=
  '{' :: commaSeparated (members.map fun m => quote m.1 ++ ':' :: m.2) ++ ['}']

/-- A new line, indented to a depth. -/
def newLine (depth : Nat) : List Char :=
  '\n' :: List.replicate (2 * depth) ' '

/-- An object over several lines that starts at the given depth. -/
def indentedObject (depth : Nat) : List (String × List Char) → List Char
  | [] => ['{', '}']
  | members =>
    '{' :: commaSeparated
        (members.map fun m => newLine (depth + 1) ++ quote m.1 ++ ':' :: ' ' :: m.2)
      ++ newLine depth ++ ['}']

end ImportMaps.Json
