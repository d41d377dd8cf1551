import ImportMaps.Declaration.Basic

/-!
# ImportMaps — reading a declaration off the front of a text

`Declaration.read? form cs` reads a declaration of the given form that starts
with the first character of `cs`, and returns it with the text after it. Every
token takes the longest run it can, and no token needs to give characters back:
whatever follows a run in the grammar is not of the run's class. So a plain
left-to-right reader finds a declaration whenever there is one.

The module of lemmas says so in both directions: what is read, written back, is
the front of the text, and what has been written is read back.
-/

namespace ImportMaps

open Text

/-! ## Tokens -/

/-- A specifier in the given quotes. -/
def Quoted.readIn? (q : Quote) (cs : List Char) : Option (Quoted × List Char) :=
  match cs with
  | [] => none
  | c :: cs =>
    if c = q.mark then
      match Run.read q.admits cs with
      | (specifier, c' :: rest) => if c' = q.mark then some (⟨q, specifier⟩, rest) else none
      | (_, []) => none
    else
      none

/-- A specifier in single or in double quotes. -/
def Quoted.read? (cs : List Char) : Option (Quoted × List Char) :=
  Quoted.readIn? .single cs <|> Quoted.readIn? .double cs

/-- A brace list. -/
def NameList.read? (cs : List Char) : Option (NameList × List Char) := do
  let cs ← expect? ['{'] cs
  let (list, cs) := Run.read isNameListChar cs
  let cs ← expect? ['}'] cs
  return (list, cs)

/-! ## Clauses -/

namespace Clause

/-- One name between blanks. -/
def readBinding? (cs : List Char) : Option (Clause × List Char) := do
  let (before, cs) ← Run.read? isBlank 1 cs
  let (name, cs) ← Run.read? isBindingChar 1 cs
  let (after, cs) ← Run.read? isBlank 1 cs
  return (.binding before name after, cs)

/-- A brace list. -/
def readNames? (cs : List Char) : Option (Clause × List Char) := do
  let (before, cs) := Run.read isBlank cs
  let (list, cs) ← NameList.read? cs
  let (after, cs) := Run.read isBlank cs
  return (.names before list after, cs)

/-- A name, a comma and a brace list. -/
def readBindingAndNames? (cs : List Char) : Option (Clause × List Char) := do
  let (before, cs) ← Run.read? isBlank 1 cs
  let (name, cs) ← Run.read? isBindingChar 1 cs
  let (beforeComma, cs) := Run.read isBlank cs
  let cs ← expect? [','] cs
  let (afterComma, cs) := Run.read isBlank cs
  let (list, cs) ← NameList.read? cs
  let (after, cs) := Run.read isBlank cs
  return (.bindingAndNames before name beforeComma afterComma list after, cs)

/-- A star and a name. -/
def readStar? (cs : List Char) : Option (Clause × List Char) := do
  let (before, cs) := Run.read isBlank cs
  let cs ← expect? ['*'] cs
  let (beforeAs, cs) := Run.read isBlank cs
  let cs ← expect? asWord cs
  let (beforeName, cs) ← Run.read? isBlank 1 cs
  let (name, cs) ← Run.read? isBindingChar 1 cs
  let (after, cs) ← Run.read? isBlank 1 cs
  return (.star before beforeAs beforeName name after, cs)

end Clause

/-! ## Declarations -/

namespace Declaration

/-- The semicolon after a side-effect import, when blanks at most stand before
it. Without a semicolon the blanks are left alone. -/
def readClosing (cs : List Char) : Option Gap × List Char :=
  match Run.read isBlank cs with
  | (gap, ';' :: rest) => (some gap, rest)
  | _ => (none, cs)

/-- The rest of a declaration after its keyword and clause. -/
def readFrom? (clause : Clause) (cs : List Char) : Option (Declaration × List Char) := do
  let cs ← expect? fromWord cs
  let (gap, cs) := Run.read isBlank cs
  let (source, cs) ← Quoted.read? cs
  return (.binds clause gap source, cs)

/-- The rest of a side-effect import after its keyword. -/
def readSideEffect? (cs : List Char) : Option (Declaration × List Char) := do
  let (gap, cs) := Run.read isBlank cs
  let (source, cs) ← Quoted.read? cs
  let (closing, cs) := readClosing cs
  return (.sideEffect gap source closing, cs)

/-- The rest of a declaration of the given form after its keyword. -/
def readAfterKeyword? (form : Form) (cs : List Char) : Option (Declaration × List Char) :=
  match form with
  | .default => do
    let (clause, cs) ← Clause.readBinding? cs
    readFrom? clause cs
  | .named => do
    let (clause, cs) ← Clause.readNames? cs
    readFrom? clause cs
  | .defaultAndNamed => do
    let (clause, cs) ← Clause.readBindingAndNames? cs
    readFrom? clause cs
  | .star => do
    let (clause, cs) ← Clause.readStar? cs
    readFrom? clause cs
  | .sideEffect => readSideEffect? cs

/-- A declaration of the given form at the front of a text, and the text after
it. -/
def read? (form : Form) (cs : List Char) : Option (Declaration × List Char) := do
  let cs ← expect? importWord cs
  readAfterKeyword? form cs

end Declaration

end ImportMaps
