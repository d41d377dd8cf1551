import ImportMaps.Text.Run

/-!
# ImportMaps — import declarations as written text

An import declaration is recognised by its shape alone: the keyword, what it
binds, the word `from`, and a quoted specifier. This module is the grammar of
that shape, as types: a `Declaration` holds every token with the exact text it
had, so that it can be written back (`Declaration.text`).

* `Quoted` — a specifier between two equal quote characters, on one line.
* `Clause` — what stands between the keyword and `from`, in its four shapes.
* `Declaration` — a clause with its source, or a bare source imported for its
  side effects, with or without a closing semicolon.
* `Form` — the five kinds of declaration; `Declaration.form` tells which.

The tokens are runs (`Text.Run`), so that no side condition is left: every
value of these types is a declaration that the grammar admits.
-/

namespace ImportMaps

open Text

/-! ## Tokens -/

/-- Any number of blanks, none included. -/
abbrev Gap := Run isBlank 0

/-- At least one blank. -/
abbrev Space := Run isBlank 1

/-- A name may hold everything but blanks, quotes, braces, the comma, the
semicolon and the star. -/
def isBindingChar (c : Char) : Bool :=
  !isBlank c && c != '*' && c != '{' && c != '}' && c != ',' && c != ';' && c != '\'' && c != '"'

/-- The local name that a declaration binds. It is not checked to be an
identifier. -/
abbrev Binding := Run isBindingChar 1

/-- Between the braces of a name list everything may stand but braces and
quotes, line breaks included. -/
def isNameListChar (c : Char) : Bool :=
  c != '{' && c != '}' && c != '\'' && c != '"'

/-- The inside of a brace list of imported names, which is not looked into. -/
abbrev NameList := Run isNameListChar 0

inductive Quote where
  | single
  | double
  deriving DecidableEq, Repr

namespace Quote

/-- The character that opens and closes the quotation. -/
def mark : Quote → Char
  | single => '\''
  | double => '"'

/-- A specifier ends at its own quote character and does not leave its line;
the other quote character may stand in it. -/
def admits (q : Quote) (c : Char) : Bool :=
  c != q.mark && c != '\r' && c != '\n'

end Quote

structure Quoted where
  quote : Quote
  specifier : Run quote.admits 0

def Quoted.text (q : Quoted) : List Char :=
  q.quote.mark :: q.specifier.chars ++ [q.quote.mark]

/-! ## Fixed words -/

/-- The keyword that opens every declaration. -/
def importWord : List Char := ['i', 'm', 'p', 'o', 'r', 't']

/-- The word in front of the source. -/
def fromWord : List Char := ['f', 'r', 'o', 'm']

/-- The word between the star and the name. -/
def asWord : List Char := ['a', 's']

/-! ## Declarations -/

/-- What a declaration binds: everything between the keyword and `from`, with
the blanks that the shape asks for or allows. -/
inductive Clause where
  /-- One name for the default export: `x`. -/
  | binding (before : Space) (name : Binding) (after : Space)
  /-- A brace list of names: `{ a, b }`. -/
  | names (before : Gap) (list : NameList) (after : Gap)
  /-- Both of them: `x, { a }`. -/
  | bindingAndNames (before : Space) (name : Binding) (beforeComma afterComma : Gap)
      (list : NameList) (after : Gap)
  /-- The whole module under one name: `* as x`. -/
  | star (before beforeAs : Gap) (beforeName : Space) (name : Binding) (after : Space)

def NameList.text (list : NameList) : List Char :=
  '{' :: list.chars ++ ['}']

def Clause.text : Clause → List Char
  | binding before name after => before.chars ++ name.chars ++ after.chars
  | names before list after => before.chars ++ NameList.text list ++ after.chars
  | bindingAndNames before name beforeComma afterComma list after =>
      before.chars ++ name.chars ++ beforeComma.chars ++ ',' :: afterComma.chars
        ++ NameList.text list ++ after.chars
  | star before beforeAs beforeName name after =>
      before.chars ++ '*' :: beforeAs.chars ++ asWord ++ beforeName.chars ++ name.chars
        ++ after.chars

inductive Declaration where
  /-- A declaration that binds names: keyword, clause, `from`, source. -/
  | binds (clause : Clause) (gap : Gap) (source : Quoted)
  /-- A source imported for its side effects; `closing` holds the blanks before
  the semicolon when there is one. -/
  | sideEffect (gap : Gap) (source : Quoted) (closing : Option Gap)

inductive Form where
  /-- `import x from 's'` -/
  | default
  /-- `import { a, b } from 's'` -/
  | named
  /-- `import x, { a } from 's'` -/
  | defaultAndNamed
  /-- `import * as x from 's'` -/
  | star
  /-- `import 's';` -/
  | sideEffect
  deriving DecidableEq, Repr

namespace Form

/-- All forms, in the order in which they are tried. -/
def all : List Form := [default, named, defaultAndNamed, star, sideEffect]

/-- The name under which a form is reported. -/
def label : Form → String
  | default => "default"
  | named => "named"
  | defaultAndNamed => "default_and_named"
  | star => "namespace"
  | sideEffect => "side_effect"

theorem mem_all (f : Form) : f ∈ all := by
  cases f <;> decide

end Form

def Clause.form : Clause → Form
  | binding .. => .default
  | names .. => .named
  | bindingAndNames .. => .defaultAndNamed
  | star .. => .star

namespace Declaration

def form : Declaration → Form
  | binds clause _ _ => clause.form
  | sideEffect .. => .sideEffect

/-- The source that a declaration names. -/
def source : Declaration → Quoted
  | binds _ _ source => source
  | sideEffect _ source _ => source

/-- The characters between the quotes. -/
def specifier (d : Declaration) : List Char :=
  d.source.specifier.chars

/-- The semicolon of a side-effect import with the blanks before it. -/
def closingText : Option Gap → List Char
  | none => []
  | some gap => gap.chars ++ [';']

/-- A declaration as written. -/
def text : Declaration → List Char
  | binds clause gap source => importWord ++ clause.text ++ fromWord ++ gap.chars ++ source.text
  | sideEffect gap source closing => importWord ++ gap.chars ++ source.text ++ closingText closing

end Declaration

end ImportMaps
