import ImportMaps.Declaration.Reader

/-!
# ImportMaps — places in a source and the declarations found there

A `Cursor` is a place in a source text: the text that is still ahead, the
offset in bytes, and the character just before the place. The last one decides
whether a keyword may start here: an `import` that continues a word, as in
`reimport`, is none.

* `Cursor.first?` — the first place, from a cursor on, where a test succeeds.
* `Cursor.occurrence? form` — the declaration of a form that starts right here.
* `Cursor.find? form` — the next declaration of a form at or after the cursor.
* `Cursor.findAny? forms` — the next declaration of any of the forms; where two
  forms fit at one place, the one listed first.
-/

namespace ImportMaps

open Text

/-- A place in a source text. -/
structure Cursor where
  /-- The character just before the place; none at the start of the text. -/
  before : Option Char
  /-- The number of bytes before the place. -/
  offset : Nat
  /-- The text from the place on. -/
  rest : List Char

/-- A declaration where it stands in a source. -/
structure Occurrence where
  /-- The byte offset of the keyword. -/
  offset : Nat
  declaration : Declaration
  /-- The place right after the declaration. -/
  after : Cursor

namespace Cursor

def start (source : List Char) : Cursor :=
  ⟨none, 0, source⟩

/-- A keyword may start here: the character before the place, if there is one,
is not a word character. -/
def atBoundary (c : Cursor) : Bool :=
  c.before.all (!isWord ·)

/-- The place after `taken`, when the text from the cursor on is `taken`
followed by `rest`. -/
def past (c : Cursor) (taken rest : List Char) : Cursor :=
  ⟨taken.getLast?.or c.before, c.offset + byteLength taken, rest⟩

/-- Tries a test at this place and at every later one, the end of the text
included, and returns the first success. -/
def firstFrom? {α : Type} (test : Cursor → Option α) (before : Option Char) (offset : Nat) :
    List Char → Option α
  | [] => test ⟨before, offset, []⟩
  | c :: cs =>
    match test ⟨before, offset, c :: cs⟩ with
    | some a => some a
    | none => firstFrom? test (some c) (offset + c.utf8Size) cs

/-- The first success of a test at or after the cursor. -/
def first? {α : Type} (test : Cursor → Option α) (c : Cursor) : Option α :=
  firstFrom? test c.before c.offset c.rest

/-- The declaration of a form that starts at the cursor. -/
def occurrence? (form : Form) (c : Cursor) : Option Occurrence :=
  if c.atBoundary then
    (Declaration.read? form c.rest).map fun (d, rest) => ⟨c.offset, d, c.past d.text rest⟩
  else
    none

/-- The next declaration of a form. -/
def find? (form : Form) (c : Cursor) : Option Occurrence :=
  c.first? (occurrence? form)

/-- The next declaration of any of the forms, the earlier form first. -/
def findAny? (forms : List Form) (c : Cursor) : Option Occurrence :=
  c.first? fun c => forms.findSome? (occurrence? · c)

end Cursor

end ImportMaps
