import ImportMaps.Source.Occurrence

/-!
# ImportMaps — scanning a source for its import declarations

A scan goes through a source from left to right. It takes the next declaration
of any form, goes on right after it, and so on to the end: the occurrences it
selects do not overlap.

Two definitions of the scan stand side by side:

* `Source.plainOccurrences` looks for the next declaration of any form afresh
  from every place it reaches. It is the meaning of a scan.
* `Source.occurrences` is the one that runs. It keeps for every form the next
  declaration of that form (`Slot`), and looks for a new one only when the kept
  one starts before the place reached; so a form that occurs once is searched
  for once.

Both take the forms in the order given; `Form.all` is the usual order. A
declaration with an empty specifier is selected, so that the scan goes on after
it, but is not reported (`Occurrence.import?`).
-/

namespace ImportMaps

open Text

/-! ## The scan that keeps what it has found -/

/-- A form with the next declaration of this form that is known. -/
structure Slot where
  form : Form
  pending : Option Occurrence

namespace Slot

/-- A slot filled by a search from the cursor. -/
def fill (c : Cursor) (form : Form) : Slot :=
  ⟨form, c.find? form⟩

/-- A slot whose declaration starts before the cursor is filled anew. A slot
without a declaration stays empty: there is none further on either. -/
def refresh (c : Cursor) (s : Slot) : Slot :=
  match s.pending with
  | some o => if o.offset < c.offset then fill c s.form else s
  | none => s

end Slot

/-- The occurrence that starts earlier; the first one on a tie. -/
def Occurrence.sooner : Option Occurrence → Option Occurrence → Option Occurrence
  | some a, some b => if b.offset < a.offset then some b else some a
  | some a, none => some a
  | none, b => b

/-- The pending occurrence that starts earliest; the first slot wins a tie. -/
def Slot.earliest : List Slot → Option Occurrence
  | [] => none
  | s :: slots => Occurrence.sooner s.pending (earliest slots)

namespace Source

/-- Selects occurrences from the cursor on, keeping the slots up to date, in a
source of `size` bytes. Every declaration ends after the place reached and within
the source, so the scan ends. -/
def select (size : Nat) (slots : List Slot) (c : Cursor) : List Occurrence :=
  -- What starts before the cursor overlaps the last declaration.
  let slots := slots.map (Slot.refresh c)
  match Slot.earliest slots with
  | none => []
  | some o =>
    if c.offset < o.after.offset ∧ o.after.offset ≤ size then
      o :: select size slots o.after
    else
      []
  termination_by size - c.offset

/-- The declarations that a scan selects, in order. -/
def occurrencesBy (forms : List Form) (source : List Char) : List Occurrence :=
  let c := Cursor.start source
  select (byteLength source) (forms.map (Slot.fill c)) c

def occurrences (source : List Char) : List Occurrence :=
  occurrencesBy Form.all source

/-! ## The plain scan -/

/-- Selects occurrences from the cursor on, searching afresh at every step, in a
source of `size` bytes. -/
def plainSelect (size : Nat) (forms : List Form) (c : Cursor) : List Occurrence :=
  match c.findAny? forms with
  | none => []
  | some o =>
    if c.offset < o.after.offset ∧ o.after.offset ≤ size then
      o :: plainSelect size forms o.after
    else
      []
  termination_by size - c.offset

/-- The declarations that the plain scan selects, in order. -/
def plainOccurrences (forms : List Form) (source : List Char) : List Occurrence :=
  plainSelect (byteLength source) forms (Cursor.start source)

end Source

/-! ## What is reported -/

structure ScannedImport where
  /-- The byte offset of the keyword. -/
  offset : Nat
  /-- The form of the declaration. -/
  form : Form
  /-- The specifier exactly as it stands between the quotes. -/
  specifier : String
  deriving DecidableEq, Repr

/-- The import that an occurrence reports: none when its specifier is empty. -/
def Occurrence.import? (o : Occurrence) : Option ScannedImport :=
  if o.declaration.specifier.isEmpty then
    none
  else
    some ⟨o.offset, o.declaration.form, String.ofList o.declaration.specifier⟩

namespace Source

/-- The imports of a source text, in order of appearance, repetitions included. -/
def imports (source : String) : List ScannedImport :=
  (occurrences source.toList).filterMap Occurrence.import?

end Source

end ImportMaps
