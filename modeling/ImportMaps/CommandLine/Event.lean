import ImportMaps.Json.Printer
import ImportMaps.Source.Scan

/-!
# ImportMaps — events of a run

A run tells what it does in events, of two levels: the steps of the run are for
debugging, and the declarations that a scan selects are a finer trace. How many
of them are shown depends only on how often more detail was asked for
(`Event.isShown`): a filter that the environment may hold is taken as unset.

An event is written as a level, the part of the program that it comes from, and
fields, of which the first is a message.
-/

namespace ImportMaps.CommandLine

/-! ## Events -/

/-- How much detail an event belongs to. -/
inductive Level where
  | debug
  | trace
  deriving DecidableEq, Repr

def Level.label : Level → String
  | debug => "DEBUG"
  | trace => "TRACE"

/-- Something that a run does. -/
inductive Event where
  /-- The settings are settled; the host is as it was given. -/
  | settled (host reactVersion : String)
  /-- A file has been read and will be scanned. -/
  | scanningFile (path : String)
  /-- A declaration was selected that imports something. -/
  | matched (offset : Nat) (form : Form) (specifier : String)
  /-- A declaration was selected whose specifier is empty. -/
  | skipped (offset : Nat) (form : Form)
  /-- A source has been scanned; it has so many imports and bytes. -/
  | scannedSource (imports bytes : Nat)
  /-- The map of one of the sources named has so many entries. -/
  | scanned (file : String) (entries : Nat)
  deriving DecidableEq, Repr

namespace Event

def level : Event → Level
  | matched .. | skipped .. => .trace
  | _ => .debug

/-- The part of the program that an event comes from. -/
def target : Event → String
  | settled .. | scanned .. => "esmap::commands::scan"
  | scanningFile .. | scannedSource .. => "esmap_core::resolve"
  | matched .. | skipped .. => "esmap_core::imports::scan"

def message : Event → String
  | settled .. => "resolver config"
  | scanningFile .. => "scanning file"
  | matched .. => "matched import"
  | skipped .. => "skipping empty specifier"
  | scannedSource .. => "scanned source"
  | scanned .. => "scanned"

/-- The event of a declaration that a scan has selected. -/
def ofOccurrence (o : Occurrence) : Event :=
  match o.import? with
  | some i => matched i.offset i.form i.specifier
  | none => skipped o.offset o.declaration.form

/-- Whether an event is shown when more detail was asked for so many times. -/
def isShown (verbosity : Nat) (e : Event) : Bool :=
  match e.level with
  | .debug => 1 ≤ verbosity
  | .trace => 2 ≤ verbosity

end Event

/-! ## Fields -/

inductive FieldValue where
  | text (value : String)
  | number (value : Nat)
  deriving DecidableEq, Repr

/-- The fields of an event, the message first. -/
def Event.fields (e : Event) : List (String × FieldValue) :=
  ("message", .text e.message) ::
    match e with
    | settled host reactVersion => [("host", .text host), ("react", .text reactVersion)]
    | scanningFile path => [("path", .text path)]
    | matched offset form specifier =>
      [("offset", .number offset), ("form", .text form.label), ("specifier", .text specifier)]
    | skipped offset form => [("offset", .number offset), ("form", .text form.label)]
    | scannedSource imports bytes => [("imports", .number imports), ("bytes", .number bytes)]
    | scanned file entries => [("file", .text file), ("entries", .number entries)]

def FieldValue.toJson : FieldValue → List Char
  | text value => Json.quote value
  | number value => Nat.toDigits 10 value

/-- An event as one line of JSON. -/
def Event.toJsonLine (e : Event) : String :=
  String.ofList (Json.compactObject
    [("level", Json.quote e.level.label),
     ("fields", Json.compactObject (e.fields.map fun field => (field.1, field.2.toJson))),
     ("target", Json.quote e.target)])

end ImportMaps.CommandLine
