import ImportMaps.Text.Basic
import ImportMaps.Text.Printable

/-!
# ImportMaps — why a JSON text is refused, and where

A reader that goes wrong knows why (`Cause`) and how much of the text it has not
consumed (`Fault`). Only when the whole text is at hand does the place become a
line and a column (`Fault.locate`): lines count from one, and the column is the
number of bytes between the start of the line and the place.

Two kinds of place occur. Some faults stand right after what has been consumed
(`Fault.here`). Others are about the byte that comes next, and stand right after
that byte, or at the end when there is none (`Fault.next`).
-/

namespace ImportMaps.Json

open Text

/-! ## Causes -/

/-- What a reader found where it wanted something of another type. -/
inductive Found where
  | null
  | boolean (value : Bool)
  /-- A whole number, by its decimal text. -/
  | integer (digits : String)
  /-- Any other number, by its decimal text. -/
  | float (digits : String)
  | text (value : String)
  | list
  | object
  deriving DecidableEq, Repr

/-- What a reader wants. -/
inductive Wanted where
  | text
  | object
  /-- A record with fixed fields, by its name. -/
  | record (name : String)
  deriving DecidableEq, Repr

/-- Why a JSON text is refused. -/
inductive Cause where
  | endInList
  | endInObject
  | endInString
  | endInValue
  | colonExpected
  | listCommaOrEndExpected
  | objectCommaOrEndExpected
  | identExpected
  | valueExpected
  | invalidEscape
  | invalidNumber
  | numberOutOfRange
  | controlCharacter
  | keyNotString
  | loneSurrogate
  | hexEscapeEnded
  | trailingComma
  | trailingCharacters
  | wrongType (found : Found) (wanted : Wanted)
  | unknownField (name : String) (known : List String)
  | duplicateField (name : String)
  | missingField (name : String)
  /-- A list without the one element that stands for a record of one field. -/
  | emptyRecordList (record : String)
  deriving DecidableEq, Repr

/-- The words for what was found. -/
def Found.describe : Found → String
  | null => "null"
  | boolean true => "boolean `true`"
  | boolean false => "boolean `false`"
  | integer digits => "integer `" ++ digits ++ "`"
  | float digits => "floating point `" ++ digits ++ "`"
  | text value => "string " ++ visible value
  | list => "sequence"
  | object => "map"

/-- The words for what was wanted. -/
def Wanted.describe : Wanted → String
  | text => "a string"
  | object => "a map"
  | record name => "struct " ++ name

/-- The names that were possible, as a phrase. -/
def alternatives (names : List String) : String :=
  " or ".intercalate (names.map fun name => "`" ++ name ++ "`")

/-- The message of a cause. -/
def Cause.message : Cause → String
  | endInList => "EOF while parsing a list"
  | endInObject => "EOF while parsing an object"
  | endInString => "EOF while parsing a string"
  | endInValue => "EOF while parsing a value"
  | colonExpected => "expected `:`"
  | listCommaOrEndExpected => "expected `,` or `]`"
  | objectCommaOrEndExpected => "expected `,` or `\x7d`"
  | identExpected => "expected ident"
  | valueExpected => "expected value"
  | invalidEscape => "invalid escape"
  | invalidNumber => "invalid number"
  | numberOutOfRange => "number out of range"
  | controlCharacter =>
    "control character (\\u0000-\\u001F) found while parsing a string"
  | keyNotString => "key must be a string"
  | loneSurrogate => "lone leading surrogate in hex escape"
  | hexEscapeEnded => "unexpected end of hex escape"
  | trailingComma => "trailing comma"
  | trailingCharacters => "trailing characters"
  | wrongType found wanted =>
    "invalid type: " ++ found.describe ++ ", expected " ++ wanted.describe
  | unknownField name known =>
    "unknown field `" ++ name ++ "`, expected " ++ alternatives known
  | duplicateField name => "duplicate field `" ++ name ++ "`"
  | missingField name => "missing field `" ++ name ++ "`"
  | emptyRecordList record =>
    "invalid length 0, expected struct " ++ record ++ " with 1 element"

/-! ## Places -/

/-- A cause, and the number of bytes after the place where it arose. -/
structure Fault where
  cause : Cause
  left : Nat
  deriving DecidableEq, Repr

namespace Fault

/-- A fault right before the text that is left. -/
def here (rest : List Char) (cause : Cause) : Fault :=
  ⟨cause, byteLength rest⟩

/-- A fault about the first byte of the text that is left: it stands right after
this byte, or at the end. -/
def next (rest : List Char) (cause : Cause) : Fault :=
  ⟨cause, byteLength rest - 1⟩

end Fault

/-- Why and where a JSON text is refused. -/
structure Error where
  cause : Cause
  line : Nat
  column : Nat
  deriving DecidableEq, Repr

namespace Error

/-- The message with its place. -/
def message (e : Error) : String :=
  e.cause.message ++ " at line " ++ toString e.line ++ " column " ++ toString e.column

end Error

/-- Line and column after the first `index` bytes of a text, when counting has
reached `line` and `column` before it. The place may lie inside a character. -/
def placeFrom (line column index : Nat) : List Char → Nat × Nat
  | [] => (line, column)
  | c :: cs =>
    if index < c.utf8Size then
      (line, column + index)
    else if c = '\n' then
      placeFrom (line + 1) 0 (index - c.utf8Size) cs
    else
      placeFrom line (column + c.utf8Size) (index - c.utf8Size) cs

/-- The error of a fault in a text. -/
def Fault.locate (text : List Char) (f : Fault) : Error :=
  let (line, column) := placeFrom 1 0 (byteLength text - f.left) text
  ⟨f.cause, line, column⟩

end ImportMaps.Json
