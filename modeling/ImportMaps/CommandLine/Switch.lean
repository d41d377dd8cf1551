/-!
# ImportMaps — switches of the command line

An argument is a switch by its full name after two dashes, a cluster of one-letter
switches after one dash, the two dashes alone that end all switches, or anything
else. A single dash is no switch: it names the standard input.

Names are never abbreviated. A switch that takes a value has it after an equals
sign, or as the next argument unless that looks like a switch itself.
-/

namespace ImportMaps.CommandLine

inductive Switch where
  | verbose
  | json
  | config
  | version
  | help
  | html
  | pretty
  | host
  | reactVersion
  deriving DecidableEq, Repr

namespace Switch

def name : Switch → String
  | verbose => "verbose"
  | json => "json"
  | config => "config"
  | version => "version"
  | help => "help"
  | html => "html"
  | pretty => "pretty"
  | host => "host"
  | reactVersion => "react-version"

/-- The one-letter name, of those that have one. -/
def letter? : Switch → Option Char
  | verbose => some 'v'
  | version => some 'V'
  | help => some 'h'
  | _ => none

def takesValue : Switch → Bool
  | config | host | reactVersion => true
  | _ => false

/-- Whether the value is a path, which must not be empty. -/
def takesPath : Switch → Bool
  | config => true
  | _ => false

/-- Whether the switch may be given again at the same place. -/
def repeatable : Switch → Bool
  | verbose => true
  | _ => false

/-- The switches in front of the command's name. -/
def outer : List Switch := [verbose, json, config, version, help]

/-- The switches that every command understands as well. -/
def shared : List Switch := [verbose, json, config, help]

def ofScan : List Switch := [html, pretty, host, reactVersion] ++ shared

end Switch

/-- What an argument looks like. -/
inductive Argument where
  /-- A switch by its full name, with the value after an equals sign. -/
  | long (name : List Char) (value : Option (List Char))
  /-- One-letter switches in one argument. -/
  | short (letters : List Char)
  /-- The end of all switches. -/
  | endOfSwitches
  /-- Anything else. -/
  | plain (text : String)
  deriving DecidableEq, Repr

/-- Splits a text at its first equals sign. -/
def splitValue (cs : List Char) : List Char × Option (List Char) :=
  match cs.dropWhile (· != '=') with
  | [] => (cs, none)
  | _ :: value => (cs.takeWhile (· != '='), some value)

/-- What an argument looks like by its first characters. -/
def Argument.ofString (text : String) : Argument :=
  match text.toList with
  | ['-', '-'] => .endOfSwitches
  | '-' :: '-' :: cs => .long (splitValue cs).1 (splitValue cs).2
  | ['-'] => .plain text
  | '-' :: letters => .short letters
  | _ => .plain text

/-- Whether an argument can be the value of the switch before it. -/
def canBeValue (text : String) : Bool :=
  match Argument.ofString text with
  | .plain _ => true
  | _ => false

end ImportMaps.CommandLine
