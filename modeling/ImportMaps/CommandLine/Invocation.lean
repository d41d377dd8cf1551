import ImportMaps.CommandLine.Switch

/-!
# ImportMaps — what a command line asks for

Arguments are read at two places: in front of the command's name, and after it.
The switches `verbose`, `json` and `config` are understood at both, and what is
given after the command's name wins. A switch may be given once at each place;
only `verbose` may be repeated, and its number counts. The path of the settings
file can come from the environment instead, when it is given at neither place.

`Invocation.ofArguments` reads a whole command line. The request for the version
or for help is answered as soon as it is met; whatever is wrong before it comes first.
-/

namespace ImportMaps.CommandLine

/-! ## Requests -/

/-- How an import map is printed. -/
inductive Layout where
  | compact
  | indented
  | scriptTag
  deriving DecidableEq, Repr

structure ScanRequest where
  /-- The sources in order; a single dash stands for the standard input. -/
  files : List String
  /-- The path of the settings file. -/
  config : Option String
  /-- The host that replaces the one of the settings. -/
  host : Option String
  /-- The version of React that replaces the one of the settings. -/
  reactVersion : Option String
  layout : Layout
  deriving DecidableEq, Repr

inductive Command where
  | version
  | scan (request : ScanRequest)
  deriving DecidableEq, Repr

/-- A command with the settings that hold for all commands. -/
structure Invocation where
  /-- How often more detail was asked for. -/
  verbosity : Nat
  /-- Whether events are written as JSON, and the version too. -/
  json : Bool
  command : Command
  deriving DecidableEq, Repr

/-- Why a command line is refused. -/
inductive UsageError where
  | unknownSwitch (text : String)
  | missingValue (switch : Switch)
  | unexpectedValue (switch : Switch)
  | repeatedSwitch (switch : Switch)
  | emptyPath
  | conflict (first second : Switch)
  | unexpectedArgument (text : String)
  | unknownCommand (text : String)
  | missingCommand
  deriving DecidableEq, Repr

/-- Why reading a command line ends early. -/
inductive Stop where
  | refused (error : UsageError)
  /-- The version was asked for. -/
  | versionWanted
  /-- Help was asked for. -/
  | helpWanted
  deriving DecidableEq, Repr

/-- The request that a switch is, of those that are answered as soon as they are met. -/
def Switch.request? : Switch → Option Stop
  | version => some .versionWanted
  | help => some .helpWanted
  | _ => none

/-! ## One place -/

/-- What has been given at one place. -/
structure Given where
  /-- The switches with their values, the last one first. -/
  switches : List (Switch × String) := []
  /-- The arguments that are no switches, the last one first. -/
  plain : List String := []
  deriving DecidableEq, Repr

namespace Given

def value? (g : Given) (s : Switch) : Option String :=
  g.switches.lookup s

def has (g : Given) (s : Switch) : Bool :=
  (g.value? s).isSome

def count (g : Given) (s : Switch) : Nat :=
  (g.switches.filter (·.1 = s)).length

def add (g : Given) (s : Switch) (value : String) : Except Stop Given :=
  match s.request? with
  | some stop => .error stop
  | none =>
    if g.has s && !s.repeatable then .error (.refused (.repeatedSwitch s))
    else if s.takesPath && value = "" then .error (.refused .emptyPath)
    else .ok { g with switches := (s, value) :: g.switches }

/-- Takes note of a cluster of one-letter switches. -/
def addLetters (allowed : List Switch) (g : Given) : List Char → Except Stop Given
  | [] => .ok g
  | c :: letters =>
    match allowed.find? (·.letter? = some c) with
    | none => .error (.refused (.unknownSwitch (String.ofList ['-', c])))
    | some s =>
      match g.add s "" with
      | .error stop => .error stop
      | .ok g => addLetters allowed g letters

/-- Takes note of arguments that are no switches. They are paths. -/
def addPlain (g : Given) : List String → Except Stop Given
  | [] => .ok g
  | text :: texts =>
    if text = "" then .error (.refused .emptyPath)
    else addPlain { g with plain := text :: g.plain } texts

end Given

/-- What may stand at a place besides switches. -/
inductive Room where
  /-- The command's name, which ends the place. -/
  | command
  /-- Files. -/
  | files
  | nothing
  deriving DecidableEq, Repr

/-- Reads the arguments of one place. Returns what was given there and the
arguments from the command's name on. -/
def readPlace (allowed : List Switch) (room : Room) (g : Given) (args : List String) :
    Except Stop (Given × List String) :=
  match args with
  | [] => .ok (g, [])
  | arg :: rest =>
    match Argument.ofString arg with
    -- Nothing after the two dashes is a switch, nor a command's name.
    | .endOfSwitches =>
      match room, rest with
      | .files, rest => (g.addPlain rest).map (·, [])
      | .command, _ => .error (.refused .missingCommand)
      | .nothing, [] => .ok (g, [])
      | .nothing, text :: _ => .error (.refused (.unexpectedArgument text))
    | .plain text =>
      match room with
      | .command => .ok (g, args)
      | .files =>
        match g.addPlain [text] with
        | .error stop => .error stop
        | .ok g => readPlace allowed room g rest
      | .nothing => .error (.refused (.unexpectedArgument text))
    | .short letters =>
      match g.addLetters allowed letters with
      | .error stop => .error stop
      | .ok g => readPlace allowed room g rest
    | .long name value =>
      match allowed.find? (·.name.toList = name) with
      | none => .error (.refused (.unknownSwitch arg))
      | some s =>
        -- The value stands after the equals sign or is the next argument.
        match s.takesValue, value, rest with
        | true, some value, rest =>
          match g.add s (String.ofList value) with
          | .error stop => .error stop
          | .ok g => readPlace allowed room g rest
        | true, none, [] => .error (.refused (.missingValue s))
        | true, none, value :: rest =>
          if canBeValue value then
            match g.add s value with
            | .error stop => .error stop
            | .ok g => readPlace allowed room g rest
          else
            .error (.refused (.missingValue s))
        | false, some _, _ => .error (.refused (.unexpectedValue s))
        | false, none, rest =>
          match g.add s "" with
          | .error stop => .error stop
          | .ok g => readPlace allowed room g rest

/-! ## The whole command line -/

/-- The path of the settings file: given after the command's name, or before it,
or in the environment. An empty path in the environment is refused wherever it
would be looked at. -/
def configPath (environment : Option String) (outer inner : Given) :
    Except Stop (Option String) :=
  let given := inner.value? .config <|> outer.value? .config
  if environment = some "" && !(inner.has .config && outer.has .config) then
    .error (.refused .emptyPath)
  else
    .ok (given <|> environment)

/-- How often more detail was asked for; after the command's name, if it was
asked for there. -/
def verbosityOf (outer inner : Given) : Nat :=
  if inner.has .verbose then inner.count .verbose else outer.count .verbose

def layoutOf (g : Given) : Except Stop Layout :=
  if g.has .html && g.has .pretty then .error (.refused (.conflict .pretty .html))
  else if g.has .html then .ok .scriptTag
  else if g.has .pretty then .ok .indented
  else .ok .compact

def scanRequest (config : Option String) (g : Given) : Except Stop ScanRequest :=
  (layoutOf g).map fun layout =>
    { files := g.plain.reverse
      config
      host := g.value? .host
      reactVersion := g.value? .reactVersion
      layout }

/-- What the command for help comes to: it can be given the name of a command. -/
def helpFor : List String → Stop
  | [] => .helpWanted
  | name :: names =>
    if name = "version" || name = "scan" || name = "help" then
      match names with
      | [] => .helpWanted
      | next :: _ => .refused (.unknownCommand next)
    else
      .refused (.unknownCommand name)

namespace Invocation

/-- The invocation made of what was given at both places. -/
def build (environment : Option String) (outer inner : Given)
    (command : Option String → Except Stop Command) : Except Stop Invocation :=
  match configPath environment outer inner with
  | .error stop => .error stop
  | .ok config =>
    (command config).map fun command =>
      { verbosity := verbosityOf outer inner
        json := inner.has .json || outer.has .json
        command }

/-- Reads a command line, given the path that the environment holds. -/
def ofArguments (environment : Option String) (args : List String) : Except Stop Invocation :=
  match readPlace Switch.outer .command {} args with
  | .error stop => .error stop
  | .ok (_, []) => .error (.refused .missingCommand)
  | .ok (outer, name :: rest) =>
    if name = "version" then
      match readPlace Switch.shared .nothing {} rest with
      | .error stop => .error stop
      | .ok (inner, _) => build environment outer inner fun _ => .ok .version
    else if name = "scan" then
      match readPlace Switch.ofScan .files {} rest with
      | .error stop => .error stop
      | .ok (inner, _) =>
        build environment outer inner fun config => (scanRequest config inner).map .scan
    else if name = "help" then
      .error (helpFor rest)
    else
      .error (.refused (.unknownCommand name))

end Invocation

end ImportMaps.CommandLine
