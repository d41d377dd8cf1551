import ImportMaps.CommandLine.Event
import ImportMaps.CommandLine.Invocation
import ImportMaps.CommandLine.Script
import ImportMaps.Failure
import ImportMaps.Map.Json

/-!
# ImportMaps — the scan command

A scan first settles its settings: the file, when one is named, and over it the
values given on the command line. Then it goes through the sources in order and
merges the map of each into one that starts as the seed. Without any source it
scans the standard input.

The standard input is read when it is first needed, and its text is kept: a
second dash scans the same text again.

The run ends at the first thing that cannot be read, and then prints nothing;
the events up to there are part of its report (`Report`).
-/

namespace ImportMaps.CommandLine

/-! ## Reports -/

/-- What a run has to tell: its events, and its result or why there is none. -/
structure Report (α : Type) where
  events : List Event
  result : Except Failure α

/-- A report with earlier events in front. -/
def Report.after {α : Type} (events : List Event) (r : Report α) : Report α :=
  { r with events := events ++ r.events }

/-! ## One source -/

def scanEvents (source : String) : List Event :=
  (Source.occurrences source.toList).map Event.ofOccurrence ++
    [.scannedSource (Source.imports source).length source.utf8ByteSize]

def inputText (bytes : ByteArray) : Except Failure String :=
  match String.fromUTF8? bytes with
  | some text => .ok text
  | none => .error .inputRead

/-- The name that stands for the standard input among the sources. -/
def inputName : String := "-"

/-! ## All sources -/

/-- Scans the sources named, merging their maps into `map`. `held` is the text of
the standard input once it has been read. -/
def scanFiles (r : Resolver) (held : Option String) (map : ImportMap) :
    List String → Script (Report ImportMap)
  | [] => .done ⟨[], .ok map⟩
  | file :: files =>
    -- What happens once the text of this source is at hand.
    let goOn (held : Option String) (opening : List Event) (text : String) :
        Script (Report ImportMap) :=
      let scanned := r.scan text
      let events := opening ++ scanEvents text ++ [.scanned file scanned.size]
      (scanFiles r held (map.merge scanned) files).map (·.after events)
    if file = inputName then
      -- The stream gives its text only once.
      match held with
      | some text => goOn held [] text
      | none => .readInput fun bytes =>
        match inputText bytes with
        | .error failure => .done ⟨[], .error failure⟩
        | .ok text => goOn (some text) [] text
    else
      .readFile file fun contents =>
        match sourceText file contents with
        | .error failure => .done ⟨[], .error failure⟩
        | .ok text => goOn held [.scanningFile file] text

/-- Scans the sources of a request, or the standard input when there are none. -/
def scanSources (r : Resolver) (files : List String) : Script (Report ImportMap) :=
  if files.isEmpty then
    .readInput fun bytes =>
      match inputText bytes with
      | .error failure => .done ⟨[], .error failure⟩
      | .ok text => .done ⟨scanEvents text, .ok (r.scan text)⟩
  else
    scanFiles r none r.seed files

/-! ## Settings -/

/-- The settings of the file with the values of the command line over them. -/
def ScanRequest.override (request : ScanRequest) (config : Config) : Config :=
  let config := (request.host.map config.withHost).getD config
  (request.reactVersion.map config.withReact).getD config

def readConfig (request : ScanRequest) : Script (Except Failure Config) :=
  match request.config with
  | none => .done (.ok (request.override .standard))
  | some path => .readFile path fun contents =>
    .done ((Config.load path contents).map request.override)

/-! ## The command -/

/-- A map as the layout asks for. -/
def Layout.print (l : Layout) (map : ImportMap) : String :=
  match l with
  | compact => map.toJson
  | indented => map.toJsonIndented
  | scriptTag => map.toScriptTag

/-- The scan command; its result is the map that it prints. -/
def scanCommand (request : ScanRequest) : Script (Report ImportMap) :=
  (readConfig request).andThen fun
    | .error failure => .done ⟨[], .error failure⟩
    | .ok config =>
      (scanSources (.ofConfig config) request.files).map
        (·.after [.settled config.resolutionHost config.reactVersion])

end ImportMaps.CommandLine
