import ImportMaps.Map.Json
import ImportMaps.Config.Json
import ImportMaps.Resolver

/-!
# ImportMaps — working on one map

A session holds a resolver's settings and one import map, and goes through steps
that change the map, change the settings, or only ask (`Session.perform`). A step
that fails changes nothing: the only one that can is reading a map from JSON.
-/

namespace ImportMaps

/-- The settings in use and the map that is worked on. -/
structure Session where
  config : Config
  map : ImportMap

inductive Session.Step where
  /-- Gives a specifier a URL. -/
  | insert (specifier url : String)
  /-- Merges the map that a history of insertions leaves. -/
  | merge (history : List (String × String))
  /-- Replaces the map by one read from JSON. -/
  | readJson (text : String)
  /-- Empties the map. -/
  | clear
  /-- Replaces the settings; the map is kept. -/
  | configure (config : Config)
  /-- Replaces the map by the seed. -/
  | seed
  /-- Replaces the map by that of a source. -/
  | scan (source : String)
  /-- Merges the map of a source. -/
  | mergeScan (source : String)
  /-- Gives a specifier the URL that it resolves to. -/
  | insertResolved (specifier : String)
  | resolve (specifier : String)
  | pinned (specifier : String)
  | get (specifier : String)
  | contains (specifier : String)
  | size
  | isEmpty
  | specifiers
  /-- Asks whether the map has the entries of a history, in whatever order. -/
  | sameEntries (history : List (String × String))
  | writeJson
  | writeJsonIndented
  | writeScriptTag
  deriving DecidableEq, Repr

inductive Session.Answer where
  | map (map : ImportMap)
  | config (config : Config)
  | text (text : String)
  | url (url : Option String)
  | flag (flag : Bool)
  | count (count : Nat)
  | texts (texts : List String)
  | refused (error : Json.Error)

namespace Session

def resolver (s : Session) : Resolver :=
  .ofConfig s.config

/-- A session with these settings and nothing in its map. -/
def start (config : Config) : Session :=
  ⟨config, .empty⟩

/-- Puts another map in place and answers it. -/
def withMap (s : Session) (map : ImportMap) : Session × Answer :=
  ({ s with map }, .map map)

def perform (s : Session) : Step → Session × Answer
  | .insert specifier url => s.withMap (s.map.insert specifier url)
  | .merge history => s.withMap (s.map.merge (.ofHistory history))
  | .readJson text =>
    match ImportMap.ofJson text with
    | .ok map => s.withMap map
    | .error e => (s, .refused e)
  | .clear => s.withMap .empty
  | .configure config => ({ s with config }, .config config)
  | .seed => s.withMap s.resolver.seed
  | .scan source => s.withMap (s.resolver.scan source)
  | .mergeScan source => s.withMap (s.map.merge (s.resolver.scan source))
  | .insertResolved specifier => s.withMap (s.map.insert specifier (s.resolver.resolve specifier))
  | .resolve specifier => (s, .text (s.resolver.resolve specifier))
  | .pinned specifier => (s, .url (s.resolver.pinned? specifier))
  | .get specifier => (s, .url (s.map.get? specifier))
  | .contains specifier => (s, .flag (s.map.contains specifier))
  | .size => (s, .count s.map.size)
  | .isEmpty => (s, .flag s.map.isEmpty)
  | .specifiers => (s, .texts s.map.specifiers)
  | .sameEntries history => (s, .flag (s.map.sameEntries (.ofHistory history)))
  | .writeJson => (s, .text s.map.toJson)
  | .writeJsonIndented => (s, .text s.map.toJsonIndented)
  | .writeScriptTag => (s, .text s.map.toScriptTag)

/-- Goes through steps one after the other; the answers are in their order. -/
def performAll (s : Session) : List Step → Session × List Answer
  | [] => (s, [])
  | step :: steps =>
    let (s, answer) := s.perform step
    let (s, answers) := s.performAll steps
    (s, answer :: answers)

end Session

end ImportMaps
