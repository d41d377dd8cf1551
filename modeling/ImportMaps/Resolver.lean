import ImportMaps.Config.Basic
import ImportMaps.Map.Basic
import ImportMaps.Source.Scan

/-!
# ImportMaps — from specifiers to URLs

A specifier is resolved in two steps. A few packages have a pinned URL, found
by their exact specifier (`Resolver.pinned?`). Every other specifier is put
behind the host as it stands, and when it mentions React anywhere, the URL asks
for the pinned version of React as well (`Resolver.resolve`).

Pinned URLs are templates with places for the host and for the version. The
version goes in first, and only then is every host mark in the result filled
in: a version that itself contains the host mark receives the host there
(`Template.render`).

A scan of a source (`Resolver.scan`) starts from a small map of its own, the
seed, and inserts the resolved URL of every import that it finds.
-/

namespace ImportMaps

open Text

/-! ## Templates -/

inductive Template.Piece where
  /-- The place of the host. -/
  | host
  /-- The place of the version of React. -/
  | react
  /-- Text that stands for itself. -/
  | text (value : String)
  deriving DecidableEq, Repr

/-- A URL with places for the host and the version of React. -/
abbrev Template := List Template.Piece

/-- The host and the version that fill in templates. -/
structure Resolver where
  /-- The host without slashes at its end. -/
  host : String
  /-- The version of React. -/
  reactVersion : String
  deriving DecidableEq, Repr

namespace Template

/-- The mark that stands for the host in the text of a template. -/
def hostMark : List Char := ['{', 'h', 'o', 's', 't', '}']

/-- The version as it comes out of a template: host marks in it are filled in
like those of the template itself. -/
def fillVersion (r : Resolver) : String :=
  String.ofList (substitute hostMark r.host.toList r.reactVersion.toList)

def Piece.render (r : Resolver) : Piece → String
  | host => r.host
  | react => fillVersion r
  | text value => value

/-- The URL that a template stands for. -/
def render (t : Template) (r : Resolver) : String :=
  String.join (t.map (Piece.render r))

end Template

namespace Resolver

/-- The packages with a pinned URL. -/
def pins : List (String × Template) :=
  [("react", [.host, .text "/react@", .react]),
   ("react-dom/client", [.host, .text "/react-dom@", .react, .text "/client"]),
   ("react-dom/", [.host, .text "/react-dom@", .react, .text "/"]),
   ("react-dom", [.host, .text "/react-dom@", .react, .text "/"]),
   ("lucide-react", [.host, .text "/lucide-react/?deps=react@", .react]),
   ("react-error-boundary", [.host, .text "/react-error-boundary/?deps=react@", .react]),
   ("antd", [.host, .text "/antd?standalone&deps=react@", .react])]

/-- The entries that every map starts with. -/
def seedPins : List (String × Template) :=
  [("react", [.host, .text "/react@", .react]),
   ("react-dom/", [.host, .text "/react-dom@", .react, .text "/"]),
   ("react-error-boundary", [.host, .text "/react-error-boundary/?deps=react@", .react])]

def ofConfig (c : Config) : Resolver :=
  ⟨c.host, c.reactVersion⟩

/-- The pinned URL of a specifier, by its exact text only. -/
def pinned? (r : Resolver) (specifier : String) : Option String :=
  (pins.lookup specifier).map (·.render r)

/-- The word that a specifier must contain to have React pinned. -/
def reactWord : List Char := ['r', 'e', 'a', 'c', 't']

/-- The URL of a specifier without a pinned one. -/
def generic (r : Resolver) (specifier : String) : String :=
  if occursIn reactWord specifier.toList then
    r.host ++ "/" ++ specifier ++ "?deps=react@" ++ r.reactVersion
  else
    r.host ++ "/" ++ specifier

def resolve (r : Resolver) (specifier : String) : String :=
  (r.pinned? specifier).getD (r.generic specifier)

/-- The map that every scan starts from. -/
def seed (r : Resolver) : ImportMap :=
  .ofHistory (seedPins.map fun pin => (pin.1, pin.2.render r))

/-- The seed with the resolved URLs of some imports inserted in order. -/
def mapOf (r : Resolver) (imports : List ScannedImport) : ImportMap :=
  r.seed.insertAll (imports.map fun i => (i.specifier, r.resolve i.specifier))

def scan (r : Resolver) (source : String) : ImportMap :=
  r.mapOf (Source.imports source)

end Resolver

end ImportMaps
