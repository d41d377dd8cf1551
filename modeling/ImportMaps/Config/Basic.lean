/-!
# ImportMaps — settings

Two settings shape every URL: the root of the network that serves the modules,
and the version of React that is pinned. Both have a default, and each can be
set on its own.

The root may be given with slashes at its end; URLs are built from
`Config.host`, which has none.
-/

namespace ImportMaps

structure Config where
  /-- The root as it was given. -/
  resolutionHost : String := "https://esm.sh"
  /-- The version of React that URLs are pinned to. -/
  reactVersion : String := "18.2.0"
  deriving DecidableEq, Repr

namespace Config

/-- The settings when nothing is set. -/
def standard : Config := {}

/-- The same settings with another root. -/
def withHost (c : Config) (host : String) : Config :=
  { c with resolutionHost := host }

/-- The same settings with another version of React. -/
def withReact (c : Config) (version : String) : Config :=
  { c with reactVersion := version }

/-- A text without the slashes at its end. -/
def trimSlashes (cs : List Char) : List Char :=
  (cs.reverse.dropWhile (· == '/')).reverse

/-- The root without the slashes at its end. -/
def host (c : Config) : String :=
  String.ofList (trimSlashes c.resolutionHost.toList)

end Config

end ImportMaps
