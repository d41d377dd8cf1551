import ImportMaps.Config.Json
import ImportMaps.Files
import ImportMaps.Resolver

/-!
# ImportMaps — what can go wrong around a scan

Scanning and resolving never fail. What can fail is getting hold of the texts: a
source file, a settings file or the standard input. A `Failure` says which one,
with the path as it was given.
-/

namespace ImportMaps

/-- Why there is no import map. -/
inductive Failure where
  | sourceRead (path : String) (fault : ReadFault)
  | configRead (path : String) (fault : ReadFault)
  | configParse (path : String) (error : Json.Error)
  /-- The standard input is not UTF-8. -/
  | inputRead
  deriving DecidableEq, Repr

def Failure.message : Failure → String
  | sourceRead path fault => "Failed to read source at " ++ path ++ ": " ++ fault.message
  | configRead path fault => "Failed to read config at " ++ path ++ ": " ++ fault.message
  | configParse path error => "Failed to parse config at " ++ path ++ ": " ++ error.message
  | inputRead => "Failed to read source from stdin"

/-- The settings in a file. -/
def Config.load (path : String) (contents : Contents) : Except Failure Config :=
  match contents.text with
  | .error fault => .error (.configRead path fault)
  | .ok text =>
    match Config.ofJson text with
    | .error e => .error (.configParse path e)
    | .ok config => .ok config

/-- The text of a source file. -/
def sourceText (path : String) (contents : Contents) : Except Failure String :=
  match contents.text with
  | .error fault => .error (.sourceRead path fault)
  | .ok text => .ok text

/-- The import map of a source file. -/
def Resolver.scanFile (r : Resolver) (path : String) (contents : Contents) :
    Except Failure ImportMap :=
  match sourceText path contents with
  | .error failure => .error failure
  | .ok text => .ok (r.scan text)

end ImportMaps
