import ImportMaps.CommandLine.Run

/-!
# ImportMaps — the program

The outer layer: it carries out the script of a run on the machine, prints the
output, and writes events and messages to the standard error.
-/

namespace ImportMaps

/-- The reason that an error of the system stands for. Opening a file gives the number
of an error negated, reading from it gives the number itself. -/
def ReadFault.ofError (e : IO.Error) : ReadFault :=
  match e with
  | .noFileOrDirectory _ _ _ => .notFound
  | .inappropriateType _ code _ =>
    if code = 21 || code = -21 then .isDirectory else .notDirectory
  | .invalidArgument _ code _ =>
    if code = 36 || code = -36 then .nameTooLong else .other 22 "Invalid argument"
  | .permissionDenied _ _ _ => .other 13 "Permission denied"
  | _ => .other 5 "Input/output error"

namespace CommandLine

/-- Carries a script out on the machine. -/
def Script.carryOut {α : Type} : Script α → IO α
  | .done result => pure result
  | .readFile path next => do
    let contents : Contents ←
      try
        pure (.ok (← IO.FS.readBinFile path))
      catch e =>
        pure (.error (.ofError e))
    (next contents).carryOut
  | .readInput next => do
    (next (← (← IO.getStdin).readBinToEnd)).carryOut

/-- What is shown when help is asked for, at whatever place. -/
def helpLines : List String :=
  ["Generate browser import maps from source imports",
   "",
   "Usage: esmap [-v...] [--json] [--config PATH] version",
   "       esmap [-v...] [--json] [--config PATH] scan [--html | --pretty] [--host URL]",
   "                 [--react-version VERSION] [FILES...]",
   "",
   "  version                Print version information",
   "  scan                   Scan source files for imports and print the import map",
   "  FILES                  Files to scan, in order (omit or use - to read stdin)",
   "  -v, --verbose          Increase logging verbosity (-v for DEBUG, -vv for TRACE)",
   "  --json                 Emit JSON formatted logs (and JSON output for version)",
   "  --config PATH          Resolver config file, or else the one of ESMAP_CONFIG",
   "  --html                 Print an HTML script element instead of JSON",
   "  --pretty               Pretty-print the JSON output",
   "  --host URL             Override the CDN root for this run",
   "  --react-version VERSION",
   "                         Override the pinned React version for this run",
   "  -h, --help             Print help",
   "  -V, --version          Print version"]

/-- Writes the events and the message or the output of a run. -/
def Outcome.write (o : Outcome) : IO Unit := do
  for event in o.logged do
    IO.eprintln event.toJsonLine
  match o.ending with
  | .succeeded output => IO.print output
  | .helped => helpLines.forM fun line => IO.println line
  | .failed failure => IO.eprintln ("Error: " ++ failure.message)
  | .refused _ => IO.eprintln "error: the command line is not understood"

end CommandLine

end ImportMaps

/-- Runs the program on its arguments; the result is its exit status. -/
def main (args : List String) : IO UInt32 := do
  let environment ← IO.getEnv "ESMAP_CONFIG"
  let outcome ← (ImportMaps.CommandLine.run environment args).carryOut
  outcome.write
  return outcome.ending.status.toUInt32
