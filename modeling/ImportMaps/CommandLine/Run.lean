import ImportMaps.CommandLine.Scan

/-!
# ImportMaps — a run of the program

A run ends with a status: zero when all went well, one when something could not
be read, two when the command line was refused. Output is printed only in the
first case. `run` is the whole program as a script; what is printed and what is
logged is in its `Outcome`.

When help is asked for, the run ends at once and well. The wording of the help is
not part of a run; the outer layer has it.
-/

namespace ImportMaps

/-! ## Name and version -/

def programName : String := "esmap"

def version : String := "0.1.0"

def versionLine : String :=
  programName ++ " " ++ version

namespace CommandLine

/-! ## The end of a run -/

inductive Ending where
  /-- All went well; the output is printed. -/
  | succeeded (output : String)
  /-- Help was asked for, and is shown. -/
  | helped
  /-- Something could not be read. -/
  | failed (failure : Failure)
  /-- The command line was refused. -/
  | refused (error : UsageError)
  deriving DecidableEq, Repr

/-- The end of a run and the events that it logs as JSON. -/
structure Outcome where
  ending : Ending
  logged : List Event
  deriving DecidableEq, Repr

namespace Ending

def status : Ending → Nat
  | succeeded _ => 0
  | helped => 0
  | failed _ => 1
  | refused _ => 2

/-- What a run prints of its own. -/
def output : Ending → String
  | succeeded output => output
  | _ => ""

def message? : Ending → Option String
  | failed failure => some failure.message
  | _ => none

end Ending

/-! ## The program -/

/-- The events that an invocation logs as JSON. -/
def Invocation.logged (i : Invocation) (events : List Event) : List Event :=
  if i.json then events.filter (·.isShown i.verbosity) else []

def versionOutput (json : Bool) : String :=
  if json then
    String.ofList (Json.compactObject
      [("name", Json.quote programName), ("version", Json.quote version)]) ++ "\n"
  else
    versionLine ++ "\n"

def scanOutcome (i : Invocation) (layout : Layout) (r : Report ImportMap) : Outcome :=
  { ending :=
      match r.result with
      | .ok map => .succeeded (layout.print map ++ "\n")
      | .error failure => .failed failure
    logged := i.logged r.events }

def Invocation.run (i : Invocation) : Script Outcome :=
  match i.command with
  | .version => .done ⟨.succeeded (versionOutput i.json), []⟩
  | .scan request => (scanCommand request).map (scanOutcome i request.layout)

/-- The program: reads its command line, given the path of the settings file that
the environment holds, and carries it out. -/
def run (environment : Option String) (args : List String) : Script Outcome :=
  match Invocation.ofArguments environment args with
  | .error .versionWanted => .done ⟨.succeeded (versionLine ++ "\n"), []⟩
  | .error .helpWanted => .done ⟨.helped, []⟩
  | .error (.refused error) => .done ⟨.refused error, []⟩
  | .ok i => i.run

end CommandLine

end ImportMaps
