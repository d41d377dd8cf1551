import ImportMaps.Proofs.CommandLine.Detail
import ImportMaps.Proofs.Source.Coverage

/-!
# ImportMaps — the log of a scan tells what the scan does

A line of the log has a level, and fields with a message among them. Here the log of a
scan is put together from the settings and the texts of the sources alone
(`scanLog`): the matches of a text in order, and after them how many of them import
something and how many bytes the text has; around that, for a source that was named, its
path and the size of its map. The numbers are counted from the lines before them and
from the seed, not taken from the run.

The run comes to the same lines in another way. It tells of each source when it has read
it, and its counts are the sizes of the list of imports and of the map that it makes of
this source, with the seed in it.

Main results:

* `lines_sourceEvents` — one source: the events of the run are the lines counted here.
* `lines_scanReport` — all sources, by induction on their names (`events_reportOf`).
* `run_scan_log` — a scan that can read everything logs this, or only its coarser lines
  when less detail is asked for, and what is asked for changes nothing else.
-/

namespace ImportMaps.CommandLine

/-! ## The lines of a log -/

/-- A line of the log as it is written: its level, the part of the program that it comes
from, and its fields, the message among them. -/
structure LogLine where
  level : Level
  target : String
  fields : List (String × FieldValue)
  deriving DecidableEq, Repr

/-- The line that an event is written as. -/
def Event.line (e : Event) : LogLine :=
  ⟨e.level, e.target, e.fields⟩

namespace LogLine

def isTrace (l : LogLine) : Bool :=
  l.level = .trace

/-- The line says that a match imports something. -/
def isMatched (l : LogLine) : Bool :=
  l.fields.lookup "message" = some (.text "matched import")

/-- The specifier that a line tells of. -/
def specifier? (l : LogLine) : Option String :=
  match l.fields.lookup "specifier" with
  | some (.text specifier) => some specifier
  | _ => none

/-- The settings, with the host as it was given. -/
def settled (config : Config) : LogLine :=
  ⟨.debug, "esmap::commands::scan",
    [("message", .text "resolver config"), ("host", .text config.resolutionHost),
      ("react", .text config.reactVersion)]⟩

/-- A source is a file. -/
def ofFile (name : String) : LogLine :=
  ⟨.debug, "esmap_core::resolve", [("message", .text "scanning file"), ("path", .text name)]⟩

/-- A match is selected: one that imports something, or one without a specifier. -/
def ofMatch (o : Occurrence) : LogLine :=
  if o.declaration.specifier = [] then
    ⟨.trace, "esmap_core::imports::scan",
      [("message", .text "skipping empty specifier"), ("offset", .number o.offset),
        ("form", .text o.declaration.form.label)]⟩
  else
    ⟨.trace, "esmap_core::imports::scan",
      [("message", .text "matched import"), ("offset", .number o.offset),
        ("form", .text o.declaration.form.label),
        ("specifier", .text (String.ofList o.declaration.specifier))]⟩

/-- A source is done: it has so many imports and bytes. -/
def ofSource (imports bytes : Nat) : LogLine :=
  ⟨.debug, "esmap_core::resolve",
    [("message", .text "scanned source"), ("imports", .number imports), ("bytes", .number bytes)]⟩

/-- The map of a named source has so many entries. -/
def ofMap (name : String) (entries : Nat) : LogLine :=
  ⟨.debug, "esmap::commands::scan",
    [("message", .text "scanned"), ("file", .text name), ("entries", .number entries)]⟩

end LogLine

/-- The lines of the matches that the scan of a text selects, in order. -/
def traceLog (text : String) : List LogLine :=
  (Source.occurrences text.toList).map LogLine.ofMatch

/-- The lines of a text: its matches, and how many of them import something. -/
def textLog (text : String) : List LogLine :=
  traceLog text ++ [.ofSource ((traceLog text).countP LogLine.isMatched) text.utf8ByteSize]

/-- The lines of a named source: whether it is a file, its text, and how many specifiers
there are when those of the seed and of its matches are counted once each. -/
def sourceLog (r : Resolver) (name text : String) : List LogLine :=
  (if name = inputName then [] else [.ofFile name]) ++ textLog text ++
    [.ofMap name
      (r.seed.specifiers ++ (traceLog text).filterMap LogLine.specifier?).eraseDups.length]

/-- The log of a scan: its settings, and then its sources in order. When none are named,
the text is that of the standard input. -/
def scanLog (config : Config) (names texts : List String) : List LogLine :=
  .settled config ::
    if names = [] then texts.flatMap textLog
    else (names.zip texts).flatMap fun source => sourceLog (.ofConfig config) source.1 source.2

/-! ## One source -/

/-- **The line of a match** is that of its event, says so exactly if the match is
reported, and tells the specifier that is reported. -/
theorem LogLine.ofMatch_eq (o : Occurrence) :
    (Event.ofOccurrence o).line = ofMatch o ∧ (ofMatch o).isMatched = o.import?.isSome ∧
      (ofMatch o).specifier? = o.import?.map (·.specifier) := by
  by_cases hempty : o.declaration.specifier = []
  · have hnone : o.import? = none := by
      simp [Occurrence.import?, hempty]
    rw [Event.ofOccurrence, hnone, ofMatch, if_pos hempty]
    exact ⟨rfl, rfl, rfl⟩
  · have hsome : o.import? =
        some ⟨o.offset, o.declaration.form, String.ofList o.declaration.specifier⟩ := by
      simp [Occurrence.import?, hempty]
    rw [Event.ofOccurrence, hsome, ofMatch, if_neg hempty]
    exact ⟨rfl, rfl, rfl⟩

/-- The lines that say so are as many as the imports. -/
theorem countP_isMatched_traceLog (text : String) :
    (traceLog text).countP LogLine.isMatched = (Source.imports text).length := by
  rw [traceLog, List.countP_map, Source.imports, List.length_filterMap_eq_countP]
  congr 1
  funext o
  exact (LogLine.ofMatch_eq o).2.1

theorem filterMap_specifier?_traceLog (text : String) :
    (traceLog text).filterMap LogLine.specifier? = Source.specifiers text := by
  rw [traceLog, List.filterMap_map, Source.specifiers, Source.imports, List.map_filterMap]
  congr 1
  funext o
  exact (LogLine.ofMatch_eq o).2.2

theorem lines_scanEvents (text : String) : (scanEvents text).map Event.line = textLog text := by
  rw [scanEvents, textLog, countP_isMatched_traceLog, List.map_append, List.map_map, traceLog]
  congr 1
  exact List.map_congr_left fun o _ => (LogLine.ofMatch_eq o).1

theorem size_scan (r : Resolver) (text : String) :
    (r.scan text).size = (r.seed.specifiers ++ Source.specifiers text).eraseDups.length := by
  show (r.mapOf (Source.imports text)).entries.length = _
  rw [r.entries_mapOf, List.length_map]
  rfl

theorem lines_sourceEvents (r : Resolver) (name text : String) :
    (sourceEvents r name text).map Event.line = sourceLog r name text := by
  rw [sourceEvents, sourceLog, List.map_append, List.map_append, lines_scanEvents, size_scan,
    filterMap_specifier?_traceLog]
  by_cases hname : name = inputName
  · rw [if_pos hname, if_pos hname]
    rfl
  · rw [if_neg hname, if_neg hname]
    rfl

/-! ## All sources -/

/-- The events of named sources that all have texts, by induction on the names. -/
theorem events_reportOf (r : Resolver) {text : String → Except Failure String}
    {names texts : List String}
    (htexts : List.Forall₂ (fun name source => text name = .ok source) names texts)
    (map : ImportMap) :
    (reportOf r text map names).events =
      (names.zip texts).flatMap fun source => sourceEvents r source.1 source.2 := by
  induction htexts generalizing map with
  | nil => rfl
  | cons hname _ ih =>
    rw [reportOf, hname, List.zip_cons_cons, List.flatMap_cons, ← ih]
    rfl

theorem lines_scanReport (config : Config) {text : String → Except Failure String}
    {names texts : List String} (htexts : (sourceNames names).mapM text = .ok texts) :
    .settled config :: (scanReport (.ofConfig config) text names).events.map Event.line =
      scanLog config names texts := by
  rw [mapM_eq_ok_iff] at htexts
  cases names with
  | nil =>
    cases htexts with
    | cons hinput hrest =>
      cases hrest
      rw [scanReport, if_pos List.isEmpty_nil, hinput, scanLog, if_pos rfl,
        List.flatMap_singleton, ← lines_scanEvents]
  | cons name names =>
    rw [scanLog, if_neg (List.cons_ne_nil _ _)]
    show _ :: (reportOf _ text _ (name :: names)).events.map Event.line = _
    have hevents := events_reportOf (.ofConfig config) htexts (Resolver.ofConfig config).seed
    rw [sourceNames, if_neg (by simp)] at hevents
    rw [hevents, List.map_flatMap]
    simp only [lines_sourceEvents]

/-! ## How much is shown -/

theorem filter_isShown_of_two_le {verbosity : Nat} (h : 2 ≤ verbosity) (events : List Event) :
    events.filter (·.isShown verbosity) = events := by
  refine List.filter_eq_self.2 fun e _ => ?_
  unfold Event.isShown
  cases e.level with
  | debug => exact decide_eq_true (Nat.le_of_succ_le h)
  | trace => exact decide_eq_true h

theorem isShown_one (e : Event) : e.isShown 1 = !e.line.isTrace := by
  show e.isShown 1 = !decide (e.level = .trace)
  unfold Event.isShown
  cases e.level <;> rfl

/-- Asked for once, more detail leaves out the lines of the matches. -/
theorem lines_filter_isShown_one (events : List Event) :
    (events.filter (·.isShown 1)).map Event.line =
      (events.map Event.line).filter (!·.isTrace) := by
  rw [List.filter_map]
  congr 1
  exact List.filter_congr fun e _ => isShown_one e

/-! ## The log of a run -/

section Outcomes

variable {environment : Option String} {args : List String} {verbosity : Nat} {json : Bool}
variable {request : ScanRequest} {files : String → Contents} {bytes : ByteArray}

/-- The lines that a run logs. -/
def Outcome.log (o : Outcome) : List LogLine :=
  o.logged.map Event.line

/-- The lines of all events of the command, when it can read everything. -/
theorem lines_scanCommand {given : Config.Given} {texts : List String}
    (hgives : request.FileGives files given)
    (htexts : (sourceNames request.files).mapM (textOf files bytes) = .ok texts) :
    ((scanCommand request).runIn files (.ofBytes bytes)).1.events.map Event.line =
      scanLog (request.settings given) request.files texts := by
  rw [runIn_scanCommand, ScanRequest.loadSettings_eq_ok_iff.2 ⟨given, hgives, rfl⟩]
  exact lines_scanReport _ htexts

theorem log_outcome
    (hargs : Invocation.ofArguments environment args = .ok ⟨verbosity, true, .scan request⟩) :
    (outcome environment args files bytes).log =
      (((scanCommand request).runIn files (.ofBytes bytes)).1.events.filter
        (·.isShown verbosity)).map Event.line := by
  rw [Outcome.log, outcome, outcome_run hargs]
  rfl

/-- **The log tells what a scan does, and does not interfere.** When a scan succeeds, its
settings and texts determine a log: every run with the same request that logs as JSON
shows it, in full if more detail is asked for twice or more often, and without the lines
of the matches if once. The matches of each text are told with increasing offsets.

Whether it succeeds or not, every run with the same request ends in the same way, with
the same status, output and message. Switches in front of the command's name lead to such
runs, however often more detail is asked for and with or without JSON. So do switches for
detail at any place of a command line, whatever else stands there. -/
theorem run_scan_log
    (hargs : Invocation.ofArguments environment args = .ok ⟨verbosity, json, .scan request⟩)
    (files : String → Contents) (bytes : ByteArray) :
    (∀ output, (outcome environment args files bytes).ending = .succeeded output →
      ∃ given texts log,
        request.FileGives files given ∧
        (sourceNames request.files).mapM (textOf files bytes) = .ok texts ∧
        log = scanLog (request.settings given) request.files texts ∧
        (∀ text ∈ texts, (Source.occurrences text.toList).Pairwise fun a b => a.offset < b.offset) ∧
        ∀ environment' args' verbosity', Invocation.ofArguments environment' args' =
            .ok ⟨verbosity', true, .scan request⟩ →
          (2 ≤ verbosity' → (outcome environment' args' files bytes).log = log) ∧
          (verbosity' = 1 →
            (outcome environment' args' files bytes).log = log.filter (!·.isTrace))) ∧
    (∀ environment' args' verbosity' json', Invocation.ofArguments environment' args' =
        .ok ⟨verbosity', json', .scan request⟩ →
      (outcome environment' args' files bytes).ending =
        (outcome environment args files bytes).ending) ∧
    (∀ rest, args = "scan" :: rest → ∀ times json',
      Invocation.ofArguments environment (detailed times json' rest) =
        .ok ⟨if verbosity = 0 then times else verbosity, json || json', .scan request⟩ ∧
      (outcome environment (detailed times json' rest) files bytes).ending =
        (outcome environment args files bytes).ending) ∧
    (∀ l : ScanLine, l.Asks environment args → ∀ (l' : ScanLine) (args' : List String),
      l'.undetailed = l.undetailed → (l'.outer.map Prod.fst).count .json ≤ 1 →
      (l'.inner.map Prod.fst).count .json ≤ 1 → l'.Written args' →
      Invocation.ofArguments environment args' =
        .ok ⟨l'.verbosity, l'.json, .scan request⟩ ∧
      (outcome environment args' files bytes).ending =
        (outcome environment args files bytes).ending) := by
  refine ⟨?_, fun _ _ _ _ hargs' => ending_outcome_congr hargs hargs' files bytes, ?_, ?_⟩
  · intro output hsucceeded
    rw [outcome, ending_run hargs] at hsucceeded
    cases hresult : ((scanCommand request).runIn files (.ofBytes bytes)).1.result with
    | error failure => rw [hresult] at hsucceeded; cases hsucceeded
    | ok map =>
      obtain ⟨given, texts, hgives, htexts, -⟩ := result_scanCommand_eq_ok_iff.1 hresult
      have hlines := lines_scanCommand hgives htexts
      refine ⟨given, texts, _, hgives, htexts, rfl, ?_, ?_⟩
      · intro text _
        exact (Source.plainScan_occurrences text.toList).pairwise_offset
      · intro environment' args' verbosity' hargs'
        rw [log_outcome hargs', ← hlines]
        refine ⟨?_, ?_⟩
        · intro htwo
          rw [filter_isShown_of_two_le htwo]
        · rintro rfl
          exact lines_filter_isShown_one _
  · rintro rest rfl times json'
    have hdetailed := ofArguments_detailed hargs times json'
    exact ⟨hdetailed, ending_outcome_congr hargs hdetailed files bytes⟩
  · intro l hasks l' args' hsame houter hinner hwritten
    have hargs' : Invocation.ofArguments environment args' =
        .ok ⟨l'.verbosity, l'.json, .scan request⟩ := by
      have hl := Except.ok.inj (hasks.ofArguments.symm.trans hargs)
      have hrequest : l'.request environment = request :=
        (ScanLine.request_eq_of_undetailed hsame).trans
          (Command.scan.inj (Invocation.mk.inj hl).2.2)
      rw [← hrequest]
      exact (hasks.of_undetailed hsame houter hinner hwritten).ofArguments
    exact ⟨hargs', ending_outcome_congr hargs hargs' files bytes⟩

/-- A match without a specifier in a file, and a specifier of the seed on the standard
input: the number of entries grows by one with the first source only. -/
theorem run_scan_log_emptySpecifier :
    ∃ (files : String → Contents) (bytes : ByteArray) (log : List LogLine),
      files = (fun path =>
        if path = "a.js" then .ok "import '';import 'y'".toUTF8 else .error .notFound) ∧
      bytes = "import x from 'react'".toUTF8 ∧
      log = [.settled .standard, .ofFile "a.js",
        ⟨.trace, "esmap_core::imports::scan", [("message", .text "skipping empty specifier"),
          ("offset", .number 0), ("form", .text "side_effect")]⟩,
        ⟨.trace, "esmap_core::imports::scan", [("message", .text "matched import"),
          ("offset", .number 10), ("form", .text "side_effect"), ("specifier", .text "y")]⟩,
        .ofSource 1 20, .ofMap "a.js" 4,
        ⟨.trace, "esmap_core::imports::scan", [("message", .text "matched import"),
          ("offset", .number 0), ("form", .text "default"), ("specifier", .text "react")]⟩,
        .ofSource 1 21, .ofMap "-" 3] ∧
      (outcome none ["-vv", "--json", "scan", "a.js", "-"] files bytes).log = log ∧
      (outcome none ["scan", "a.js", "--json", "-", "-v"] files bytes).log =
        log.filter (!·.isTrace) ∧
      (outcome none ["-vv", "--json", "scan", "a.js", "-"] files bytes).ending =
        (outcome none ["scan", "a.js", "-"] files bytes).ending ∧
      (outcome none ["--verbose", "scan", "-v", "a.js", "--json", "--", "-"] files bytes).ending =
        (outcome none ["scan", "a.js", "-"] files bytes).ending := by
  have hplain : Invocation.ofArguments none ["scan", "a.js", "-"] =
      .ok ⟨0, false, .scan ⟨["a.js", "-"], none, none, none, .compact⟩⟩ := rfl
  have htrace : Invocation.ofArguments none ["-vv", "--json", "scan", "a.js", "-"] =
      .ok ⟨2, true, .scan ⟨["a.js", "-"], none, none, none, .compact⟩⟩ := rfl
  have hdebug : Invocation.ofArguments none ["scan", "a.js", "--json", "-", "-v"] =
      .ok ⟨1, true, .scan ⟨["a.js", "-"], none, none, none, .compact⟩⟩ := rfl
  obtain ⟨hlog, hending, -, hlines⟩ := run_scan_log hplain
    (fun path => if path = "a.js" then .ok "import '';import 'y'".toUTF8 else .error .notFound)
    "import x from 'react'".toUTF8
  obtain ⟨given, texts, log, hgives, htexts, rfl, -, hshown⟩ := hlog
    ("\x7b\"imports\":\x7b\"react\":\"https://esm.sh/react@18.2.0\"," ++
      "\"react-dom/\":\"https://esm.sh/react-dom@18.2.0/\"," ++
      "\"react-error-boundary\":" ++
        "\"https://esm.sh/react-error-boundary/?deps=react@18.2.0\"," ++
      "\"y\":\"https://esm.sh/y\"\x7d\x7d\n") (by decide +kernel)
  -- the settings are the defaults, and both sources have their texts
  obtain rfl : given = {} := hgives
  have hread : (sourceNames ["a.js", "-"]).mapM (textOf
      (fun path => if path = "a.js" then .ok "import '';import 'y'".toUTF8 else .error .notFound)
      "import x from 'react'".toUTF8) =
        .ok ["import '';import 'y'", "import x from 'react'"] := by
    decide +kernel
  obtain rfl := Except.ok.inj (htexts.symm.trans hread)
  refine ⟨_, _, _, rfl, rfl, ?_, (hshown _ _ _ htrace).1 (by decide),
    (hshown _ _ _ hdebug).2 rfl, hending _ _ _ _ htrace, ?_⟩
  · decide +kernel
  · have hasks : ScanLine.Asks ⟨[], [], ["a.js", "-"]⟩ none ["scan", "a.js", "-"] := by
      refine ⟨⟨[], _, rfl, .nil, ?_⟩, by decide, by decide, by decide, nofun⟩
      exact .path (.inr (by decide)) (.path (.inl rfl) .nil)
    have hwritten : ScanLine.Written
        ⟨[(.verbose, "")], [(.verbose, ""), (.json, "")], ["a.js", "-"]⟩
        ["--verbose", "scan", "-v", "a.js", "--json", "--", "-"] := by
      refine ⟨["--verbose"], _, rfl, .flag (by decide) (by decide) rfl .nil, ?_⟩
      exact .cluster (by decide) (List.cons_ne_nil _ _) (.cons ⟨by decide, rfl⟩ .nil)
        (.path (.inr (by decide)) (.flag (by decide) (by decide) rfl .paths))
    exact (hlines _ hasks _ _ (by decide) (by decide) (by decide) hwritten).2

end Outcomes

end ImportMaps.CommandLine
