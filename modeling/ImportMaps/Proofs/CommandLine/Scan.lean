import ImportMaps.CommandLine.Run
import ImportMaps.Proofs.CommandLine.Line
import ImportMaps.Proofs.CommandLine.Report
import ImportMaps.Proofs.Failure
import Mathlib.Control.Monad.Basic

/-!
# ImportMaps — what a scan prints

A scan is settled by three things: what its settings file gives
(`ScanRequest.FileGives`), the texts of its sources in order (`StandsFor`), and its
command line (`ScanLine`). Each setting is looked for on the command line, then in the
file, and has its default otherwise (`ScanRequest.settings`); the two settings do not
depend on each other. The command line also says how the map is printed.

Nothing of the way to the output shows in it, neither the maps of single sources
nor the seed that each of them brings along.

Main result:

* `run_scan_succeeded_iff` — a scan succeeds exactly when its settings and all of
  its sources can be read, and what it prints is then the map with the seed's
  specifiers and those of all sources, each at its first occurrence and with the
  URL that it resolves to, written as the command line says.
-/

namespace ImportMaps.CommandLine

/-! ## Settings -/

/-- What the settings file of a request gives: nothing, when no file is named. -/
def ScanRequest.FileGives (request : ScanRequest) (files : String → Contents)
    (given : Config.Given) : Prop :=
  match request.config with
  | none => given = {}
  | some path =>
    ∃ text, (files path).text = .ok text ∧ Config.Given.ofJson text = .ok given

/-- The settings of a request, each on its own: the one of the command line, or else
that of the file, or else the default. -/
def ScanRequest.settings (request : ScanRequest) (given : Config.Given) : Config where
  resolutionHost :=
    (request.host <|> given.resolutionHost).getD Config.standard.resolutionHost
  reactVersion :=
    (request.reactVersion <|> given.reactVersion).getD Config.standard.reactVersion

theorem ScanRequest.override_complete (request : ScanRequest) (given : Config.Given) :
    request.override given.complete = request.settings given := by
  obtain ⟨files, config, host, reactVersion, layout⟩ := request
  cases host with
  | none => cases reactVersion <;> rfl
  | some host => cases reactVersion <;> rfl

variable {files : String → Contents} {bytes : ByteArray} {stream : InputStream}
variable {request : ScanRequest}

/-- **Settings**: they are found exactly when their file can be read. -/
theorem ScanRequest.loadSettings_eq_ok_iff {config : Config} :
    request.loadSettings files = .ok config ↔
      ∃ given, request.FileGives files given ∧ request.settings given = config := by
  unfold ScanRequest.loadSettings ScanRequest.FileGives
  cases request.config with
  | none =>
    show Except.ok (request.override (Config.Given.complete {})) = _ ↔ _
    rw [request.override_complete]
    simp
  | some path =>
    show (Config.load path (files path)).map request.override = _ ↔ _
    constructor
    · intro h
      cases hload : Config.load path (files path) with
      | error failure => rw [hload] at h; cases h
      | ok loaded =>
        obtain ⟨text, htext, given, hgiven, rfl⟩ := Config.load_eq_ok_iff.1 hload
        rw [hload] at h
        refine ⟨given, ⟨text, htext, hgiven⟩, ?_⟩
        rw [← request.override_complete]
        exact Except.ok.inj h
    · -- values of the command line go over those of the file, missing ones have their defaults
      rintro ⟨given, ⟨text, htext, hgiven⟩, rfl⟩
      rw [Config.load_eq_ok_iff.2 ⟨text, htext, given, hgiven, rfl⟩,
        ← request.override_complete]
      rfl

/-! ## Sources -/

/-- A text that a name among the sources stands for: a dash for what is on the standard
input, and any other name for what is in the file. -/
def StandsFor (files : String → Contents) (bytes : ByteArray) (name text : String) : Prop :=
  if name = "-" then bytes = text.toByteArray else files name = .ok text.toByteArray

instance (files : String → Contents) (bytes : ByteArray) (name text : String) :
    Decidable (StandsFor files bytes name text) :=
  inferInstanceAs
    (Decidable (if name = "-" then bytes = text.toByteArray else files name = .ok text.toByteArray))

theorem inputText_eq_ok_iff {text : String} :
    inputText bytes = .ok text ↔ bytes = text.toByteArray := by
  rw [inputText, ← Text.fromUTF8?_eq_some_iff]
  cases String.fromUTF8? bytes <;> simp

theorem textOf_eq_ok_iff {name text : String} :
    textOf files bytes name = .ok text ↔ StandsFor files bytes name text := by
  rw [textOf, StandsFor, inputName]
  by_cases hinput : name = "-"
  · rw [if_pos hinput, if_pos hinput, inputText_eq_ok_iff]
  · rw [if_neg hinput, if_neg hinput, ← Contents.text_eq_ok_iff, sourceText]
    cases (files name).text <;> simp

/-- The sources have texts exactly when each of them stands for its own. -/
theorem mapM_textOf_eq_ok_iff {names texts : List String} :
    names.mapM (textOf files bytes) = .ok texts ↔
      List.Forall₂ (StandsFor files bytes) names texts := by
  rw [mapM_eq_ok_iff]
  simp only [textOf_eq_ok_iff]

/-! ## The command -/

/-- The command has a result exactly when it has settings and all texts. -/
theorem result_scanCommand_eq_ok_iff {map : ImportMap} :
    ((scanCommand request).runIn files (.ofBytes bytes)).1.result = .ok map ↔
      ∃ given texts, request.FileGives files given ∧
        (sourceNames request.files).mapM (textOf files bytes) = .ok texts ∧
        (Resolver.ofConfig (request.settings given)).mapOf
          (texts.flatMap Source.imports) = map := by
  rw [runIn_scanCommand]
  constructor
  · intro h
    cases hload : request.loadSettings files with
    | error failure => rw [hload] at h; cases h
    | ok config =>
      obtain ⟨given, hgives, rfl⟩ := ScanRequest.loadSettings_eq_ok_iff.1 hload
      rw [hload] at h
      -- the event in front of the report does not matter to its result
      have hresult : (scanReport (.ofConfig (request.settings given)) (textOf files bytes)
        request.files).result = .ok map := h
      rw [result_scanReport] at hresult
      cases htexts : (sourceNames request.files).mapM (textOf files bytes) with
      | error failure => rw [htexts] at hresult; cases hresult
      | ok texts =>
        rw [htexts] at hresult
        exact ⟨given, texts, hgives, rfl, Except.ok.inj hresult⟩
  · rintro ⟨given, texts, hgives, htexts, rfl⟩
    rw [ScanRequest.loadSettings_eq_ok_iff.2 ⟨given, hgives, rfl⟩]
    show (scanReport _ (textOf files bytes) request.files).result = _
    rw [result_scanReport, htexts]
    rfl

section Outcomes

variable {environment : Option String} {args : List String} {verbosity : Nat} {json : Bool}

/-- The outcome of a run is what the command's report comes to. -/
theorem outcome_run
    (hargs : Invocation.ofArguments environment args = .ok ⟨verbosity, json, .scan request⟩) :
    ((run environment args).runIn files stream).1 =
      scanOutcome ⟨verbosity, json, .scan request⟩ request.layout
        ((scanCommand request).runIn files stream).1 := by
  rw [run, hargs]
  show (((scanCommand request).map _).runIn files stream).1 = _
  rw [Script.runIn_map]

/-- A run ends well exactly when the command has a result. -/
theorem ending_run
    (hargs : Invocation.ofArguments environment args = .ok ⟨verbosity, json, .scan request⟩) :
    ((run environment args).runIn files stream).1.ending =
      match ((scanCommand request).runIn files stream).1.result with
      | .ok map => .succeeded (request.layout.print map ++ "\n")
      | .error failure => .failed failure := by
  rw [outcome_run hargs]
  rfl

/-- The outcome of a run in a world of files and with these bytes on the standard
input. -/
def outcome (environment : Option String) (args : List String) (files : String → Contents)
    (bytes : ByteArray) : Outcome :=
  ((run environment args).runIn files (.ofBytes bytes)).1

/-- A scan prints something with status zero exactly when it has a map to print. -/
theorem status_output_outcome_iff
    (hargs : Invocation.ofArguments environment args = .ok ⟨verbosity, json, .scan request⟩)
    {output : String} :
    (outcome environment args files bytes).ending.status = 0 ∧
        (outcome environment args files bytes).ending.output = output ↔
      ∃ map, ((scanCommand request).runIn files (.ofBytes bytes)).1.result = .ok map ∧
        request.layout.print map ++ "\n" = output := by
  rw [outcome, ending_run hargs]
  cases ((scanCommand request).runIn files (.ofBytes bytes)).1.result with
  | error failure => simp [Ending.status]
  | ok map => simp [Ending.status, Ending.output]

/-- A map as the switches of a line want it. -/
theorem print_layout (l : ScanLine) (map : ImportMap) :
    l.layout.print map =
      if l.gives .html then map.toScriptTag
      else if l.gives .pretty then map.toJsonIndented
      else map.toJson := by
  rw [ScanLine.layout]
  split
  · rfl
  · split <;> rfl

/-- **The scan command**: a command line that asks for a scan has status zero and an output
exactly when its settings and all of its sources can be read, and the output is the map
whose specifiers are the first occurrences among those of the seed and of all sources in
order, each with the URL that it resolves to. It is written as a script element, as JSON over
several lines, or else as JSON on one line, and a line break ends it. -/
theorem run_scan_succeeded_iff {l : ScanLine} (hasks : l.Asks environment args)
    (files : String → Contents) (bytes : ByteArray) (output : String) :
    (outcome environment args files bytes).ending.status = 0 ∧
        (outcome environment args files bytes).ending.output = output ↔
      ∃ (given : Config.Given) (texts : List String) (resolver : Resolver) (map : ImportMap),
        (l.request environment).FileGives files given ∧
        List.Forall₂ (StandsFor files bytes) (sourceNames l.files) texts ∧
        resolver = Resolver.ofConfig ((l.request environment).settings given) ∧
        map.entries =
          (resolver.seed.specifiers ++ texts.flatMap Source.specifiers).eraseDups.map
            (fun specifier => (specifier, resolver.resolve specifier)) ∧
        output =
          (if l.gives .html then map.toScriptTag
            else if l.gives .pretty then map.toJsonIndented
            else map.toJson) ++ "\n" := by
  rw [status_output_outcome_iff hasks.ofArguments]
  constructor
  · rintro ⟨map, hresult, rfl⟩
    obtain ⟨given, texts, hgives, htexts, rfl⟩ := result_scanCommand_eq_ok_iff.1 hresult
    refine ⟨given, texts, _, _, hgives, mapM_textOf_eq_ok_iff.1 htexts, rfl,
      Resolver.entries_mapOf_sources _ texts, ?_⟩
    rw [← print_layout]
    rfl
  · rintro ⟨given, texts, _, map, hgives, htexts, rfl, hentries, rfl⟩
    -- a map is known from its entries, so this is the one that the command makes
    have hmap : (Resolver.ofConfig ((l.request environment).settings given)).mapOf
        (texts.flatMap Source.imports) = map :=
      ImportMap.ext_entries ((Resolver.entries_mapOf_sources _ texts).trans hentries.symm)
    refine ⟨map, result_scanCommand_eq_ok_iff.2
      ⟨given, texts, hgives, mapM_textOf_eq_ok_iff.2 htexts, hmap⟩, ?_⟩
    rw [← print_layout]
    rfl

/-- The three layouts. The settings file is named behind the command's name, in the
environment, or in front of the command's name; the host or the version of the command line
goes over its own. The sources are a file that is named twice with a dash between, a dash
behind the end of the switches, or none. -/
theorem run_scan_succeeded_layouts :
    ∃ (files : String → Contents) (bytes : ByteArray),
      files = (fun path =>
        if path = "c" then
          .ok "\x7b\"resolutionHost\":\"//h\",\"reactVersion\":\"19\"\x7d".toUTF8
        else if path = "a.js" then .ok "import 'preact'".toUTF8
        else .error .notFound) ∧
      bytes = "import 'z';import 'react'".toUTF8 ∧
      (outcome none ["scan", "--config", "c", "--host", "//cdn/", "a.js", "-", "a.js"]
          files bytes).ending.output =
        "\x7b\"imports\":\x7b\"react\":\"//cdn/react@19\"," ++
          "\"react-dom/\":\"//cdn/react-dom@19/\"," ++
          "\"react-error-boundary\":\"//cdn/react-error-boundary/?deps=react@19\"," ++
          "\"preact\":\"//cdn/preact?deps=react@19\",\"z\":\"//cdn/z\"\x7d\x7d\n" ∧
      (outcome (some "c") ["scan", "--pretty", "--", "-"] files bytes).ending.output =
        "\x7b\n  \"imports\": \x7b\n    \"react\": \"//h/react@19\",\n" ++
          "    \"react-dom/\": \"//h/react-dom@19/\",\n" ++
          "    \"react-error-boundary\": \"//h/react-error-boundary/?deps=react@19\",\n" ++
          "    \"z\": \"//h/z\"\n  \x7d\n\x7d\n" ∧
      (outcome none ["--config", "c", "scan", "--html", "--react-version=18"]
          files bytes).ending.output =
        "<script type=\"importmap\">\n\x7b\n  \"imports\": \x7b\n" ++
          "    \"react\": \"//h/react@18\",\n" ++
          "    \"react-dom/\": \"//h/react-dom@18/\",\n" ++
          "    \"react-error-boundary\": \"//h/react-error-boundary/?deps=react@18\",\n" ++
          "    \"z\": \"//h/z\"\n  \x7d\n\x7d\n</script>\n" := by
  have hcompact : ScanLine.Asks ⟨[], [(.config, "c"), (.host, "//cdn/")], ["a.js", "-", "a.js"]⟩
      none ["scan", "--config", "c", "--host", "//cdn/", "a.js", "-", "a.js"] := by
    refine ⟨⟨[], _, rfl, .nil, ?_⟩, by decide, by decide, by decide, nofun⟩
    exact .apart (by decide) (by decide) rfl (.inr (by decide))
      (.apart (by decide) (by decide) rfl (.inr (by decide))
        (.path (.inr (by decide)) (.path (.inl rfl) (.path (.inr (by decide)) .nil))))
  have hpretty : ScanLine.Asks ⟨[], [(.pretty, "")], ["-"]⟩
      (some "c") ["scan", "--pretty", "--", "-"] := by
    refine ⟨⟨[], _, rfl, .nil, ?_⟩, by decide, by decide, by decide, by decide⟩
    exact .flag (by decide) (by decide) rfl .paths
  have hhtml : ScanLine.Asks ⟨[(.config, "c")], [(.html, ""), (.reactVersion, "18")], []⟩
      none ["--config", "c", "scan", "--html", "--react-version=18"] := by
    refine ⟨⟨["--config", "c"], _, rfl, ?_, ?_⟩, by decide, by decide, by decide, nofun⟩
    · exact .apart (by decide) (by decide) rfl (.inr (by decide)) .nil
    · exact .flag (by decide) (by decide) rfl (.joined (by decide) (by decide) rfl .nil)
  refine ⟨_, _, rfl, rfl, ((run_scan_succeeded_iff hcompact _ _ _).2 ?_).2,
    ((run_scan_succeeded_iff hpretty _ _ _).2 ?_).2, ((run_scan_succeeded_iff hhtml _ _ _).2 ?_).2⟩
  · refine ⟨⟨some "//h", some "19"⟩,
      ["import 'preact'", "import 'z';import 'react'", "import 'preact'"],
      ⟨"//cdn", "19"⟩, .ofHistory [("react", "//cdn/react@19"),
        ("react-dom/", "//cdn/react-dom@19/"),
        ("react-error-boundary", "//cdn/react-error-boundary/?deps=react@19"),
        ("preact", "//cdn/preact?deps=react@19"), ("z", "//cdn/z")],
      ⟨"\x7b\"resolutionHost\":\"//h\",\"reactVersion\":\"19\"\x7d", ?_, ?_⟩,
      .cons ?_ (.cons ?_ (.cons ?_ .nil)), ?_, ?_, ?_⟩
    all_goals decide +kernel
  · refine ⟨⟨some "//h", some "19"⟩, ["import 'z';import 'react'"], ⟨"//h", "19"⟩,
      .ofHistory [("react", "//h/react@19"), ("react-dom/", "//h/react-dom@19/"),
        ("react-error-boundary", "//h/react-error-boundary/?deps=react@19"), ("z", "//h/z")],
      ⟨"\x7b\"resolutionHost\":\"//h\",\"reactVersion\":\"19\"\x7d", ?_, ?_⟩,
      .cons ?_ .nil, ?_, ?_, ?_⟩
    all_goals decide +kernel
  · refine ⟨⟨some "//h", some "19"⟩, ["import 'z';import 'react'"], ⟨"//h", "18"⟩,
      .ofHistory [("react", "//h/react@18"), ("react-dom/", "//h/react-dom@18/"),
        ("react-error-boundary", "//h/react-error-boundary/?deps=react@18"), ("z", "//h/z")],
      ⟨"\x7b\"resolutionHost\":\"//h\",\"reactVersion\":\"19\"\x7d", ?_, ?_⟩,
      .cons ?_ .nil, ?_, ?_, ?_⟩
    all_goals decide +kernel

end Outcomes

end ImportMaps.CommandLine
