import ImportMaps.Proofs.CommandLine.Sources
import ImportMaps.Proofs.Resolver.Scan

/-!
# ImportMaps — the report of a scan, by its texts

A scan reads as it goes, but what it reports depends on the world in two ways only: on
the settings that are loaded (`ScanRequest.loadSettings`), and on the texts that the
names of its sources stand for (`textOf`). `reportOf` is that dependence as a plain
recursion over the names, without any reading.

The recursion ends at the first name without a text (`FirstFailure`). So names behind
it are not looked at, and neither are texts of names that do not occur:

* `runIn_scanCommand` — the report of the command is the one by its texts.
* `result_scanReport` — its map is the one of all imports of all texts.
* `result_scanReport_eq_error_iff` — it fails exactly with the first failure.
* `scanReport_congr`, `scanReport_of_error` — what the report does not depend on.
-/

namespace ImportMaps.CommandLine

/-! ## Reports by texts -/

/-- The report of going through named sources, by the texts they stand for. -/
def reportOf (r : Resolver) (text : String → Except Failure String) (map : ImportMap) :
    List String → Report ImportMap
  | [] => ⟨[], .ok map⟩
  | name :: names =>
    match text name with
    | .error failure => ⟨[], .error failure⟩
    | .ok source =>
      (reportOf r text (map.merge (r.scan source)) names).after (sourceEvents r name source)

/-- The report of all sources; without any, the standard input is scanned alone. -/
def scanReport (r : Resolver) (text : String → Except Failure String) (names : List String) :
    Report ImportMap :=
  if names.isEmpty then
    match text inputName with
    | .error failure => ⟨[], .error failure⟩
    | .ok source => ⟨scanEvents source, .ok (r.scan source)⟩
  else
    reportOf r text r.seed names

section Run

variable {files : String → Contents} {bytes : ByteArray} {held : Option String}
variable (r : Resolver)

/-- By induction on the names: each step finds the stream as what is held says. -/
theorem runIn_scanFiles (hheld : Holds bytes held) (map : ImportMap) (names : List String) :
    ((scanFiles r held map names).runIn files (streamAfter bytes held)).1 =
      reportOf r (textOf files bytes) map names := by
  induction names generalizing held map with
  | nil =>
    rw [scanFiles]
    rfl
  | cons name names ih =>
    rw [reportOf]
    cases htext : textOf files bytes name with
    | error failure => rw [runIn_scanFiles_cons_of_error r map names hheld htext]
    | ok source =>
      -- from here on the run holds this text if it was that of the stream
      rw [runIn_scanFiles_cons r map names hheld htext, scanRest, Script.runIn_map,
        ih (hheld.after htext)]

theorem runIn_scanSources (names : List String) :
    ((scanSources r names).runIn files (.ofBytes bytes)).1 =
      scanReport r (textOf files bytes) names := by
  cases names with
  | nil =>
    rw [scanSources, if_pos List.isEmpty_nil, scanReport, if_pos List.isEmpty_nil,
      Script.runIn_readInput, left_ofBytes, textOf, if_pos rfl]
    cases inputText bytes <;> rfl
  | cons name names => exact runIn_scanFiles r holds_none r.seed (name :: names)

/-- The settings of a request in a world. -/
def ScanRequest.loadSettings (request : ScanRequest) (files : String → Contents) :
    Except Failure Config :=
  match request.config with
  | none => .ok (request.override .standard)
  | some path => (Config.load path (files path)).map request.override

/-- Looking for the settings leaves the standard input alone. -/
theorem runIn_readConfig (request : ScanRequest) (stream : InputStream) :
    (readConfig request).runIn files stream = (request.loadSettings files, stream) := by
  unfold readConfig ScanRequest.loadSettings
  cases request.config <;> rfl

/-- **The command**: its report depends on the settings and on the texts alone. -/
theorem runIn_scanCommand (request : ScanRequest) :
    ((scanCommand request).runIn files (.ofBytes bytes)).1 =
      match request.loadSettings files with
      | .error failure => ⟨[], .error failure⟩
      | .ok config =>
        (scanReport (.ofConfig config) (textOf files bytes) request.files).after
          [.settled config.resolutionHost config.reactVersion] := by
  rw [scanCommand, Script.runIn_andThen, runIn_readConfig]
  cases request.loadSettings files with
  | error failure => rfl
  | ok config =>
    show (((scanSources (.ofConfig config) request.files).map _).runIn files _).1 = _
    rw [Script.runIn_map, runIn_scanSources]

end Run

/-! ## The map -/

/-- A scan has the map of the imports so far and of those of every text, when there are
all texts. -/
theorem result_reportOf (r : Resolver) (text : String → Except Failure String)
    (imports : List ScannedImport) (names : List String) :
    (reportOf r text (r.mapOf imports) names).result =
      (names.mapM text).map fun texts => r.mapOf (imports ++ texts.flatMap Source.imports) := by
  induction names generalizing imports with
  | nil => simp [reportOf, Except.map, pure, Except.pure]
  | cons name names ih =>
    rw [reportOf, List.mapM_cons]
    cases text name with
    | error failure => rfl
    | ok source =>
      -- the map that is merged with brings the seed along, which is there already
      show (reportOf r text ((r.mapOf imports).merge (r.scan source)) names).result = _
      rw [r.merge_scan, ih]
      cases names.mapM text with
      | error failure => rfl
      | ok texts =>
        show Except.ok (r.mapOf (imports ++ Source.imports source ++ texts.flatMap _)) =
          Except.ok (r.mapOf (imports ++ (source :: texts).flatMap _))
        rw [List.flatMap_cons, List.append_assoc]

theorem result_scanReport (r : Resolver) (text : String → Except Failure String)
    (names : List String) :
    (scanReport r text names).result = ((sourceNames names).mapM text).map
      fun texts => r.mapOf (texts.flatMap Source.imports) := by
  cases names with
  | nil =>
    show _ = ([inputName].mapM text).map _
    rw [scanReport, if_pos List.isEmpty_nil, List.mapM_cons]
    cases text inputName with
    | error failure => rfl
    | ok source =>
      show Except.ok (r.scan source) = Except.ok (r.mapOf ([source].flatMap Source.imports))
      rw [List.flatMap_singleton]
      rfl
  | cons name names => exact result_reportOf r text [] (name :: names)

/-! ## The first failure -/

section Failures

variable {text text' : String → Except Failure String} {names : List String}

/-- The first name that has no text, with the reason why it has none. -/
def FirstFailure (text : String → Except Failure String) (names : List String)
    (failure : Failure) : Prop :=
  ∃ before name after, names = before ++ name :: after ∧
    (∀ n ∈ before, ∃ source, text n = .ok source) ∧ text name = .error failure

theorem not_firstFailure_nil {failure : Failure} : ¬ FirstFailure text [] failure := by
  rintro ⟨before, name, after, hnames, -, -⟩
  cases before <;> cases hnames

theorem firstFailure_cons_of_error {name : String} {failure failure' : Failure}
    (hname : text name = .error failure') :
    FirstFailure text (name :: names) failure ↔ failure' = failure := by
  constructor
  · rintro ⟨before, other, after, hnames, hbefore, hother⟩
    cases before with
    | nil =>
      obtain ⟨rfl, rfl⟩ := List.cons.inj hnames
      exact Except.error.inj (hname.symm.trans hother)
    | cons first before =>
      -- the name itself has no text, so nothing can come before it
      obtain ⟨rfl, -⟩ := List.cons.inj hnames
      obtain ⟨source, hsource⟩ := hbefore name List.mem_cons_self
      cases hname.symm.trans hsource
  · rintro rfl
    exact ⟨[], name, names, rfl, nofun, hname⟩

theorem firstFailure_cons_of_ok {name source : String} {failure : Failure}
    (hname : text name = .ok source) :
    FirstFailure text (name :: names) failure ↔ FirstFailure text names failure := by
  constructor
  · rintro ⟨before, other, after, hnames, hbefore, hother⟩
    cases before with
    | nil =>
      -- the failing name would be this one, which has a text
      obtain ⟨rfl, rfl⟩ := List.cons.inj hnames
      cases hname.symm.trans hother
    | cons first before =>
      obtain ⟨rfl, rfl⟩ := List.cons.inj hnames
      exact ⟨before, other, after, rfl, fun n hn => hbefore n (List.mem_cons_of_mem _ hn), hother⟩
  · rintro ⟨before, other, after, rfl, hbefore, hother⟩
    refine ⟨name :: before, other, after, rfl, ?_, hother⟩
    intro n hn
    rcases List.mem_cons.1 hn with rfl | hn
    · exact ⟨source, hname⟩
    · exact hbefore n hn

/-- There is a first failure unless every name has a text. -/
theorem forall_text_iff :
    (∀ n ∈ names, ∃ source, text n = .ok source) ↔
      ∀ failure, ¬ FirstFailure text names failure := by
  induction names with
  | nil => simp [not_firstFailure_nil]
  | cons name names ih =>
    cases hname : text name with
    | error failure =>
      constructor
      · intro h
        obtain ⟨source, hsource⟩ := h name List.mem_cons_self
        cases hname.symm.trans hsource
      · intro h
        exact absurd ((firstFailure_cons_of_error hname).2 rfl) (h failure)
    | ok source => simp only [List.forall_mem_cons, firstFailure_cons_of_ok hname, ← ih, hname,
        Except.ok.injEq, exists_eq', true_and]

variable (r : Resolver)

/-- By induction on the names, each of which is the first failure or has a text. -/
theorem result_reportOf_eq_error_iff (map : ImportMap) {failure : Failure} :
    (reportOf r text map names).result = .error failure ↔ FirstFailure text names failure := by
  induction names generalizing map with
  | nil => simp [reportOf, not_firstFailure_nil]
  | cons name names ih =>
    rw [reportOf]
    cases hname : text name with
    | error failure' => simp [firstFailure_cons_of_error hname]
    | ok source =>
      rw [firstFailure_cons_of_ok hname]
      exact ih (map.merge (r.scan source))

/-- **The first failure** is what a scan fails with. -/
theorem result_scanReport_eq_error_iff {failure : Failure} :
    (scanReport r text names).result = .error failure ↔
      FirstFailure text (sourceNames names) failure := by
  cases names with
  | nil =>
    show _ ↔ FirstFailure text [inputName] failure
    rw [scanReport, if_pos List.isEmpty_nil]
    cases hinput : text inputName with
    | error failure' => simp [firstFailure_cons_of_error hinput]
    | ok source => simp [firstFailure_cons_of_ok hinput, not_firstFailure_nil]
  | cons name names => exact result_reportOf_eq_error_iff r r.seed

/-! ## What a report does not depend on -/

theorem reportOf_congr (map : ImportMap) (h : ∀ name ∈ names, text name = text' name) :
    reportOf r text map names = reportOf r text' map names := by
  induction names generalizing map with
  | nil => rfl
  | cons name names ih =>
    have hnames : ∀ n ∈ names, text n = text' n := by
      intro n hn
      exact h n (List.mem_cons_of_mem _ hn)
    rw [reportOf, reportOf, h name List.mem_cons_self]
    cases text' name with
    | error failure => rfl
    | ok source => simp only [ih _ hnames]

/-- Only the texts of the sources count. -/
theorem scanReport_congr (h : ∀ name ∈ sourceNames names, text name = text' name) :
    scanReport r text names = scanReport r text' names := by
  cases names with
  | nil =>
    have hinput : text inputName = text' inputName := h inputName List.mem_cons_self
    rw [scanReport, if_pos List.isEmpty_nil, scanReport, if_pos List.isEmpty_nil, hinput]
  | cons name names => exact reportOf_congr r r.seed h

theorem reportOf_of_error (map : ImportMap) {name : String} {failure : Failure}
    (hname : text name = .error failure) (before after after' : List String) :
    reportOf r text map (before ++ name :: after) =
      reportOf r text map (before ++ name :: after') := by
  induction before generalizing map with
  | nil =>
    show reportOf r text map (name :: after) = reportOf r text map (name :: after')
    rw [reportOf, reportOf, hname]
  | cons first before ih =>
    show reportOf r text map (first :: (before ++ _)) = reportOf r text map (first :: (before ++ _))
    rw [reportOf, reportOf]
    -- either the run ends before `name` already, or it goes on from the same map
    cases text first with
    | error failure => rfl
    | ok source => simp only [ih]

theorem sourceNames_append_cons (before : List String) (name : String) (after : List String) :
    sourceNames (before ++ name :: after) = before ++ name :: after := by
  cases before <;> rfl

/-- Nothing behind a source without a text counts. -/
theorem scanReport_of_error {name : String} {failure : Failure}
    (hname : text name = .error failure) (before after after' : List String) :
    scanReport r text (before ++ name :: after) = scanReport r text (before ++ name :: after') := by
  have hnotEmpty : ∀ rest, (before ++ name :: rest).isEmpty = false := by
    intro rest
    cases before <;> rfl
  rw [scanReport, scanReport, hnotEmpty, hnotEmpty]
  exact reportOf_of_error r r.seed hname before after after'

end Failures

end ImportMaps.CommandLine
