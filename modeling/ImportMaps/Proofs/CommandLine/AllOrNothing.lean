import ImportMaps.Proofs.CommandLine.Scan

/-!
# ImportMaps — a scan prints all or nothing

Three things can keep a scan from its map: its settings file, a source file, and the
standard input. Each is looked at in its turn, first the settings and then the sources
in order, and the first one that cannot be read ends the run. What can be read is said
by the bytes of the files, and what is named by the command line (`ScanLine.Asks`).

* `ScanRequest.CanRead` — everything that a request names can be read.
* `ScanRequest.FailsWith` — what a request fails with: one case for each reason, with
  everything before it in order.

Main result:

* `run_scan_allOrNothing` — a scan ends with status zero exactly when it can read
  everything that its command line names; otherwise it prints nothing and tells the first
  failure, and what comes after that does not matter.
-/

namespace ImportMaps.CommandLine

variable {files : String → Contents} {bytes : ByteArray} {request : ScanRequest}

/-! ## Sources -/

/-- A name among the sources that stands for a text. -/
def HasText (files : String → Contents) (bytes : ByteArray) (name : String) : Prop :=
  if name = inputName then bytes.IsValidUTF8 else (files name).IsReadable

theorem textOf_inputName_eq_error_iff {failure : Failure} :
    textOf files bytes inputName = .error failure ↔
      ¬ bytes.IsValidUTF8 ∧ failure = .inputRead := by
  rw [textOf, if_pos rfl, inputText, String.fromUTF8?]
  by_cases h : bytes.IsValidUTF8 <;> simp [h, eq_comm]

theorem textOf_file_eq_error_iff {name : String} (hname : name ≠ inputName)
    {failure : Failure} :
    textOf files bytes name = .error failure ↔
      ∃ fault, (files name).LacksText fault ∧ failure = .sourceRead name fault := by
  simp only [← Contents.text_eq_error_iff]
  rw [textOf, if_neg hname, sourceText]
  cases (files name).text <;> simp [eq_comm]

theorem hasText_iff {name : String} :
    HasText files bytes name ↔ ∃ text, textOf files bytes name = .ok text := by
  rw [HasText, textOf]
  by_cases hname : name = inputName
  · rw [if_pos hname, if_pos hname, inputText, String.fromUTF8?]
    by_cases h : bytes.IsValidUTF8 <;> simp [h]
  · rw [if_neg hname, if_neg hname, Contents.isReadable_iff, sourceText]
    cases (files name).text <;> simp

/-! ## Requests -/

namespace ScanRequest

/-- The settings file, when one is named, is a text that gives settings. -/
def HasSettings (request : ScanRequest) (files : String → Contents) : Prop :=
  ∀ path, request.config = some path →
    ∃ text config, files path = .ok text.toByteArray ∧ Config.ofJson text = .ok config

/-- Everything that a request names can be read. -/
structure CanRead (request : ScanRequest) (files : String → Contents) (bytes : ByteArray) :
    Prop where
  settings : request.HasSettings files
  sources  : ∀ file ∈ request.files, file ≠ inputName → (files file).IsReadable
  input    : request.files = [] ∨ inputName ∈ request.files → bytes.IsValidUTF8

/-- What a request fails with, and that nothing before it fails. -/
inductive FailsWith (request : ScanRequest) (files : String → Contents) (bytes : ByteArray) :
    Failure → Prop where
  | configRead {path : String} {fault : ReadFault} (hpath : request.config = some path)
      (hfault : (files path).LacksText fault) :
      FailsWith request files bytes (.configRead path fault)
  | configParse {path text : String} {e : Json.Error} (hpath : request.config = some path)
      (htext : files path = .ok text.toByteArray) (he : Config.ofJson text = .error e) :
      FailsWith request files bytes (.configParse path e)
  | sourceRead {before after : List String} {name : String} {fault : ReadFault}
      (hsettings : request.HasSettings files)
      (hnames : sourceNames request.files = before ++ name :: after)
      (hbefore : ∀ n ∈ before, HasText files bytes n) (hname : name ≠ inputName)
      (hfault : (files name).LacksText fault) :
      FailsWith request files bytes (.sourceRead name fault)
  | inputRead {before after : List String} (hsettings : request.HasSettings files)
      (hnames : sourceNames request.files = before ++ inputName :: after)
      (hbefore : ∀ n ∈ before, HasText files bytes n) (hinput : ¬ bytes.IsValidUTF8) :
      FailsWith request files bytes .inputRead

theorem loadSettings_of_none (h : request.config = none) :
    request.loadSettings files = .ok (request.override .standard) := by
  rw [loadSettings, h]

theorem loadSettings_of_some {path : String} (h : request.config = some path) :
    request.loadSettings files = (Config.load path (files path)).map request.override := by
  rw [loadSettings, h]

theorem hasSettings_iff :
    request.HasSettings files ↔ ∃ config, request.loadSettings files = .ok config := by
  cases hconfig : request.config with
  | none => simp [loadSettings_of_none hconfig, HasSettings, hconfig]
  | some path =>
    rw [loadSettings_of_some hconfig]
    simp only [HasSettings, hconfig, Option.some.injEq, forall_eq', ← Config.exists_load_iff path]
    cases Config.load path (files path) <;> simp [Except.map]

theorem loadSettings_eq_error_iff {failure : Failure} :
    request.loadSettings files = .error failure ↔
      ∃ path, request.config = some path ∧ Config.load path (files path) = .error failure := by
  cases hconfig : request.config with
  | none => simp [loadSettings_of_none hconfig]
  | some path =>
    rw [loadSettings_of_some hconfig]
    simp only [Option.some.injEq, exists_eq_left']
    cases Config.load path (files path) <;> simp [Except.map]

theorem sourceNames_of_mem {names : List String} {name : String} (h : name ∈ names) :
    sourceNames names = names := by
  cases names with
  | nil => cases h
  | cons first rest => rfl

/-- The sources of a request are the files named, and the standard input when it is
named or when there are none. -/
theorem canRead_iff :
    request.CanRead files bytes ↔
      request.HasSettings files ∧ ∀ name ∈ sourceNames request.files, HasText files bytes name := by
  constructor
  · intro h
    refine ⟨h.settings, ?_⟩
    intro name hname
    rw [HasText]
    by_cases hnil : request.files = []
    · -- without any file, the standard input is the only source
      rw [hnil] at hname
      rw [if_pos (List.mem_singleton.1 hname)]
      exact h.input (.inl hnil)
    · rw [sourceNames, if_neg (by simpa using hnil)] at hname
      split
      · next hinput => exact h.input (.inr (hinput ▸ hname))
      · next hfile => exact h.sources name hname hfile
  · rintro ⟨hsettings, htexts⟩
    refine ⟨hsettings, ?_, ?_⟩
    · intro file hfile hne
      have htext := htexts file ((sourceNames_of_mem hfile).symm ▸ hfile)
      rwa [HasText, if_neg hne] at htext
    · intro hinput
      have hmem : inputName ∈ sourceNames request.files := by
        rcases hinput with hnil | hmem
        · rw [hnil]
          exact List.mem_cons_self
        · rwa [sourceNames_of_mem hmem]
      have htext := htexts inputName hmem
      rwa [HasText, if_pos rfl] at htext

/-- The failures of a request: that of its settings, or else the first one among its
sources. -/
theorem failsWith_iff {failure : Failure} :
    request.FailsWith files bytes failure ↔
      request.loadSettings files = .error failure ∨
      request.HasSettings files ∧
        FirstFailure (textOf files bytes) (sourceNames request.files) failure := by
  constructor
  · intro h
    cases h with
    | configRead hpath hfault =>
      exact .inl (loadSettings_eq_error_iff.2
        ⟨_, hpath, Config.load_eq_error_iff.2 (.inl ⟨_, hfault, rfl⟩)⟩)
    | configParse hpath htext he =>
      exact .inl (loadSettings_eq_error_iff.2
        ⟨_, hpath, Config.load_eq_error_iff.2 (.inr ⟨_, _, htext, he, rfl⟩)⟩)
    | sourceRead hsettings hnames hbefore hname hfault =>
      refine .inr ⟨hsettings, _, _, _, hnames, fun n hn => hasText_iff.1 (hbefore n hn), ?_⟩
      exact (textOf_file_eq_error_iff hname).2 ⟨_, hfault, rfl⟩
    | inputRead hsettings hnames hbefore hinput =>
      refine .inr ⟨hsettings, _, _, _, hnames, fun n hn => hasText_iff.1 (hbefore n hn), ?_⟩
      exact textOf_inputName_eq_error_iff.2 ⟨hinput, rfl⟩
  · rintro (h | ⟨hsettings, before, name, after, hnames, hbefore, hname⟩)
    · obtain ⟨path, hpath, hload⟩ := loadSettings_eq_error_iff.1 h
      rcases Config.load_eq_error_iff.1 hload with
        ⟨fault, hfault, rfl⟩ | ⟨text, e, htext, he, rfl⟩
      · exact .configRead hpath hfault
      · exact .configParse hpath htext he
    · have htexts : ∀ n ∈ before, HasText files bytes n := by
        intro n hn
        exact hasText_iff.2 (hbefore n hn)
      -- a file tells why it cannot be read, and the standard input does not
      by_cases hinput : name = inputName
      · subst hinput
        obtain ⟨hbytes, rfl⟩ := textOf_inputName_eq_error_iff.1 hname
        exact .inputRead hsettings hnames htexts hbytes
      · obtain ⟨fault, hfault, rfl⟩ := (textOf_file_eq_error_iff hinput).1 hname
        exact .sourceRead hsettings hnames htexts hinput hfault

/-- A request fails with something unless it can read everything. -/
theorem canRead_iff_forall_not_failsWith :
    request.CanRead files bytes ↔ ∀ failure, ¬ request.FailsWith files bytes failure := by
  simp only [canRead_iff, failsWith_iff, hasText_iff, forall_text_iff, not_or, not_and]
  constructor
  · rintro ⟨hsettings, hnone⟩ failure
    obtain ⟨config, hconfig⟩ := hasSettings_iff.1 hsettings
    refine ⟨?_, fun _ => hnone failure⟩
    rw [hconfig]
    nofun
  · intro h
    have hsettings : request.HasSettings files := by
      rw [hasSettings_iff]
      cases hload : request.loadSettings files with
      | error failure => exact absurd hload (h failure).1
      | ok config => exact ⟨config, rfl⟩
    exact ⟨hsettings, fun failure => (h failure).2 hsettings⟩

end ScanRequest

/-! ## The command -/

/-- **The failures of a scan** are those of its request. -/
theorem result_scanCommand_eq_error_iff {failure : Failure} :
    ((scanCommand request).runIn files (.ofBytes bytes)).1.result = .error failure ↔
      request.FailsWith files bytes failure := by
  rw [runIn_scanCommand, ScanRequest.failsWith_iff, ScanRequest.hasSettings_iff]
  cases request.loadSettings files with
  | error failure' => simp
  | ok config =>
    show (scanReport (.ofConfig config) (textOf files bytes) request.files).result = _ ↔ _
    rw [result_scanReport_eq_error_iff]
    simp

section Outcomes

variable {environment environment' : Option String} {args args' : List String}
variable {verbosity : Nat} {json : Bool} {files' : String → Contents} {bytes' : ByteArray}

theorem ending_outcome_eq_failed_iff
    (hargs : Invocation.ofArguments environment args = .ok ⟨verbosity, json, .scan request⟩)
    {failure : Failure} :
    (outcome environment args files bytes).ending = .failed failure ↔
      request.FailsWith files bytes failure := by
  rw [outcome, ending_run hargs, ← result_scanCommand_eq_error_iff]
  cases ((scanCommand request).runIn files (.ofBytes bytes)).1.result <;> simp

theorem status_outcome_eq_zero_iff
    (hargs : Invocation.ofArguments environment args = .ok ⟨verbosity, json, .scan request⟩) :
    (outcome environment args files bytes).ending.status = 0 ↔
      ∀ failure, (outcome environment args files bytes).ending ≠ .failed failure := by
  rw [outcome, ending_run hargs]
  cases ((scanCommand request).runIn files (.ofBytes bytes)).1.result <;> simp [Ending.status]

/-- Only the texts of the sources count, and those of other names do not. -/
theorem outcome_congr
    (hargs : Invocation.ofArguments environment args = .ok ⟨verbosity, json, .scan request⟩)
    (htexts : ∀ name ∈ sourceNames request.files,
      textOf files bytes' name = textOf files bytes name) :
    outcome environment args files bytes' = outcome environment args files bytes := by
  have hreport : ∀ r, scanReport r (textOf files bytes') request.files =
      scanReport r (textOf files bytes) request.files := by
    intro r
    exact scanReport_congr r htexts
  rw [outcome, outcome, outcome_run hargs, outcome_run hargs, runIn_scanCommand, runIn_scanCommand]
  simp only [hreport]

/-- Nothing behind the first failure counts: neither which sources come there nor
anything that only they need. -/
theorem outcome_of_error {before after after' : List String} {name : String} {failure : Failure}
    (hargs : Invocation.ofArguments environment args =
      .ok ⟨verbosity, json, .scan { request with files := before ++ name :: after }⟩)
    (hargs' : Invocation.ofArguments environment' args' =
      .ok ⟨verbosity, json, .scan { request with files := before ++ name :: after' }⟩)
    (hname : textOf files bytes name = .error failure)
    (hconfig : ∀ path, request.config = some path → files' path = files path)
    (htexts : ∀ n ∈ before ++ [name], textOf files' bytes' n = textOf files bytes n) :
    outcome environment' args' files' bytes' = outcome environment args files bytes := by
  have hload : { request with files := before ++ name :: after' }.loadSettings files' =
      { request with files := before ++ name :: after }.loadSettings files := by
    unfold ScanRequest.loadSettings
    cases hpath : request.config with
    | none => rfl
    | some path => simp only [hconfig path hpath]; rfl
  have hname' : textOf files' bytes' name = .error failure := by
    rw [htexts name (List.mem_append_right _ List.mem_cons_self), hname]
  have hreport : ∀ r, scanReport r (textOf files' bytes') (before ++ name :: after') =
      scanReport r (textOf files bytes) (before ++ name :: after) := by
    intro r
    -- both reports are those without any names behind this one
    rw [scanReport_of_error r hname' before after' [], scanReport_of_error r hname before after []]
    apply scanReport_congr
    rwa [sourceNames_append_cons]
  rw [outcome, outcome, outcome_run hargs, outcome_run hargs', runIn_scanCommand, runIn_scanCommand]
  simp only [hload, hreport]
  rfl

/-- **All or nothing**: a command line that asks for a scan ends with status zero exactly
when everything that it names can be read. Otherwise it ends with status one, prints nothing
and tells what failed: its settings, or else the first source without a text. Nothing else is
told by the same message, and the path is in it as it was given. The outcome does not depend
on the standard input unless that is a source, nor on anything behind the first source that
fails, be it the sources named there or their contents. -/
theorem run_scan_allOrNothing {l : ScanLine} (hasks : l.Asks environment args)
    (files : String → Contents) (bytes : ByteArray) :
    ((outcome environment args files bytes).ending.status = 0 ↔
      (l.request environment).CanRead files bytes) ∧
    (¬ (l.request environment).CanRead files bytes →
      (outcome environment args files bytes).ending.status = 1 ∧
      (outcome environment args files bytes).ending.output = "" ∧
      ∃ failure, (l.request environment).FailsWith files bytes failure ∧
        (outcome environment args files bytes).ending.message? = some failure.message ∧
        (∀ other : Failure, other.message = failure.message → other.kind = failure.kind) ∧
        ∀ path, failure.path? = some path → path.toList <:+: failure.message.toList) ∧
    (∀ failure, (l.request environment).FailsWith files bytes failure ↔
      (outcome environment args files bytes).ending = .failed failure) ∧
    (l.files ≠ [] → inputName ∉ l.files → ∀ bytes',
      outcome environment args files bytes' = outcome environment args files bytes) ∧
    (∀ before name after, l.files = before ++ name :: after → ¬ HasText files bytes name →
      ∀ environment' args' after' (l' : ScanLine), l'.Asks environment' args' →
        l'.invocation environment' =
          { l with files := before ++ name :: after' }.invocation environment →
      ∀ files' bytes',
        (∀ path, l.config environment = some path → files' path = files path) →
        (∀ n ∈ before ++ [name], n ≠ inputName → files' n = files n) →
        (inputName ∈ before ++ [name] → bytes' = bytes) →
        outcome environment' args' files' bytes' = outcome environment args files bytes) := by
  have hargs := hasks.ofArguments
  have hfails : ∀ failure, (l.request environment).FailsWith files bytes failure ↔
      (outcome environment args files bytes).ending = .failed failure := by
    intro failure
    exact (ending_outcome_eq_failed_iff hargs).symm
  refine ⟨?_, ?_, hfails, ?_, ?_⟩
  · rw [status_outcome_eq_zero_iff hargs, ScanRequest.canRead_iff_forall_not_failsWith]
    simp only [hfails, ne_eq]
  · intro hcannot
    rw [ScanRequest.canRead_iff_forall_not_failsWith] at hcannot
    obtain ⟨failure, hfailure⟩ := Classical.not_forall_not.1 hcannot
    have hending := (hfails failure).1 hfailure
    rw [hending]
    exact ⟨rfl, rfl, failure, hfailure, rfl, fun _ => Failure.kind_eq_of_message_eq,
      fun _ => Failure.path_infix_message⟩
  · intro hfiles hinput bytes'
    apply outcome_congr hargs
    intro name hname
    -- none of the names is the dash, and only the dash looks at the bytes
    have hmem : name ∈ l.files := by
      rwa [ScanLine.request, sourceNames, if_neg (by simpa using hfiles)] at hname
    have hne : name ≠ inputName := fun h => hinput (h ▸ hmem)
    rw [textOf, textOf, if_neg hne, if_neg hne]
  · intro before name after hnames hnoText environment' args' after' l' hasks' hl' files' bytes'
      hconfig hsources hinput
    obtain ⟨failure, hfailure⟩ : ∃ failure, textOf files bytes name = .error failure := by
      rw [hasText_iff] at hnoText
      cases htext : textOf files bytes name with
      | error failure => exact ⟨failure, rfl⟩
      | ok text => exact absurd ⟨text, htext⟩ hnoText
    -- both lines ask for the same, but for the names behind this one
    have hsplit : Invocation.ofArguments environment args = .ok ⟨l.verbosity, l.json,
        .scan { l.request environment with files := before ++ name :: after }⟩ := by
      rw [hargs, ← hnames]
      rfl
    have hsplit' : Invocation.ofArguments environment' args' = .ok ⟨l.verbosity, l.json,
        .scan { l.request environment with files := before ++ name :: after' }⟩ := by
      rw [hasks'.ofArguments, hl']
      rfl
    apply outcome_of_error hsplit hsplit' hfailure hconfig
    intro n hn
    rw [textOf, textOf]
    split
    · next hdash => rw [hinput (hdash ▸ hn)]
    · next hfile => rw [hsources n hn hfile]

/-- Several things fail, and the first of them is told: the settings file named in front of
the command's name, a file, or the standard input. A line that names none of these prints its
map. -/
theorem run_scan_allOrNothing_precedence :
    ∃ (files : String → Contents) (bytes : ByteArray),
      files = (fun path =>
        if path = "a.js" then .ok "import 'z'".toUTF8
        else if path = "c" then .ok "\x7b\x7d".toUTF8
        else if path = "broken" then .ok "x".toUTF8
        else .error .notFound) ∧
      bytes = ⟨#[0xff]⟩ ∧
      (outcome (some "c") ["scan", "a.js"] files bytes).ending.status = 0 ∧
      (∃ o, o = outcome (some "c") ["--config=broken", "scan", "missing.js", "-"] files bytes ∧
        o.ending.status = 1 ∧ o.ending.output = "" ∧ o.ending.message? =
          some "Failed to parse config at broken: expected value at line 1 column 1") ∧
      (∃ o, o = outcome none ["scan", "a.js", "--config", "c", "missing.js", "-"] files bytes ∧
        o.ending.status = 1 ∧ o.ending.output = "" ∧ o.ending.message? =
          some ("Failed to read source at missing.js: " ++
            "No such file or directory (os error 2)")) ∧
      ∃ o, o = outcome none ["scan", "a.js", "-", "missing.js"] files bytes ∧
        o.ending.status = 1 ∧ o.ending.output = "" ∧
        o.ending.message? = some "Failed to read source from stdin" := by
  have hreads : ScanLine.Asks ⟨[], [], ["a.js"]⟩ (some "c") ["scan", "a.js"] := by
    refine ⟨⟨[], _, rfl, .nil, ?_⟩, by decide, by decide, by decide, by decide⟩
    exact .path (.inr (by decide)) .nil
  have hconfig : ScanLine.Asks ⟨[(.config, "broken")], [], ["missing.js", "-"]⟩
      (some "c") ["--config=broken", "scan", "missing.js", "-"] := by
    refine ⟨⟨["--config=broken"], _, rfl, ?_, ?_⟩, by decide, by decide, by decide, by decide⟩
    · exact .joined (by decide) (by decide) rfl .nil
    · exact .path (.inr (by decide)) (.path (.inl rfl) .nil)
  have hfile : ScanLine.Asks ⟨[], [(.config, "c")], ["a.js", "missing.js", "-"]⟩
      none ["scan", "a.js", "--config", "c", "missing.js", "-"] := by
    refine ⟨⟨[], _, rfl, .nil, ?_⟩, by decide, by decide, by decide, nofun⟩
    exact .path (.inr (by decide)) (.apart (by decide) (by decide) rfl (.inr (by decide))
      (.path (.inr (by decide)) (.path (.inl rfl) .nil)))
  have hinput : ScanLine.Asks ⟨[], [], ["a.js", "-", "missing.js"]⟩
      none ["scan", "a.js", "-", "missing.js"] := by
    refine ⟨⟨[], _, rfl, .nil, ?_⟩, by decide, by decide, by decide, nofun⟩
    exact .path (.inr (by decide)) (.path (.inl rfl) (.path (.inr (by decide)) .nil))
  obtain ⟨files, hfiles⟩ : ∃ files : String → Contents, files = fun path =>
      if path = "a.js" then .ok "import 'z'".toUTF8
      else if path = "c" then .ok "\x7b\x7d".toUTF8
      else if path = "broken" then .ok "x".toUTF8
      else .error .notFound := ⟨_, rfl⟩
  have hsource : files "a.js" = .ok "import 'z'".toUTF8 := by rw [hfiles]; rfl
  have hsettings : files "c" = .ok "\x7b\x7d".toUTF8 := by rw [hfiles]; rfl
  have hbroken : files "broken" = .ok "x".toUTF8 := by rw [hfiles]; rfl
  have hmissing : files "missing.js" = .error .notFound := by rw [hfiles]; rfl
  have hreadable : (files "a.js").IsReadable := ⟨_, hsource, String.isValidUTF8 _⟩
  have hgives : ∃ text config, files "c" = .ok text.toByteArray ∧ Config.ofJson text = .ok config :=
    ⟨"\x7b\x7d", .standard, hsettings, by decide +kernel⟩
  have hnoText : ¬ ByteArray.IsValidUTF8 ⟨#[0xff]⟩ := by decide +kernel
  refine ⟨files, ⟨#[0xff]⟩, hfiles, rfl, ?_, ⟨_, rfl, ?_⟩, ⟨_, rfl, ?_⟩, ⟨_, rfl, ?_⟩⟩
  · refine (run_scan_allOrNothing hreads files _).1.2 ⟨?_, ?_, fun h => absurd h (by decide)⟩
    · rintro path ⟨⟩
      exact hgives
    · intro file hfile _
      rwa [List.mem_singleton.1 hfile]
  · -- the settings come before all sources
    have hfails := (run_scan_allOrNothing hconfig files ⟨#[0xff]⟩).2.2.1
    rw [(hfails (.configParse "broken" ⟨.valueExpected, 1, 1⟩)).1
      (.configParse rfl hbroken (by decide +kernel))]
    exact ⟨rfl, rfl, rfl⟩
  · have hfails := (run_scan_allOrNothing hfile files ⟨#[0xff]⟩).2.2.1
    have hnames : sourceNames ["a.js", "missing.js", "-"] = ["a.js"] ++ "missing.js" :: ["-"] := rfl
    rw [(hfails (.sourceRead "missing.js" .notFound)).1
      (.sourceRead ?_ hnames ?_ (by decide) (hmissing ▸ .unread _))]
    · exact ⟨rfl, rfl, rfl⟩
    · rintro path ⟨⟩
      exact hgives
    · intro n hn
      rwa [List.mem_singleton.1 hn]
  · have hfails := (run_scan_allOrNothing hinput files ⟨#[0xff]⟩).2.2.1
    have hnames : sourceNames ["a.js", "-", "missing.js"] =
        ["a.js"] ++ inputName :: ["missing.js"] := rfl
    rw [(hfails .inputRead).1 (.inputRead nofun hnames ?_ hnoText)]
    · exact ⟨rfl, rfl, rfl⟩
    · intro n hn
      rwa [List.mem_singleton.1 hn]

end Outcomes

end ImportMaps.CommandLine
