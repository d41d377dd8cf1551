import ImportMaps.Proofs.CommandLine.AllOrNothing

/-!
# ImportMaps — the standard input is like a file, and it is read once

The stream gives its text to the first who reads it and nothing afterwards, but a dash
may be named many times, with files between. A run holds on to the text, and so every
dash stands for it, just as the name of a file stands for what is in the file. What a
run comes to does not tell the two apart: put a file with the same text in the place of
every dash, and the map is the same, or the failure.

What does tell them apart is the stream. It is read when the first dash is reached and
never again (`reads_scanFiles`), so the number of reads is one or none, whatever is named
behind that dash, and a run that fails before it reads nothing.

Main result:

* `scanSources_input_as_file` — both of this, and that naming no source at all comes to
  the same map as a single dash.
-/

namespace ImportMaps.CommandLine

variable {files files' : String → Contents} {bytes : ByteArray} {text path : String}
variable {held : Option String} {name : String} {names : List String}

/-! ## The first dash -/

/-- A dash is reached: every source before it has a text. -/
inductive ReachesInput (files : String → Contents) (bytes : ByteArray) : List String → Prop where
  | here (names : List String) : ReachesInput files bytes (inputName :: names)
  | later {name : String} {names : List String} (htext : HasText files bytes name)
      (rest : ReachesInput files bytes names) : ReachesInput files bytes (name :: names)

theorem not_reachesInput_nil : ¬ ReachesInput files bytes [] :=
  nofun

theorem reachesInput_cons_iff :
    ReachesInput files bytes (name :: names) ↔
      name = inputName ∨ HasText files bytes name ∧ ReachesInput files bytes names := by
  constructor
  · intro h
    cases h with
    | here => exact .inl rfl
    | later htext rest => exact .inr ⟨htext, rest⟩
  · rintro (rfl | ⟨htext, rest⟩)
    · exact .here names
    · exact .later htext rest

theorem isSome_heldAfter :
    (heldAfter held name text).isSome ↔ name = inputName ∨ held.isSome := by
  by_cases hname : name = inputName <;> simp [heldAfter, hname]

theorem reads_streamAfter : (streamAfter bytes held).reads = if held.isSome then 1 else 0 := by
  cases held <;> rfl

open Classical in
/-- **How often the stream has been read** at the end of a run: once if its text is held
from the start or a dash is reached, and never otherwise. By induction on the names, as
each step finds the stream as what is held says. -/
theorem reads_scanFiles (r : Resolver) (hheld : Holds bytes held) (map : ImportMap)
    (names : List String) :
    ((scanFiles r held map names).runIn files (streamAfter bytes held)).2.reads =
      if held.isSome ∨ ReachesInput files bytes names then 1 else 0 := by
  induction names generalizing held map with
  | nil =>
    rw [scanFiles, Script.runIn_done, reads_streamAfter]
    simp [not_reachesInput_nil]
  | cons name names ih =>
    cases htext : textOf files bytes name with
    | error failure =>
      -- the run ends here, and only a dash has read anything
      have hnone : ¬ HasText files bytes name := by
        simp [hasText_iff, htext]
      rw [runIn_scanFiles_cons_of_error r map names hheld htext]
      by_cases hname : name = inputName
      · simp [reachesInput_cons_iff, hname, InputStream.drained, InputStream.ofBytes]
      · simp [reachesInput_cons_iff, hname, hnone, reads_streamAfter]
    | ok source =>
      have hsource : HasText files bytes name := hasText_iff.2 ⟨source, htext⟩
      rw [runIn_scanFiles_cons r map names hheld htext, scanRest, Script.runIn_map,
        ih (hheld.after htext)]
      simp only [isSome_heldAfter, reachesInput_cons_iff, hsource, true_and, or_assoc,
        or_left_comm]

/-! ## A file in the place of the standard input -/

/-- The sources with a path in the place of every dash. -/
def withInputAt (path : String) (names : List String) : List String :=
  names.map fun name => if name = inputName then path else name

theorem inputText_toUTF8 (text : String) : inputText text.toUTF8 = .ok text :=
  inputText_eq_ok_iff.2 rfl

theorem textOf_withInputAt (hpath : path ≠ inputName) (hfile : (files' path).text = .ok text)
    (hname : name ≠ inputName → files' name = files name) :
    textOf files' bytes (if name = inputName then path else name) =
      textOf files text.toUTF8 name := by
  by_cases hinput : name = inputName
  · rw [if_pos hinput, textOf, if_neg hpath, textOf, if_pos hinput, inputText_toUTF8, sourceText,
      hfile]
  · rw [if_neg hinput, textOf, if_neg hinput, textOf, if_neg hinput, hname hinput]

/-- The sources have the same texts in order, up to the first one that has none. -/
theorem mapM_textOf_withInputAt (hpath : path ≠ inputName)
    (hfile : (files' path).text = .ok text)
    (hnames : ∀ name ∈ names, name ≠ inputName → files' name = files name) :
    (withInputAt path names).mapM (textOf files' bytes) =
      names.mapM (textOf files text.toUTF8) := by
  induction names with
  | nil => rfl
  | cons name names ih =>
    have hname : textOf files' bytes _ = textOf files text.toUTF8 name :=
      textOf_withInputAt hpath hfile (hnames name List.mem_cons_self)
    have hrest := ih fun n hn => hnames n (List.mem_cons_of_mem _ hn)
    rw [withInputAt] at hrest ⊢
    rw [List.map_cons, List.mapM_cons, List.mapM_cons, hname, hrest]

/-! ## Both together -/

/-- Going through the sources in a world with this text on the standard input: the report
and the stream that is left. -/
def scanWith (r : Resolver) (files : String → Contents) (text : String) (names : List String) :
    Report ImportMap × InputStream :=
  (scanSources r names).runIn files (.ofBytes text.toUTF8)

variable (r : Resolver)

theorem result_scanWith (files : String → Contents) (text : String) (names : List String) :
    (scanWith r files text names).1.result =
      ((sourceNames names).mapM (textOf files text.toUTF8)).map
        fun texts => r.mapOf (texts.flatMap Source.imports) := by
  rw [scanWith, runIn_scanSources, result_scanReport]

theorem result_scanWith_nil (files : String → Contents) (text : String) :
    (scanWith r files text []).1.result = (scanWith r files text [inputName]).1.result := by
  rw [result_scanWith, result_scanWith]
  rfl

theorem result_scanWith_withInputAt (hpath : path ≠ inputName)
    (hfile : (files' path).text = .ok text)
    (hnames : ∀ name ∈ names, name ≠ inputName → files' name = files name) :
    (scanWith r files' text (withInputAt path names)).1.result =
      (scanWith r files text names).1.result := by
  cases names with
  | nil =>
    -- the only source is the stream in both worlds
    rw [result_scanWith, result_scanWith]
    rfl
  | cons name names =>
    rw [result_scanWith, result_scanWith]
    exact congrArg _ (mapM_textOf_withInputAt hpath hfile hnames)

open Classical in
theorem reads_scanWith (files : String → Contents) (text : String) (names : List String) :
    (scanWith r files text names).2.reads =
      if names = [] ∨ ReachesInput files text.toUTF8 names then 1 else 0 := by
  cases names with
  | nil =>
    rw [scanWith, scanSources, if_pos List.isEmpty_nil, Script.runIn_readInput, left_ofBytes,
      inputText_toUTF8, if_pos (.inl rfl)]
    rfl
  | cons name names =>
    rw [scanWith, scanSources, List.isEmpty_cons, if_neg Bool.false_ne_true, ← streamAfter_none,
      reads_scanFiles r holds_none]
    simp

/-- **The standard input is like a file that is read once.** Let a world have some text on
the standard input. Put the path of a file with this text in the place of every dash, in a
world where the other sources are what they were: the map is the same, or the failure. The
stream is read once when there are no sources or a dash is reached, that is, when every
source before it has a text; and it is not read otherwise. Without sources the map is that
of a single dash. -/
theorem scanSources_input_as_file (hpath : path ≠ inputName)
    (hfile : (files' path).text = .ok text)
    (hnames : ∀ name ∈ names, name ≠ inputName → files' name = files name) :
    (scanWith r files' text (withInputAt path names)).1.result =
      (scanWith r files text names).1.result ∧
    (names = [] ∨ ReachesInput files text.toUTF8 names →
      (scanWith r files text names).2.reads = 1) ∧
    (¬ (names = [] ∨ ReachesInput files text.toUTF8 names) →
      (scanWith r files text names).2.reads = 0) ∧
    (scanWith r files text []).1.result = (scanWith r files text [inputName]).1.result := by
  refine ⟨result_scanWith_withInputAt r hpath hfile hnames, ?_, ?_,
    result_scanWith_nil r files text⟩
  · intro hreached
    rw [reads_scanWith, if_pos hreached]
  · intro hnot
    rw [reads_scanWith, if_neg hnot]

/-- A directory with a source, a file that holds what is on the standard input, and
nothing else. -/
def twoFiles : Directory :=
  [("a.js", .file "import 'y'".toUTF8), ("in.js", .file "import 'z'".toUTF8)]

/-- A file stands between two dashes, and behind the second one stands a file that is
missing. -/
theorem scanSources_input_as_file_between :
    ∃ named inPlace, named = ["a.js", "-", "a.js", "-", "b.js"] ∧
      inPlace = ["a.js", "in.js", "a.js", "in.js", "b.js"] ∧
      (scanWith ⟨"h", "1"⟩ twoFiles.read "import 'z'" inPlace).1.result =
        (scanWith ⟨"h", "1"⟩ twoFiles.read "import 'z'" named).1.result ∧
      (scanWith ⟨"h", "1"⟩ twoFiles.read "import 'z'" named).1.result =
        .error (.sourceRead "b.js" .notFound) ∧
      (scanWith ⟨"h", "1"⟩ twoFiles.read "import 'z'" named).2.reads = 1 := by
  have hpath : "in.js" ≠ inputName := by decide
  have hfile : (twoFiles.read "in.js").text = .ok "import 'z'" := by decide +kernel
  have hnames : ∀ name ∈ ["a.js", "-", "a.js", "-", "b.js"], name ≠ inputName →
      twoFiles.read name = twoFiles.read name := fun _ _ _ => rfl
  obtain ⟨hsame, honce, -, -⟩ := scanSources_input_as_file ⟨"h", "1"⟩ hpath hfile hnames
  refine ⟨["a.js", "-", "a.js", "-", "b.js"], _, rfl, rfl, hsame, ?_, honce (.inr ?_)⟩
  · have htexts : ["a.js", "-", "a.js", "-", "b.js"].mapM
        (textOf twoFiles.read "import 'z'".toUTF8) = .error (.sourceRead "b.js" .notFound) := by
      decide +kernel
    rw [result_scanWith]
    exact congrArg (Except.map _) htexts
  · have hfirst : HasText twoFiles.read "import 'z'".toUTF8 "a.js" :=
      hasText_iff.2 ⟨"import 'y'", by decide +kernel⟩
    exact .later hfirst (.here _)

end ImportMaps.CommandLine
