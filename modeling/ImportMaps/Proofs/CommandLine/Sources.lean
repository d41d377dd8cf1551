import ImportMaps.CommandLine.Scan
import Mathlib.Data.List.Forall2

/-!
# ImportMaps — going through the sources

A scan reads its sources one after the other and merges their maps. It holds the
text of the standard input as soon as that has been read, and the stream gives
nothing from then on; so what it holds says what is left of the stream
(`streamAfter`), and a dash has the same text each time (`textOf`).

The step is one source. When it has a text, the rest of the run starts from the map
with this text's scan merged in (`runIn_scanFiles_cons`); when it has none, the run
ends (`runIn_scanFiles_cons_of_error`).
-/

namespace ImportMaps.CommandLine

/-- All members of a list have results: they have them one by one. -/
theorem mapM_eq_ok_iff {ε α β : Type} {f : α → Except ε β} {xs : List α} {ys : List β} :
    xs.mapM f = .ok ys ↔ List.Forall₂ (fun x y => f x = .ok y) xs ys := by
  induction xs generalizing ys with
  | nil =>
    rw [List.mapM_nil, List.forall₂_nil_left_iff]
    exact ⟨fun h => (Except.ok.inj h).symm, fun h => congrArg _ h.symm⟩
  | cons x xs ih =>
    rw [List.mapM_cons, List.forall₂_cons_left_iff]
    simp only [← ih]
    cases f x with
    | error e => simp [bind, Except.bind]
    | ok y => cases xs.mapM f <;> simp [bind, Except.bind, pure, Except.pure, eq_comm]

variable (files : String → Contents) (bytes : ByteArray)

/-! ## Texts by their names -/

/-- The text that a name among the sources stands for. -/
def textOf (name : String) : Except Failure String :=
  if name = inputName then inputText bytes else sourceText name (files name)

/-- The sources of a list of names: without any, the standard input is the only
one. -/
def sourceNames (names : List String) : List String :=
  if names.isEmpty then [inputName] else names

/-! ## The text that is held -/

/-- What is held is the text of the stream. -/
def Holds (held : Option String) : Prop :=
  ∀ text, held = some text → inputText bytes = .ok text

/-- What is held after a source with this text. -/
def heldAfter (held : Option String) (name text : String) : Option String :=
  if name = inputName then some text else held

/-- The stream of a run that holds this: drained as soon as there is a text. -/
def streamAfter (held : Option String) : InputStream :=
  if held.isSome then (InputStream.ofBytes bytes).drained else .ofBytes bytes

variable {files bytes} {held : Option String} {name text : String}

theorem left_ofBytes : (InputStream.ofBytes bytes).left = bytes := rfl

theorem streamAfter_none : streamAfter bytes none = .ofBytes bytes := rfl

theorem holds_none : Holds bytes none := by
  intro text h
  cases h

theorem Holds.after (h : Holds bytes held) (htext : textOf files bytes name = .ok text) :
    Holds bytes (heldAfter held name text) := by
  unfold heldAfter
  split
  · next hname =>
    intro t ht
    rw [← Option.some.inj ht, ← htext, textOf, if_pos hname]
  · exact h

/-! ## One source -/

section Steps

variable (r : Resolver) (map : ImportMap) (names : List String)

/-- The events of one source. -/
def sourceEvents (name text : String) : List Event :=
  (if name = inputName then [] else [.scanningFile name]) ++ scanEvents text ++
    [.scanned name (r.scan text).size]

/-- What is left of a run once a source has given its text. -/
def scanRest (held : Option String) (name text : String) : Script (Report ImportMap) :=
  (scanFiles r (heldAfter held name text) (map.merge (r.scan text)) names).map
    (·.after (sourceEvents r name text))

theorem scanFiles_file (hname : name ≠ inputName) :
    scanFiles r held map (name :: names) =
      .readFile name fun contents =>
        match sourceText name contents with
        | .error failure => .done ⟨[], .error failure⟩
        | .ok text => scanRest r map names held name text := by
  simp only [scanRest, heldAfter, sourceEvents, if_neg hname]
  cases held with
  | none =>
    rw [scanFiles]
    exact if_neg hname
  | some held =>
    rw [scanFiles]
    exact if_neg hname

/-- The first dash reads the stream. -/
theorem scanFiles_input :
    scanFiles r none map (inputName :: names) =
      .readInput fun bytes =>
        match inputText bytes with
        | .error failure => .done ⟨[], .error failure⟩
        | .ok text => scanRest r map names none inputName text := by
  rw [scanFiles]
  exact if_pos rfl

/-- Every further dash has the same text. -/
theorem scanFiles_held (text : String) :
    scanFiles r (some text) map (inputName :: names) =
      scanRest r map names (some text) inputName text := by
  rw [scanFiles]
  exact if_pos rfl

/-- **One source that has a text**: its map is merged, and the run goes on. -/
theorem runIn_scanFiles_cons (hheld : Holds bytes held)
    (htext : textOf files bytes name = .ok text) :
    (scanFiles r held map (name :: names)).runIn files (streamAfter bytes held) =
      (scanRest r map names held name text).runIn files
        (streamAfter bytes (heldAfter held name text)) := by
  by_cases hname : name = inputName
  · subst hname
    rw [textOf, if_pos rfl] at htext
    rw [heldAfter, if_pos rfl]
    -- Either way the rest of the run holds the text and finds the stream drained.
    cases held with
    | none =>
      rw [scanFiles_input, streamAfter_none, Script.runIn_readInput, left_ofBytes, htext]
      rfl
    | some held =>
      obtain rfl : held = text := Except.ok.inj ((hheld held rfl).symm.trans htext)
      rw [scanFiles_held]
  · rw [textOf, if_neg hname] at htext
    rw [scanFiles_file r map names hname, Script.runIn_readFile, htext, heldAfter, if_neg hname]

/-- **One source that has none** ends the run. A dash has drained the stream by then. -/
theorem runIn_scanFiles_cons_of_error (hheld : Holds bytes held) {failure : Failure}
    (hfail : textOf files bytes name = .error failure) :
    (scanFiles r held map (name :: names)).runIn files (streamAfter bytes held) =
      (⟨[], .error failure⟩,
        if name = inputName then (InputStream.ofBytes bytes).drained
        else streamAfter bytes held) := by
  by_cases hname : name = inputName
  · subst hname
    rw [textOf, if_pos rfl] at hfail
    cases held with
    | none =>
      rw [scanFiles_input, streamAfter_none, Script.runIn_readInput, left_ofBytes, hfail,
        if_pos rfl]
      rfl
    | some held =>
      -- A text that is held has been read without a failure.
      have hnone := (hheld held rfl).symm.trans hfail
      cases hnone
  · rw [textOf, if_neg hname] at hfail
    rw [scanFiles_file r map names hname, Script.runIn_readFile, hfail, if_neg hname]
    rfl

end Steps

end ImportMaps.CommandLine
