import ImportMaps.Proofs.Declaration.Quotes
import ImportMaps.Proofs.Source.Transport

/-!
# ImportMaps — sources with the other quotes

Both quote characters are good for a specifier, and neither is preferred. Exchange them
all over a source, in and out of specifiers and also where nothing is quoted, and the
matches are where they were, each with its source in the other quotes
(`Source.carries_swapQuotes`): whatever could be read as a declaration before can be read
as one after, and the other way round, since a second exchange undoes the first.

Main result:

* `Source.imports_swapQuotes` — the imports of a source with the other quotes.
-/

namespace ImportMaps

open Text

/-! ## Places and matches -/

/-- The same place in the source with the other quotes. -/
def Cursor.swapQuotes (c : Cursor) : Cursor where
  before := c.before.map swapQuote
  offset := c.offset
  rest := c.rest.map swapQuote

theorem Cursor.swapQuotes_between (front rest : List Char) :
    (between front rest).swapQuotes = between (front.map swapQuote) (rest.map swapQuote) := by
  rw [between, between, List.getLast?_map, byteLength_map_swapQuote]
  rfl

theorem Cursor.swapQuotes_swapQuotes (c : Cursor) : c.swapQuotes.swapQuotes = c := by
  obtain ⟨before, offset, rest⟩ := c
  simp only [swapQuotes, map_swapQuote_swapQuote, Option.map_map, Cursor.mk.injEq, and_true]
  cases before with
  | none => rfl
  | some c => exact congrArg some (swapQuote_swapQuote c)

namespace Occurrence

/-- The same occurrence in the source with the other quotes. -/
def swapQuotes (o : Occurrence) : Occurrence where
  offset := o.offset
  declaration := o.declaration.swapQuotes
  after := o.after.swapQuotes

theorem swapQuotes_swapQuotes (o : Occurrence) : o.swapQuotes.swapQuotes = o := by
  obtain ⟨offset, d, after⟩ := o
  simp only [swapQuotes, d.swapQuotes_swapQuotes, after.swapQuotes_swapQuotes]

/-- **A match with the other quotes** is a match of the source with the other quotes. -/
theorem StandsIn.swapQuotes {source : List Char} {o : Occurrence} (h : o.StandsIn source) :
    o.swapQuotes.StandsIn (source.map swapQuote) := by
  obtain ⟨front, rest, rfl, hstands⟩ := h
  have htext : o.swapQuotes.declaration.text = o.declaration.text.map swapQuote :=
    o.declaration.text_swapQuotes
  refine ⟨front.map swapQuote, rest.map swapQuote, ?_, ?_⟩
  · rw [htext, List.map_append, List.map_append]
  constructor
  · exact hstands.boundary.swapQuotes
  · exact hstands.whole.swapQuotes
  · rw [byteLength_map_swapQuote, ← hstands.offset_eq]
    rfl
  · rw [htext, ← List.map_append, ← Cursor.swapQuotes_between, ← hstands.after_eq]
    rfl

end Occurrence

/-! ## Imports -/

/-- The same import in the source with the other quotes. -/
def ScannedImport.swapQuotes (i : ScannedImport) : ScannedImport :=
  { i with specifier := i.specifier.map swapQuote }

theorem Occurrence.import?_swapQuotes (o : Occurrence) :
    o.swapQuotes.import? = o.import?.map ScannedImport.swapQuotes := by
  have hspecifier := o.declaration.specifier_swapQuotes
  have hform := o.declaration.form_swapQuotes
  by_cases hempty : o.declaration.specifier = []
  · simp [import?, swapQuotes, hspecifier, hempty]
  · simp [import?, swapQuotes, hspecifier, hform, hempty, ScannedImport.swapQuotes,
      String.map_eq_internal]

namespace Source

/-- **Sources with the other quotes have corresponding matches.** -/
theorem carries_swapQuotes (source : List Char) :
    Carries Occurrence.swapQuotes source (source.map swapQuote) 0 where
  form_eq o := o.declaration.form_swapQuotes
  offset_eq _ := rfl
  after_offset_eq _ := rfl
  stands h := h.swapQuotes
  onto := by
    intro o' hstands _
    have hback := hstands.swapQuotes
    rw [map_swapQuote_swapQuote] at hback
    exact ⟨o'.swapQuotes, hback, o'.swapQuotes_swapQuotes⟩

theorem occurrences_swapQuotes (source : List Char) :
    occurrences (source.map swapQuote) = (occurrences source).map Occurrence.swapQuotes :=
  (plainScan_occurrences _).unique ((plainScan_occurrences source).carry (carries_swapQuotes source))

/-- **Single and double quotes are treated alike.** With the two quote characters exchanged
all over a source, its imports are at the same offsets and of the same forms, and their
specifiers are the same ones with the quote characters in them exchanged. -/
theorem imports_swapQuotes (source : String) :
    imports (source.map swapQuote) =
      (imports source).map fun i => ⟨i.offset, i.form, i.specifier.map swapQuote⟩ := by
  rw [imports, imports, String.toList_map, occurrences_swapQuotes, List.filterMap_map,
    List.map_filterMap]
  congr 1
  funext o
  exact o.import?_swapQuotes

-- in the specifier `import "y"` the quotes are exchanged with those around it
example : imports ("import x from 'import \"y\"'".map swapQuote) =
    [⟨0, .default, "import 'y'"⟩] := by
  decide +kernel

end Source

end ImportMaps
