import ImportMaps.Proofs.Source.Division
import ImportMaps.Proofs.Source.Transport

/-!
# ImportMaps — a scan begins again after every match

After a match a scan goes on in the same source, with what it has kept of its earlier
searches, and it sees the character before the place it has reached. None of this makes a
difference: what it finds from there on is what it would find in the rest of the source,
taken as a source of its own.

A keyword right at the start of that rest stands at a boundary in both views, since no
declaration ends in a word character. Further on the character before a keyword is in the
rest itself. So every match of the rest is a match of the whole source, and of those that
start after the cut there are no others (`Source.carries_shift`).

Main result:

* `Source.occurrences_after` — after a match come those of the rest of the source.
-/

namespace ImportMaps

open Text

/-! ## Moved by a number of bytes -/

/-- The same place in a source that begins so many bytes earlier. -/
def Cursor.shift (bytes : Nat) (c : Cursor) : Cursor :=
  { c with offset := c.offset + bytes }

/-- The same occurrence in a source that begins so many bytes earlier. -/
def Occurrence.shift (bytes : Nat) (o : Occurrence) : Occurrence where
  offset := o.offset + bytes
  declaration := o.declaration
  after := o.after.shift bytes

/-- The same import in a source that begins so many bytes earlier. -/
def ScannedImport.shift (bytes : Nat) (i : ScannedImport) : ScannedImport :=
  { i with offset := i.offset + bytes }

theorem Occurrence.import?_shift (bytes : Nat) (o : Occurrence) :
    (o.shift bytes).import? = o.import?.map (ScannedImport.shift bytes) := by
  by_cases h : o.declaration.specifier.isEmpty = true
  · simp [import?, shift, h]
  · simp [import?, shift, h, ScannedImport.shift]

theorem Occurrence.filterMap_import?_shift (bytes : Nat) (os : List Occurrence) :
    (os.map (shift bytes)).filterMap import? =
      (os.filterMap import?).map (ScannedImport.shift bytes) := by
  rw [List.filterMap_map, List.map_filterMap]
  congr 1
  funext o
  exact o.import?_shift bytes

/-- Behind more text a place lies as many bytes further on. The character before it is the
same one, unless it was the first place of all. -/
theorem Cursor.between_append_append {front taken rest : List Char} (htaken : taken ≠ []) :
    between (front ++ taken) rest = (between taken rest).shift (byteLength front) := by
  have hlast : (front ++ taken).getLast? = taken.getLast? := by
    rw [List.getLast?_append, List.getLast?_eq_some_getLast htaken, Option.some_or]
  rw [between, hlast, byteLength_append, Nat.add_comm]
  rfl

namespace Occurrence

variable {front source : List Char} {o : Occurrence}

/-- A match stays a match behind text that ends outside words. -/
theorem StandsIn.shift (hfront : EndsOutside isWord front) (h : o.StandsIn source) :
    (o.shift (byteLength front)).StandsIn (front ++ source) := by
  obtain ⟨before, rest, rfl, hstands⟩ := h
  have htaken : before ++ o.declaration.text ≠ [] := by simp [o.declaration.text_ne_nil]
  refine ⟨front ++ before, rest, by rw [List.append_assoc]; rfl, ?_⟩
  constructor
  · exact hfront.append hstands.boundary
  · exact hstands.whole
  · show o.offset + byteLength front = _
    rw [hstands.offset_eq, byteLength_append, Nat.add_comm]
  · show o.after.shift (byteLength front) = _
    rw [hstands.after_eq, List.append_assoc, ← Cursor.between_append_append htaken]
    rfl

/-- A match behind a text is a match of what comes after that text. -/
theorem StandsIn.exists_shift (hfront : EndsOutside isWord front)
    (h : o.StandsIn (front ++ source)) (hle : byteLength front ≤ o.offset) :
    ∃ o' : Occurrence, o'.StandsIn source ∧ o'.shift (byteLength front) = o := by
  obtain ⟨skipped, rest, rfl, hstands⟩ := h.exists_ahead hle
  let o' : Occurrence := ⟨byteLength skipped, o.declaration,
    Cursor.between (skipped ++ o.declaration.text) rest⟩
  have hin : o'.StandsIn (skipped ++ (o.declaration.text ++ rest)) :=
    ⟨skipped, rest, rfl, hstands.boundary.of_append, hstands.whole, rfl, rfl⟩
  refine ⟨o', hin, ?_⟩
  -- both stand at one place, and only one match does
  refine (hin.shift hfront).unique h ?_
  rw [hstands.offset_eq, byteLength_append, Nat.add_comm]
  rfl

end Occurrence

/-! ## The rest of a source -/

namespace Source

/-- **A source has the matches of its rest**, and behind the cut no others, if what stands
before the cut ends outside words. -/
theorem carries_shift {front : List Char} (hfront : EndsOutside isWord front)
    (rest : List Char) :
    Carries (Occurrence.shift (byteLength front)) rest (front ++ rest) (byteLength front) where
  form_eq _ := rfl
  offset_eq _ := rfl
  after_offset_eq _ := rfl
  stands h := h.shift hfront
  onto h hle := h.exists_shift hfront hle

namespace PlainScan

variable {forms : List Form} {source : List Char} {pos : Nat} {before after : List Occurrence}
  {o : Occurrence}

/-- What a scan takes after a match is a scan from the end of the match. -/
theorem of_append (h : PlainScan forms source pos (before ++ o :: after)) :
    o.StandsIn source ∧ PlainScan forms source o.after.offset after := by
  induction before generalizing pos with
  | nil =>
    cases h with
    | step next more => exact ⟨next.stands, more⟩
  | cons first before ih =>
    cases h with
    | step next more => exact ih more

end PlainScan

/-- **A scan begins again after every match**, whether the match is reported or not. The
source can be cut at the end of the match, and what the scan takes from there on are the
matches of the rest, taken as a source of its own; so what it reports are the imports of
the rest. All that changes is that the offsets count from the start of the whole source. -/
theorem occurrences_after (source : String) {before after : List Occurrence} {o : Occurrence}
    (h : occurrences source.toList = before ++ o :: after) :
    ∃ front rest : String, source = front ++ rest ∧ front.utf8ByteSize = o.after.offset ∧
      after = (occurrences rest.toList).map (Occurrence.shift o.after.offset) ∧
      after.filterMap Occurrence.import? =
        (imports rest).map (ScannedImport.shift o.after.offset) := by
  have hscan := plainScan_occurrences source.toList
  rw [h] at hscan
  obtain ⟨hstands, hafter⟩ := hscan.of_append
  have hoffset := hstands.after_offset
  obtain ⟨skipped, rest, hsource, hbetween⟩ := hstands
  -- the cut lies at the end of the match
  have hcut : source.toList = (skipped ++ o.declaration.text) ++ rest := by
    rw [hsource, List.append_assoc]
  have hend : byteLength (skipped ++ o.declaration.text) = o.after.offset := by
    rw [hoffset, hbetween.offset_eq, byteLength_append]
  have hfront : EndsOutside isWord (skipped ++ o.declaration.text) :=
    hbetween.boundary.append o.declaration.endsOutside_text
  -- scanned on its own the rest gives the matches that the scan takes after the cut
  have hfresh := (plainScan_occurrences rest).carry (carries_shift hfront rest)
  rw [Nat.zero_add, ← hcut, hend] at hfresh
  have heq := hafter.unique hfresh
  refine ⟨String.ofList (skipped ++ o.declaration.text), String.ofList rest, ?_, ?_, ?_, ?_⟩
  · exact eq_ofList_of_toList_eq hcut
  · rw [← byteLength_eq_utf8ByteSize, hend]
  · rw [String.toList_ofList]
    exact heq
  · rw [heq, Occurrence.filterMap_import?_shift, imports, String.toList_ofList]

/-- An import with nothing to report, and one right after its semicolon. -/
def emptyThenX : String :=
  "é import '';import 'x'"

theorem occurrences_after_empty :
    ∃ (o : Occurrence) (after : List Occurrence) (front rest : String),
      occurrences emptyThenX.toList = [] ++ o :: after ∧ o.import? = none ∧
      o.after.offset = 13 ∧ emptyThenX = front ++ rest ∧ front.utf8ByteSize = 13 ∧
      after = (occurrences rest.toList).map (Occurrence.shift 13) ∧
      after.filterMap Occurrence.import? = (imports rest).map (ScannedImport.shift 13) ∧
      after.filterMap Occurrence.import? = [⟨13, .sideEffect, "x"⟩] := by
  have hfirst : (occurrences emptyThenX.toList).head?.map (fun o => (o.import?, o.after.offset)) =
      some (none, 13) := by
    decide +kernel
  have hreports : (occurrences emptyThenX.toList).filterMap Occurrence.import? =
      [⟨13, .sideEffect, "x"⟩] := by
    decide +kernel
  cases hfound : occurrences emptyThenX.toList with
  | nil =>
    rw [hfound] at hfirst
    cases hfirst
  | cons o after =>
    rw [hfound] at hfirst hreports
    obtain ⟨hnone, hend⟩ := Prod.mk.inj (Option.some.inj hfirst)
    rw [List.filterMap_cons_none hnone] at hreports
    have hsplit : occurrences emptyThenX.toList = [] ++ o :: after := hfound
    obtain ⟨front, rest, hsource, hsize, hafter, himports⟩ := occurrences_after emptyThenX hsplit
    rw [hend] at hsize hafter himports
    exact ⟨o, after, front, rest, rfl, hnone, hend, hsource, hsize, hafter, himports, hreports⟩

end Source

end ImportMaps
