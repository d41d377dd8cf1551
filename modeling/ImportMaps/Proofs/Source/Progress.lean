import ImportMaps.Proofs.Source.Coverage

/-!
# ImportMaps — a scan always advances, and so it ends

The scan with slots goes on in rounds: it brings the slots up to date, takes the
occurrence that starts first, and continues where that one ends. The definition
(`Source.select`) stops when a round does not get ahead. Here the rounds are looked at
without this guard (`Source.Rounds`), as a loop that ends only when no slot holds
anything.

What makes it advance is that no slot is stale when the first occurrence is chosen: what
is taken starts at or after the place reached. No declaration has fewer bytes than its
keyword and two quotes, so every round gets ahead by eight bytes at least, and by one
more for each byte of the specifier.

Main results:

* `Source.Rounds.weight_le` — before the place reached lie eight bytes for every match
  taken, and one more for every report.
* `Source.Rounds.exists_end` — the rounds come to an end, whatever state they are in.
* `Source.rounds_advance_and_end` — both, for every source, with what they say about the
  number of matches and of imports.
-/

namespace ImportMaps

open Text

/-! ## The shortest declaration -/

/-- A declaration has its keyword and two quotes besides the specifier. -/
theorem Declaration.byteLength_specifier_le (d : Declaration) :
    byteLength d.specifier + 8 ≤ byteLength d.text := by
  have hlead : ∃ more, d.lead = importWord ++ more := by
    cases d <;> exact ⟨_, rfl⟩
  obtain ⟨more, hmore⟩ := hlead
  have hword : byteLength importWord = 6 := rfl
  have htext := d.byteLength_text
  rw [hmore, byteLength_append, hword] at htext
  omega

namespace Occurrence

variable {source : List Char} {o : Occurrence}

theorem StandsIn.byteLength_specifier_le (h : o.StandsIn source) :
    o.offset + 8 + byteLength o.declaration.specifier ≤ o.after.offset := by
  have hlength := o.declaration.byteLength_specifier_le
  have hafter := h.after_offset
  omega

/-- Only a specifier that has bytes is reported. -/
theorem length_toList_import?_le (o : Occurrence) :
    o.import?.toList.length ≤ byteLength o.declaration.specifier := by
  cases hreport : o.import? with
  | none => exact Nat.zero_le _
  | some i => exact byteLength_pos (import?_eq_some.1 hreport).1

end Occurrence

/-! ## The rounds of a scan -/

namespace Source

/-- The rounds of the scan with slots: the occurrences taken so far, the slots as the last
round left them, and the place reached. A round takes whatever starts first, and nothing
else is asked of it. -/
inductive Rounds (forms : List Form) (source : List Char) :
    List Occurrence → List Slot → Cursor → Prop where
  | start : Rounds forms source [] (forms.map (Slot.fill (Cursor.start source)))
      (Cursor.start source)
  | next {taken : List Occurrence} {slots : List Slot} {c : Cursor} {o : Occurrence}
      (rounds : Rounds forms source taken slots c)
      (first : Slot.earliest (slots.map (Slot.refresh c)) = some o) :
      Rounds forms source (taken ++ [o]) (slots.map (Slot.refresh c)) o.after

namespace Rounds

variable {forms : List Form} {source : List Char} {taken : List Occurrence} {slots : List Slot}
  {c : Cursor} {o : Occurrence}

theorem reaches (h : Rounds forms source taken slots c) : Reaches forms source slots c := by
  induction h with
  | start => exact .start
  | next _ first ih => exact ih.step first

/-- What a round takes is the next match from the place reached. -/
theorem isNext (h : Rounds forms source taken slots c)
    (first : Slot.earliest (slots.map (Slot.refresh c)) = some o) :
    IsNext forms source c.offset o :=
  h.reaches.tracking.isNext first

/-- The rounds do not leave the source. -/
theorem offset_le (h : Rounds forms source taken slots c) : c.offset ≤ byteLength source := by
  cases h with
  | start => exact Nat.zero_le _
  | next rounds first => exact (rounds.isNext first).stands.after_le

/-- **What the rounds have taken lies before the place reached**: eight bytes for every
match and one more for every import. -/
theorem weight_le (h : Rounds forms source taken slots c) :
    8 * taken.length + (taken.filterMap Occurrence.import?).length ≤ c.offset := by
  induction h with
  | start => exact Nat.zero_le _
  | @next taken slots c o rounds first ih =>
    have hnext := rounds.isNext first
    have hstart := hnext.pos_le
    have hend := hnext.stands.byteLength_specifier_le
    have hreport := o.length_toList_import?_le
    have hone : ([o].filterMap Occurrence.import?).length = o.import?.toList.length := by
      cases himport : o.import? <;> simp [himport]
    rw [List.filterMap_append, List.length_append, List.length_append, hone,
      List.length_singleton]
    omega

/-- What the scan selects is what the rounds have taken and what it selects from there. -/
theorem occurrencesBy_eq (h : Rounds forms source taken slots c) :
    occurrencesBy forms source = taken ++ select (byteLength source) slots c := by
  induction h with
  | start => rfl
  | next rounds first ih => rw [ih, select_eq rounds.reaches, first, List.append_assoc]; rfl

/-- **The rounds come to an end**: the place reached cannot move on for ever. -/
theorem exists_end {taken : List Occurrence} {slots : List Slot} {c : Cursor}
    (h : Rounds forms source taken slots c) :
    ∃ slots' c', Rounds forms source (occurrencesBy forms source) slots' c' ∧
      Slot.earliest (slots'.map (Slot.refresh c')) = none := by
  cases hfirst : Slot.earliest (slots.map (Slot.refresh c)) with
  | none =>
    -- nothing is selected from here, so all has been taken
    have hall := h.occurrencesBy_eq
    rw [select_eq h.reaches, hfirst, List.append_nil] at hall
    exact ⟨slots, c, hall ▸ h, hfirst⟩
  | some o =>
    have hlt := (h.isNext hfirst).lt_after
    have hafter := (h.isNext hfirst).stands.after_le
    exact exists_end (h.next hfirst)
  termination_by byteLength source - c.offset

end Rounds

/-- **A scan always advances, and so it ends.** In every state that its rounds reach, the
place lies within the source, and an occurrence that is taken there starts at or after the
place and ends eight bytes or more after its start, still within the source. All that the
rounds have taken is the beginning of one list, and they do reach a state in which that
list is complete and nothing is left to take. So a scan selects one match for every eight
bytes of its source at most, and reports one import for every nine. -/
theorem rounds_advance_and_end (source : String) :
    (∀ taken slots c, Rounds Form.all source.toList taken slots c →
      c.offset ≤ source.utf8ByteSize ∧ taken <+: occurrences source.toList ∧
      ∀ o, Slot.earliest (slots.map (Slot.refresh c)) = some o →
        c.offset ≤ o.offset ∧ o.offset + 8 ≤ o.after.offset ∧ c.offset < o.after.offset ∧
        o.after.offset ≤ source.utf8ByteSize) ∧
    (∃ slots c, Rounds Form.all source.toList (occurrences source.toList) slots c ∧
      Slot.earliest (slots.map (Slot.refresh c)) = none) ∧
    (occurrences source.toList).length ≤ source.utf8ByteSize / 8 ∧
    9 * (imports source).length ≤ source.utf8ByteSize := by
  have hsize : byteLength source.toList = source.utf8ByteSize := by
    rw [byteLength_eq_utf8ByteSize, String.ofList_toList]
  have hend : ∃ slots c, Rounds Form.all source.toList (occurrences source.toList) slots c ∧
      Slot.earliest (slots.map (Slot.refresh c)) = none :=
    Rounds.exists_end .start
  obtain ⟨slots, c, hall, hnone⟩ := hend
  -- at the end all matches and imports lie before the place reached
  have hweight : 8 * (occurrences source.toList).length + (imports source).length ≤ c.offset :=
    hall.weight_le
  have hoffset := hall.offset_le
  have hreported : (imports source).length ≤ (occurrences source.toList).length :=
    List.length_filterMap_le ..
  refine ⟨?_, ⟨slots, c, hall, hnone⟩, by omega, by omega⟩
  intro taken slots c hrounds
  refine ⟨hsize ▸ hrounds.offset_le, ⟨_, hrounds.occurrencesBy_eq.symm⟩, ?_⟩
  intro o hfirst
  have hnext := hrounds.isNext hfirst
  have hlength := hnext.stands.byteLength_specifier_le
  exact ⟨hnext.pos_le, by omega, hnext.lt_after, hsize ▸ hnext.stands.after_le⟩

-- Both bounds are met.
example : (occurrences "import''import\"\"".toList).length = 16 / 8 ∧
    9 * (imports "import'a'import\"b\"").length = 18 := by
  decide +kernel

end Source

end ImportMaps
