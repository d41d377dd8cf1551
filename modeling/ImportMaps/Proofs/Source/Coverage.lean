import ImportMaps.Proofs.Declaration.Overlap
import ImportMaps.Proofs.Source.Cache
import ImportMaps.Proofs.Text.Bytes

/-!
# ImportMaps — what a scan reports and what it passes over

A scan takes matches one after the other, so they lie apart, and whatever it
passes over starts inside a match that it takes. Matches overlap only in quotes
(`Declaration.overlap_in_quotes`); so a declaration goes unreported only when it
is written inside the specifier of another one.

Main results:

* `Source.PlainScan.pairwise` — the matches of a scan lie apart, in order.
* `Source.PlainScan.covers` — a match is taken, or starts inside one that is.
* `Source.mem_imports_iff` — a declaration is reported, unless it stands between
  the quotes of a match of the scan.
* `Source.exists_spans_imports` — what is reported stands in the source, in bytes:
  spans that lie apart, each a declaration of the form and specifier reported.
-/

namespace ImportMaps

open Text

/-! ## Declarations written in a source -/

/-- The declaration is written at the byte offset of the source, where its keyword
does not continue a word. A semicolon that follows may belong to it or not. -/
def Declaration.WrittenAt (source : List Char) (offset : Nat) (d : Declaration) : Prop :=
  ∃ front rest, source = front ++ (d.text ++ rest) ∧ EndsOutside isWord front ∧
    byteLength front = offset

namespace Occurrence

/-- The byte offset of the quote that opens the specifier. -/
def openQuote (o : Occurrence) : Nat :=
  o.offset + byteLength o.declaration.lead

/-- The byte offset of the quote that closes the specifier. -/
def closeQuote (o : Occurrence) : Nat :=
  o.openQuote + 1 + byteLength o.declaration.specifier

theorem offset_le_openQuote (o : Occurrence) : o.offset ≤ o.openQuote :=
  Nat.le_add_right ..

end Occurrence

theorem Quote.utf8Size_mark (q : Quote) : q.mark.utf8Size = 1 := by
  cases q <;> decide

theorem Declaration.byteLength_text (d : Declaration) :
    byteLength d.text =
      byteLength d.lead + 1 + byteLength d.specifier + 1 + byteLength d.closing := by
  rw [d.text_eq, d.source_text]
  simp only [List.cons_append, byteLength_append, byteLength_cons, byteLength_nil,
    Quote.utf8Size_mark]
  omega

namespace Occurrence

variable {source : List Char} {o : Occurrence} {d : Declaration} {offset : Nat}

/-- The closing quote belongs to the match. -/
theorem StandsIn.closeQuote_lt_after (h : o.StandsIn source) :
    o.closeQuote < o.after.offset := by
  rw [h.after_offset, o.declaration.byteLength_text, closeQuote, openQuote]
  omega

/-- **Where a declaration is written, a match starts.** It has the form and the source
of the declaration, and ends there or with a semicolon further on. -/
theorem exists_standsBetween (d : Declaration) {front : List Char}
    (hboundary : EndsOutside isWord front) (rest : List Char) :
    ∃ (o : Occurrence) (taken ahead : List Char), rest = taken ++ ahead ∧
      o.declaration.text = d.text ++ taken ∧ 'i' ∉ taken ∧ o.declaration.form = d.form ∧
      o.declaration.source = d.source ∧ o.StandsBetween front ahead := by
  obtain ⟨d', taken, ahead, hrest, htext, htaken, hform, hsource, hwhole⟩ := d.exists_whole rest
  exact ⟨⟨byteLength front, d', Cursor.between (front ++ d'.text) ahead⟩, taken, ahead, hrest,
    htext, htaken, hform, hsource, hboundary, hwhole, rfl, rfl⟩

theorem exists_standsIn_of_writtenAt (h : d.WrittenAt source offset) :
    ∃ o : Occurrence, o.StandsIn source ∧ o.offset = offset ∧ o.declaration.form = d.form ∧
      o.declaration.source = d.source := by
  obtain ⟨front, rest, rfl, hboundary, rfl⟩ := h
  obtain ⟨o, taken, ahead, rfl, htext, -, hform, hsource, hstands⟩ :=
    exists_standsBetween d hboundary rest
  refine ⟨o, ⟨front, ahead, ?_, hstands⟩, hstands.offset_eq, hform, hsource⟩
  rw [htext, List.append_assoc]

/-- **What is written inside a match, but not at its start, is written between its
quotes.** -/
theorem StandsIn.between_quotes (ho : o.StandsIn source) (hd : d.WrittenAt source offset)
    (hlt : o.offset < offset) (hinside : offset < o.after.offset) :
    o.openQuote < offset ∧ offset < o.closeQuote := by
  obtain ⟨front', rest', hsource, -, rfl⟩ := hd
  have hafter := ho.after_offset
  obtain ⟨front, rest, rfl, hstands⟩ := ho
  rw [hstands.offset_eq] at hlt hafter
  obtain ⟨passed, rfl, htext⟩ := exists_append_of_byteLength_le hsource (Nat.le_of_lt hlt)
  rw [byteLength_append] at hlt hinside
  -- as lengths in bytes order the cuts, `passed` is a proper front of the declaration
  obtain ⟨more, hmore, -⟩ := exists_append_of_byteLength_le htext.symm (by omega)
  have hpassed : passed ≠ [] := by
    rintro rfl
    simp at hlt
  have hne : more ≠ [] := by
    rintro rfl
    rw [List.append_nil] at hmore
    rw [hmore] at hafter
    omega
  have hlength : passed.length < o.declaration.text.length := by
    have := List.length_pos_iff.2 hne
    rw [hmore, List.length_append]
    omega
  -- so the overlap lies in the specifier, with something of it `behind` the second keyword
  obtain ⟨before, behind, hspecifier, hbehind, rfl⟩ :=
    Declaration.overlap_in_quotes htext hpassed hlength
  have hpos := byteLength_pos hbehind
  rw [closeQuote, openQuote, hstands.offset_eq, hspecifier]
  simp only [byteLength_append, byteLength_cons, Quote.utf8Size_mark]
  omega

end Occurrence

/-! ## What a plain scan takes -/

namespace Source

namespace PlainScan

variable {forms : List Form} {source : List Char} {pos : Nat} {os : List Occurrence}
  {o o' : Occurrence}

theorem standsIn (h : PlainScan forms source pos os) (ho : o ∈ os) :
    o.StandsIn source ∧ pos ≤ o.offset := by
  induction h with
  | done => cases ho
  | step next more ih =>
    rcases List.mem_cons.1 ho with rfl | ho
    · exact ⟨next.stands, next.pos_le⟩
    · -- the others are taken from the end of the first one on
      have hlt := next.stands.offset_lt_after
      have hle := next.pos_le
      obtain ⟨hstands, hahead⟩ := ih ho
      exact ⟨hstands, by omega⟩

/-- **The matches of a scan lie apart, in order.** -/
theorem pairwise (h : PlainScan forms source pos os) :
    os.Pairwise fun a b => a.after.offset ≤ b.offset := by
  induction h with
  | done => exact .nil
  | step next more ih => exact .cons (fun _ ho => (more.standsIn ho).2) ih

/-- So their offsets increase. -/
theorem pairwise_offset (h : PlainScan forms source pos os) :
    os.Pairwise fun a b => a.offset < b.offset := by
  refine h.pairwise.imp_of_mem ?_
  intro a b ha _ hle
  exact Nat.lt_of_lt_of_le (h.standsIn ha).1.offset_lt_after hle

/-- Two matches of a scan are the same, or one ends before the other starts. -/
theorem apart (h : PlainScan forms source pos os) (ho : o ∈ os) (ho' : o' ∈ os) :
    o = o' ∨ o.after.offset ≤ o'.offset ∨ o'.after.offset ≤ o.offset := by
  obtain ⟨i, hi, rfl⟩ := List.mem_iff_getElem.1 ho
  obtain ⟨j, hj, rfl⟩ := List.mem_iff_getElem.1 ho'
  have hpairs := List.pairwise_iff_getElem.1 h.pairwise
  -- compare where they stand in the list
  rcases Nat.lt_trichotomy i j with hlt | rfl | hlt
  · exact .inr (.inl (hpairs i j hi hj hlt))
  · exact .inl rfl
  · exact .inr (.inr (hpairs j i hj hi hlt))

/-- **A match is taken, or starts inside one that is taken.** -/
theorem covers (h : PlainScan forms source pos os) (ho : o.StandsIn source)
    (hform : o.declaration.form ∈ forms) (hle : pos ≤ o.offset) :
    o ∈ os ∨ ∃ o' ∈ os, o'.offset < o.offset ∧ o.offset < o'.after.offset := by
  induction h with
  | done none =>
    have hlt := none o ho hform
    omega
  | @step pos taken os next more ih =>
    -- `taken` starts first; see where `o` starts: with it, inside it, or after it
    have hfirst := next.earliest o ho hform hle
    by_cases hahead : taken.after.offset ≤ o.offset
    · rcases ih hahead with hmem | ⟨o', ho', hinside⟩
      · exact .inl (.tail _ hmem)
      · exact .inr ⟨o', .tail _ ho', hinside⟩
    · rcases Nat.eq_or_lt_of_le hfirst with heq | hlt
      · rw [next.stands.unique ho heq]
        exact .inl (.head _)
      · exact .inr ⟨taken, .head _, hlt, Nat.lt_of_not_le hahead⟩

end PlainScan

theorem plainScan_occurrences (source : List Char) :
    PlainScan Form.all source 0 (occurrences source) :=
  plainScan_iff.2 rfl

theorem mem_imports {source : String} {i : ScannedImport} :
    i ∈ imports source ↔ ∃ o ∈ occurrences source.toList, o.import? = some i :=
  List.mem_filterMap

end Source

/-- What a report says of the match behind it. -/
theorem Occurrence.import?_eq_some {o : Occurrence} {i : ScannedImport} :
    o.import? = some i ↔ o.declaration.specifier ≠ [] ∧ o.offset = i.offset ∧
      o.declaration.form = i.form ∧ o.declaration.specifier = i.specifier.toList := by
  obtain ⟨offset, form, specifier⟩ := i
  have hspecifier : String.ofList o.declaration.specifier = specifier ↔
      o.declaration.specifier = specifier.toList := by
    constructor
    · rintro rfl
      rw [String.toList_ofList]
    · intro h
      rw [h, String.ofList_toList]
  rw [import?]
  split
  · next hempty => simp [List.isEmpty_iff.1 hempty]
  · next hne =>
    rw [Option.some.injEq, ScannedImport.mk.injEq, hspecifier]
    exact ⟨fun h => ⟨fun hnil => hne (by simp [hnil]), h⟩, fun h => h.2⟩

/-! ## Nothing is lost but what stands in quotes -/

namespace Source

/-- **A declaration is reported, unless it stands in a specifier.** A declaration
with a specifier that is not empty, written anywhere in a source, is reported with
its offset, form and specifier exactly if it does not start strictly between the
opening and the closing quote of a match that the scan takes. Such a match starts
earlier, as its opening quote does. -/
theorem mem_imports_iff {source : String} {offset : Nat} {d : Declaration}
    (hwritten : d.WrittenAt source.toList offset) (hne : d.specifier ≠ []) :
    ⟨offset, d.form, String.ofList d.specifier⟩ ∈ imports source ↔
      ¬ ∃ o ∈ occurrences source.toList, o.openQuote < offset ∧ offset < o.closeQuote := by
  have hscan := plainScan_occurrences source.toList
  constructor
  · -- a match reported from between the quotes of another one would overlap it
    rintro hmem ⟨o, ho, hopen, hclose⟩
    obtain ⟨o', ho', hreport⟩ := mem_imports.1 hmem
    have hoffset : o'.offset = offset := (Occurrence.import?_eq_some.1 hreport).2.1
    have hstart := o.offset_le_openQuote
    have hend := (hscan.standsIn ho).1.closeQuote_lt_after
    have hend' := (hscan.standsIn ho').1.offset_lt_after
    rcases hscan.apart ho ho' with rfl | hbefore | hafter
    · omega
    · omega
    · omega
  · -- the match that starts with the declaration is taken, as none that is taken covers it
    intro hfree
    obtain ⟨o, hstands, hoffset, hform, hsource⟩ := Occurrence.exists_standsIn_of_writtenAt hwritten
    have hspecifier := Declaration.specifier_congr hsource
    rcases hscan.covers hstands (Form.mem_all _) (Nat.zero_le _) with hmem | ⟨o', ho', hlt, hinside⟩
    · refine mem_imports.2 ⟨o, hmem, Occurrence.import?_eq_some.2 ⟨?_, hoffset, hform, ?_⟩⟩
      · rwa [hspecifier]
      · rw [hspecifier, String.toList_ofList]
    · rw [hoffset] at hlt hinside
      exact absurd ⟨o', ho', (hscan.standsIn ho').1.between_quotes hwritten hlt hinside⟩ hfree

/-- `import ok from 'ok'` -/
def okImport : Declaration :=
  .binds (.binding (.lit [' '] rfl) (.lit ['o', 'k'] rfl) (.lit [' '] rfl)) (.lit [' '] rfl)
    ⟨.single, .lit ['o', 'k'] rfl⟩

/-- A declaration that breaks off in its brace list, and one that does not. -/
def brokenThenOk : String :=
  "import \x7b broken from\nimport ok from 'ok'"

theorem mem_imports_brokenThenOk_iff :
    okImport.WrittenAt brokenThenOk.toList 21 ∧ okImport.specifier ≠ [] ∧
      (⟨21, okImport.form, String.ofList okImport.specifier⟩ ∈ imports brokenThenOk ↔
        ¬ ∃ o ∈ occurrences brokenThenOk.toList, o.openQuote < 21 ∧ 21 < o.closeQuote) ∧
      imports brokenThenOk = [⟨21, .default, "ok"⟩] := by
  have hwritten : okImport.WrittenAt brokenThenOk.toList 21 :=
    ⟨"import \x7b broken from\n".toList, [], by decide, by simp [EndsOutside, isWord], by decide⟩
  have hne : okImport.specifier ≠ [] := by decide
  exact ⟨hwritten, hne, mem_imports_iff hwritten hne, by decide +kernel⟩

end Source

/-! ## Nothing is reported but what stands in the source -/

/-- The import is written in the bytes of the source from its offset up to `stop`. -/
structure ScannedImport.SpanIn (source : String) (i : ScannedImport) (stop : Nat) : Prop where
  start_valid : (String.Pos.Raw.mk i.offset).IsValid source
  stop_valid  : (String.Pos.Raw.mk stop).IsValid source
  start_lt    : i.offset < stop
  boundary    : ∀ b ∈ byteBefore source i.offset, isWordByte b = false
  /-- The bytes derive from the grammar: they are a declaration of the form, in
  which the specifier stands between two equal quotes and on one line. -/
  derives     : ∃ d : Declaration, d.form = i.form ∧
    source.toByteArray.extract i.offset stop = (String.ofList d.text).toByteArray ∧
    d.text = d.lead ++ (d.source.quote.mark :: i.specifier.toList ++
      d.source.quote.mark :: d.closing) ∧
    ∀ c ∈ i.specifier.toList, c ≠ d.source.quote.mark ∧ c ≠ '\r' ∧ c ≠ '\n'
  /-- They do not derive as any other form, or with another specifier. -/
  only        : ∀ d : Declaration,
    source.toByteArray.extract i.offset stop = (String.ofList d.text).toByteArray →
    d.form = i.form ∧ d.specifier = i.specifier.toList
  not_empty   : i.specifier ≠ ""

namespace Occurrence

/-- What is reported of an occurrence, with the offset where the occurrence ends. -/
def span? (o : Occurrence) : Option (ScannedImport × Nat) :=
  o.import?.map fun i => (i, o.after.offset)

/-- **What is reported of a match is written in the bytes of the match.** -/
theorem StandsIn.spanIn {source : String} {o : Occurrence} {i : ScannedImport}
    (h : o.StandsIn source.toList) (hreport : o.import? = some i) :
    i.SpanIn source o.after.offset := by
  obtain ⟨hne, hoffset, hform, hspecifier⟩ := import?_eq_some.1 hreport
  have hlt := h.offset_lt_after
  have hafter := h.after_offset
  obtain ⟨front, rest, hsource, hstands⟩ := h
  -- offset and end of the match as cuts of the text
  have hstart : i.offset = byteLength front := hoffset.symm.trans hstands.offset_eq
  have hstop : o.after.offset = byteLength front + byteLength o.declaration.text := by
    rw [hafter, hoffset, hstart]
  have hsource' : source.toList = (front ++ o.declaration.text) ++ rest := by
    rw [hsource, List.append_assoc]
  have hbytes : source.toByteArray.extract i.offset o.after.offset =
      (String.ofList o.declaration.text).toByteArray := by
    rw [hstart, hstop, extract_of_split hsource]
  refine ⟨?_, ?_, ?_, ?_, ⟨o.declaration, hform, hbytes, ?_, ?_⟩, ?_, ?_⟩
  · rw [hstart]
    exact isValid_of_split hsource
  · rw [hstop, ← byteLength_append]
    exact isValid_of_split hsource'
  · rwa [← hoffset]
  · rw [hstart]
    exact byteBefore_of_split hsource hstands.boundary
  · rw [o.declaration.text_eq, o.declaration.source_text, hspecifier]
    simp
  · rw [← hspecifier]
    intro c hc
    have hadmits := o.declaration.source.specifier.all_mem c hc
    simpa [Quote.admits, and_assoc] using hadmits
  · -- bytes determine the characters, and those the form and the specifier
    intro d hd
    have htext : o.declaration.text ++ [] = d.text ++ [] := by
      rw [hbytes, String.toByteArray_inj, String.ofList_inj] at hd
      rw [hd]
    have hsource := Declaration.source_eq_of_append htext
    rw [← hform, ← hspecifier]
    exact ⟨(Declaration.form_eq_of_append htext).symm, (Declaration.specifier_congr hsource).symm⟩
  · intro hempty
    rw [hempty] at hspecifier
    exact hne hspecifier

end Occurrence

namespace Source

/-- **What is reported stands in the source.** Each import of a source has an end
such that the bytes from its offset up to there are a declaration of its form and
specifier, and these spans lie apart, in the order of the report. -/
theorem exists_spans_imports (source : String) :
    ∃ spans : List (ScannedImport × Nat), spans.map Prod.fst = imports source ∧
      (∀ s ∈ spans, s.1.SpanIn source s.2) ∧
      spans.Pairwise fun s t => s.2 ≤ t.1.offset := by
  have hscan := plainScan_occurrences source.toList
  refine ⟨(occurrences source.toList).filterMap Occurrence.span?, ?_, ?_, ?_⟩
  · rw [List.map_filterMap, imports]
    congr 1
    funext o
    cases h : o.import? <;> simp [Occurrence.span?, h]
  · intro s hs
    obtain ⟨o, ho, hspan⟩ := List.mem_filterMap.1 hs
    obtain ⟨i, hreport, rfl⟩ := Option.map_eq_some_iff.1 hspan
    exact (hscan.standsIn ho).1.spanIn hreport
  · -- dropping the empty specifiers keeps the others apart
    refine hscan.pairwise.filterMap Occurrence.span? ?_
    intro o o' hapart s hs s' hs'
    obtain ⟨i, -, rfl⟩ := Option.map_eq_some_iff.1 hs
    obtain ⟨i', hreport, rfl⟩ := Option.map_eq_some_iff.1 hs'
    have hoffset := (Occurrence.import?_eq_some.1 hreport).2.1
    rwa [hoffset] at hapart

end Source

end ImportMaps
