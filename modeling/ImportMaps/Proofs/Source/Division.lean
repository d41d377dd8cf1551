import ImportMaps.Proofs.Source.Coverage

/-!
# ImportMaps — a source divided into declarations and what lies between them

A scan divides a source: it skips text in which no declaration starts, takes a
declaration, and begins again after it. `Source.Division` says this of the text
alone, without offsets, cursors or readers. After a declaration a division begins
with a fresh text, because no declaration ends in a word character: what stands
before the cut has no say any more.

A division does not care whether a side-effect import has its semicolon. Left
behind, the semicolon is skipped text like any other, so a text can be divided in
several ways; all of them report the same.

Main results:

* `Source.exists_division` — every text can be divided.
* `Source.Division.exists_plainScan` — the run: a plain scan takes the declarations
  of a division one by one.
* `Source.imports_eq_reports` — the imports of a source are what any division of it
  reports.
-/

namespace ImportMaps

open Text

/-! ## Declarations in a row -/

/-- What is reported of a declaration at an offset: nothing when its specifier is
empty. -/
def Declaration.report? (d : Declaration) (offset : Nat) : Option ScannedImport :=
  if d.specifier.isEmpty then none else some ⟨offset, d.form, String.ofList d.specifier⟩

theorem Occurrence.import?_eq_report? (o : Occurrence) :
    o.import? = o.declaration.report? o.offset := rfl

/-- Only the form and the source of a declaration are reported. -/
theorem Declaration.report?_congr {d d' : Declaration} (hform : d.form = d'.form)
    (hsource : d.source = d'.source) (offset : Nat) : d.report? offset = d'.report? offset := by
  rw [report?, report?, hform, specifier_congr hsource]

/-- A declaration ends in a quote or a semicolon, so a keyword may follow it. -/
theorem Declaration.endsOutside_text (d : Declaration) : EndsOutside isWord d.text := by
  have hmark : ∀ q : Quote, isWord q.mark = false := by
    intro q
    cases q <;> decide
  cases d with
  | binds clause gap source =>
    rw [text, Quoted.text, ← List.append_assoc]
    exact .concat (hmark _) _
  | sideEffect gap source closing =>
    cases closing with
    | none =>
      rw [text, Quoted.text, closingText, List.append_nil, ← List.append_assoc]
      exact .concat (hmark _) _
    | some blanks =>
      rw [text, closingText, ← List.append_assoc]
      exact .concat (by decide) _

/-- Skipped text and the declaration after it. -/
structure Segment where
  skipped : List Char
  declaration : Declaration

namespace Segment

def text (s : Segment) : List Char :=
  s.skipped ++ s.declaration.text

/-- What is reported of segments that are written from an offset on. -/
def reports : Nat → List Segment → List ScannedImport
  | _, [] => []
  | offset, s :: segments =>
    (s.declaration.report? (offset + byteLength s.skipped)).toList ++
      reports (offset + byteLength s.text) segments

theorem reports_cons (offset : Nat) (skipped : List Char) (d : Declaration)
    (segments : List Segment) :
    reports offset (⟨skipped, d⟩ :: segments) =
      (d.report? (offset + byteLength skipped)).toList ++
        reports (offset + byteLength skipped + byteLength d.text) segments := by
  rw [reports, text, byteLength_append, Nat.add_assoc]

theorem reports_append (offset : Nat) (segments more : List Segment) :
    reports offset (segments ++ more) =
      reports offset segments ++ reports (offset + byteLength (segments.flatMap text)) more := by
  induction segments generalizing offset with
  | nil => rfl
  | cons s segments ih => simp [reports, ih, Nat.add_assoc]

end Segment

/-! ## Divisions -/

namespace Source

/-- A declaration starts at the place between a front and the text ahead. -/
def StartsAt (front ahead : List Char) : Prop :=
  EndsOutside isWord front ∧ ∃ (d : Declaration) (rest : List Char), ahead = d.text ++ rest

/-- No declaration starts in the skipped text when `ahead` follows it. -/
def Skippable (skipped ahead : List Char) : Prop :=
  ∀ front more, skipped = front ++ more → more ≠ [] → ¬ StartsAt front (more ++ ahead)

/-- The text is the segments one after the other and a last text to skip. -/
inductive Division : List Char → List Segment → Prop where
  | ending {text : List Char} (skippable : Skippable text []) : Division text []
  | segment {skipped rest : List Char} {d : Declaration} {segments : List Segment}
      (boundary : EndsOutside isWord skipped) (skippable : Skippable skipped (d.text ++ rest))
      (more : Division rest segments) :
      Division (skipped ++ (d.text ++ rest)) (⟨skipped, d⟩ :: segments)

/-! ## Every text can be divided -/

/-- Where a declaration starts, and only there, a test for all forms succeeds. -/
theorem findSome?_occurrence?_eq_none {front ahead : List Char} :
    Form.all.findSome? ((Cursor.between front ahead).occurrence? ·) = none ↔
      ¬ StartsAt front ahead := by
  rw [List.findSome?_eq_none_iff]
  constructor
  · rintro h ⟨hboundary, d, rest, rfl⟩
    obtain ⟨o, taken, left, rfl, htext, -, -, -, hstands⟩ :=
      Occurrence.exists_standsBetween d hboundary rest
    have hnone := h _ (Form.mem_all o.declaration.form)
    rw [← List.append_assoc, ← htext, hstands.occurrence?] at hnone
    simp at hnone
  · intro h form _
    cases htest : (Cursor.between front ahead).occurrence? form with
    | none => rfl
    | some o =>
      obtain ⟨rest, hahead, -, hstands⟩ := Cursor.occurrence?_between.1 htest
      exact absurd ⟨hstands.boundary, o.declaration, rest, hahead⟩ h

/-- **Every text can be divided**: a search finds the first declaration, and the rest is
shorter. -/
theorem exists_division (text : List Char) : ∃ segments, Division text segments := by
  cases hfind : (Cursor.between [] text).findAny? Form.all with
  | none =>
    have hnone := Cursor.first?_eq_none.1 hfind
    refine ⟨[], .ending ?_⟩
    intro front more htext _
    rw [List.append_nil]
    exact findSome?_occurrence?_eq_none.1 (hnone front more htext)
  | some o =>
    obtain ⟨skipped, ahead, htext, htest, hfail⟩ := Cursor.first?_eq_some hfind
    obtain ⟨form, -, hfound⟩ := List.exists_of_findSome?_eq_some htest
    obtain ⟨rest, rfl, -, hstands⟩ := Cursor.occurrence?_between.1 hfound
    -- the search found nothing before, and that is what may be skipped
    have hskippable : Skippable skipped (o.declaration.text ++ rest) := by
      intro front more hskipped hmore
      exact findSome?_occurrence?_eq_none.1 (hfail front more hskipped hmore)
    -- a declaration has a text, so the induction goes on with less
    have hshorter : rest.length < text.length := by
      have hpos := List.length_pos_iff.2 o.declaration.text_ne_nil
      rw [htext, List.length_append, List.length_append]
      omega
    obtain ⟨segments, hdivision⟩ := exists_division rest
    rw [htext]
    exact ⟨_, .segment hstands.boundary hskippable hdivision⟩
  termination_by text.length

/-! ## A plain scan takes the declarations of a division -/

/-- Text without the first letter of the keyword does not reach past the start of a
declaration. -/
theorem byteLength_le_of_not_mem {skipped rest taken ahead : List Char} {d : Declaration}
    (h : skipped ++ (d.text ++ rest) = taken ++ ahead) (htaken : 'i' ∉ taken) :
    byteLength taken ≤ byteLength skipped := by
  rcases List.append_eq_append_iff.1 h with ⟨behind, htakenEq, hbehind⟩ | ⟨left, hskipped, -⟩
  · obtain ⟨word, hword⟩ := d.exists_text_eq
    cases behind with
    | nil => simp [htakenEq]
    | cons c behind =>
      -- if it went on, it would take the first letter of the keyword
      rw [hword] at hbehind
      obtain rfl : 'i' = c := (List.cons.inj hbehind).1
      exact absurd (by simp [htakenEq]) htaken
  · simp [hskipped]

/-- No match starts in skipped text, whatever stands before it. -/
theorem Skippable.le_offset {front skipped ahead : List Char} {o : Occurrence}
    (h : Skippable skipped ahead) (ho : o.StandsIn (front ++ (skipped ++ ahead)))
    (hle : byteLength front ≤ o.offset) : byteLength (front ++ skipped) ≤ o.offset := by
  refine Nat.le_of_not_lt ?_
  intro hlt
  obtain ⟨passed, rest, hrest, hstands⟩ := ho.exists_ahead hle
  rw [hstands.offset_eq, byteLength_append, byteLength_append] at hlt
  obtain ⟨more, rfl, hmore⟩ := exists_append_of_byteLength_le hrest.symm (by omega)
  have hne : more ≠ [] := by
    rintro rfl
    simp at hlt
  exact h passed more rfl hne ⟨hstands.boundary.of_append, o.declaration, rest, hmore.symm⟩

/-- **A plain scan takes the declarations of a division one by one.** The place reached
is where the division begins, or what the last declaration has `taken` of its text lies
before it: blanks and a semicolon, in which no keyword can start. -/
theorem Division.exists_plainScan {text front taken ahead : List Char} {segments : List Segment}
    (h : Division text segments) (hfront : EndsOutside isWord front) (htaken : 'i' ∉ taken)
    (htext : text = taken ++ ahead) :
    ∃ os, PlainScan Form.all (front ++ text) (byteLength (front ++ taken)) os ∧
      os.filterMap Occurrence.import? = Segment.reports (byteLength front) segments := by
  induction h generalizing front taken ahead with
  | @ending text skippable =>
    refine ⟨[], .done ?_, rfl⟩
    intro o ho _
    refine Nat.lt_of_not_le ?_
    intro hle
    rw [byteLength_append] at hle
    -- a match would start at or after the end of the source
    have hend := skippable.le_offset (by simpa using ho) (by omega : byteLength front ≤ o.offset)
    have hlt := ho.offset_lt_after
    have hafter := ho.after_le
    omega
  | @segment skipped rest d segments boundary skippable more ih =>
    obtain ⟨o, taken', ahead', hrest, htextEq, htaken', hform, hsource, hstands⟩ :=
      Occurrence.exists_standsBetween d (hfront.append boundary) rest
    have hin : o.StandsIn (front ++ (skipped ++ (d.text ++ rest))) :=
      ⟨front ++ skipped, ahead', by simp [hrest, htextEq], hstands⟩
    -- the match taken now is the declaration of this segment
    have hnext : IsNext Form.all (front ++ (skipped ++ (d.text ++ rest)))
        (byteLength (front ++ taken)) o := by
      constructor
      · exact hin
      · exact Form.mem_all _
      · have hle := byteLength_le_of_not_mem htext htaken
        rw [hstands.offset_eq, byteLength_append, byteLength_append]
        omega
      · intro o' ho' _ hle
        rw [byteLength_append] at hle
        rw [hstands.offset_eq]
        exact skippable.le_offset ho' (by omega)
      · intro o' ho' _ heq
        obtain rfl := ho'.unique hin heq
        exact Nat.le_refl _
    -- and the scan goes on after it and what it has taken of the rest
    obtain ⟨os, hscan, hreports⟩ :=
      ih ((hfront.append boundary).append d.endsOutside_text) htaken' hrest
    have hafter : o.after.offset = byteLength (front ++ skipped ++ d.text ++ taken') := by
      rw [hstands.after_offset, hstands.offset_eq, htextEq]
      simp only [byteLength_append]
      omega
    refine ⟨o :: os, .step hnext ?_, ?_⟩
    · rw [hafter]
      simpa using hscan
    · have hreport : o.import? = d.report? (byteLength front + byteLength skipped) := by
        rw [Occurrence.import?_eq_report?, hstands.offset_eq, byteLength_append]
        exact Declaration.report?_congr hform hsource _
      rw [byteLength_append, byteLength_append] at hreports
      rw [Segment.reports_cons, ← hreport]
      cases himport : o.import? <;> simp [himport, hreports]

/-- **The imports of a source are what any division of it reports.** -/
theorem imports_eq_reports {source : String} {segments : List Segment}
    (h : Division source.toList segments) : imports source = Segment.reports 0 segments := by
  have hstart : EndsOutside isWord [] := by simp [EndsOutside]
  obtain ⟨os, hscan, hreports⟩ := h.exists_plainScan hstart List.not_mem_nil rfl
  rw [List.nil_append] at hscan
  obtain rfl := plainScan_iff.1 hscan
  exact hreports

end Source

end ImportMaps
