import ImportMaps.Proofs.Source.Coverage

/-!
# ImportMaps — the forms do not compete

Five forms are tried at every place of a source, and a tie would go to the form that is
tried first. There is none: whatever declarations can be seen at one place, in whatever
way the text is divided among their tokens, they have one form and one specifier
(`Declaration.WrittenAt.eq_form_source`). A search tests one form after the other, and at
such a place one test succeeds and all others fail
(`Declaration.WrittenAt.exists_occurrence?`).

Hence the order of the forms says nothing. The next match from an offset is the next one
for any list of the same forms (`Source.IsNext.of_mem_iff`), and by induction on the scan
so is every match after it (`Source.PlainScan.of_mem_iff`).

Main result:

* `Source.forms_unambiguous` — one form, one specifier, and the same imports for the forms
  in any order.
-/

namespace ImportMaps

open Text

/-! ## One declaration at a place -/

/-- Declarations written at one place have the same form and the same source. They need
not be the same: one may have a semicolon that the other leaves alone. -/
theorem Declaration.WrittenAt.eq_form_source {source : List Char} {offset : Nat}
    {d d' : Declaration} (h : d.WrittenAt source offset) (h' : d'.WrittenAt source offset) :
    d.form = d'.form ∧ d.source = d'.source := by
  obtain ⟨front, rest, hsource, -, hoffset⟩ := h
  obtain ⟨front', rest', hsource', -, hoffset'⟩ := h'
  -- one offset is one cut of the source, so both stand at the front of one text
  obtain ⟨-, htext⟩ :=
    eq_of_byteLength_eq (hsource.symm.trans hsource') (hoffset.trans hoffset'.symm)
  exact ⟨form_eq_of_append htext, source_eq_of_append htext⟩

/-- At most one form is found at a place, and one match of it. -/
theorem Cursor.occurrence?_unique {source : List Char} {c : Cursor} (hc : c.IsPlace source)
    {form form' : Form} {o o' : Occurrence} (h : c.occurrence? form = some o)
    (h' : c.occurrence? form' = some o') : form = form' ∧ o = o' := by
  obtain ⟨front, rest, rfl, rfl⟩ := hc
  obtain ⟨ahead, rfl, rfl, hstands⟩ := occurrence?_between.1 h
  obtain ⟨ahead', htext, rfl, hstands'⟩ := occurrence?_between.1 h'
  have hsame : o = o' := by
    refine Occurrence.StandsIn.unique ⟨front, ahead, rfl, hstands⟩ ⟨front, ahead', ?_, hstands'⟩
      (hstands.offset_eq.trans hstands'.offset_eq.symm)
    rw [htext]
  exact ⟨congrArg (·.declaration.form) hsame, hsame⟩

/-- Where a declaration is written its form is found, with its source, and no other form
is. -/
theorem Declaration.WrittenAt.exists_occurrence? {source : List Char} {c : Cursor}
    (hc : c.IsPlace source) {d : Declaration} (h : d.WrittenAt source c.offset) :
    ∃ o, c.occurrence? d.form = some o ∧ o.declaration.source = d.source ∧
      ∀ form, form ≠ d.form → c.occurrence? form = none := by
  have hplace := hc
  obtain ⟨front, rest, hsource, rfl⟩ := hc
  obtain ⟨front', rest', hsource', hboundary, hoffset⟩ := h
  -- the declaration stands right at the cursor
  obtain ⟨rfl, htext⟩ := eq_of_byteLength_eq (hsource'.symm.trans hsource) hoffset
  obtain ⟨o, taken, ahead, hrest, hwhole, -, hform, hd, hstands⟩ :=
    Occurrence.exists_standsBetween d hboundary rest'
  have hfound : (Cursor.between front' rest).occurrence? d.form = some o := by
    refine Cursor.occurrence?_between.2 ⟨ahead, ?_, hform, hstands⟩
    rw [← htext, hwhole, hrest, List.append_assoc]
  refine ⟨o, hfound, hd, ?_⟩
  intro form hne
  cases hother : (Cursor.between front' rest).occurrence? form with
  | none => rfl
  | some o' => exact absurd (Cursor.occurrence?_unique hplace hother hfound).1 hne

/-! ## The order of the forms -/

namespace Source

variable {forms forms' : List Form} {source : List Char} {pos : Nat}

/-- **One step**: with the same forms in another order the next match is the same. -/
theorem IsNext.of_mem_iff (hforms : ∀ f, f ∈ forms ↔ f ∈ forms') {o : Occurrence}
    (h : IsNext forms source pos o) : IsNext forms' source pos o := by
  refine ⟨h.stands, (hforms _).1 h.form_mem, h.pos_le, ?_, ?_⟩
  · intro o' hstands hform hle
    exact h.earliest o' hstands ((hforms _).2 hform) hle
  · -- a match that starts with it is the match itself
    intro o' hstands _ heq
    obtain rfl := hstands.unique h.stands heq
    exact Nat.le_refl _

/-- **The run**: by induction on the scan. -/
theorem PlainScan.of_mem_iff (hforms : ∀ f, f ∈ forms ↔ f ∈ forms') {os : List Occurrence}
    (h : PlainScan forms source pos os) : PlainScan forms' source pos os := by
  induction h with
  | done none =>
    refine .done ?_
    intro o hstands hform
    exact none o hstands ((hforms _).2 hform)
  | step next more ih => exact .step (next.of_mem_iff hforms) ih

theorem occurrencesBy_eq_of_mem_iff (hforms : ∀ f, f ∈ forms ↔ f ∈ forms') :
    occurrencesBy forms source = occurrencesBy forms' source :=
  plainScan_iff.1 ((plainScan_iff.2 rfl).of_mem_iff hforms)

/-- The imports of a source when the forms are tried in this order. -/
def importsBy (forms : List Form) (source : String) : List ScannedImport :=
  (occurrencesBy forms source.toList).filterMap Occurrence.import?

/-- **The forms are unambiguous.** Whatever declarations are written at one offset of a
source, they have the same form and the same specifier; a search finds that form there,
with that specifier, and no other form. So the source has the same imports in whatever
order the forms are tried. -/
theorem forms_unambiguous (source : String) :
    (∀ offset (d d' : Declaration), d.WrittenAt source.toList offset →
      d'.WrittenAt source.toList offset → d.form = d'.form ∧ d.specifier = d'.specifier) ∧
    (∀ c : Cursor, c.IsPlace source.toList → ∀ d : Declaration,
      d.WrittenAt source.toList c.offset →
        ∃ o, c.occurrence? d.form = some o ∧ o.declaration.specifier = d.specifier ∧
          ∀ form, form ≠ d.form → c.occurrence? form = none) ∧
    ∀ forms, forms.Perm Form.all → importsBy forms source = imports source := by
  refine ⟨?_, ?_, ?_⟩
  · intro offset d d' h h'
    obtain ⟨hform, hsource⟩ := h.eq_form_source h'
    exact ⟨hform, Declaration.specifier_congr hsource⟩
  · intro c hc d h
    obtain ⟨o, hfound, hsource, hothers⟩ := h.exists_occurrence? hc
    exact ⟨o, hfound, Declaration.specifier_congr hsource, hothers⟩
  · intro forms hforms
    rw [importsBy, occurrencesBy_eq_of_mem_iff fun _ => hforms.mem_iff]
    rfl

/-- An import of `x` behind a tab, with or without the semicolon that follows it. -/
def importX (closing : Option Gap) : Declaration :=
  .sideEffect (.lit ['\t'] rfl) ⟨.single, .lit ['x'] rfl⟩ closing

/-- Two different declarations are written at the start of a source, and the forms are
tried in the opposite order. -/
theorem forms_unambiguous_semicolon :
    (importX none).WrittenAt "import\t'x' ;".toList 0 ∧
    (importX (some (.lit [' '] rfl))).WrittenAt "import\t'x' ;".toList 0 ∧
    Form.all.reverse.Perm Form.all ∧
    (importX none).form = (importX (some (.lit [' '] rfl))).form ∧
    (importX none).specifier = (importX (some (.lit [' '] rfl))).specifier ∧
    importsBy Form.all.reverse "import\t'x' ;" = imports "import\t'x' ;" := by
  have hbare : (importX none).WrittenAt "import\t'x' ;".toList 0 :=
    ⟨[], " ;".toList, by decide, by simp [EndsOutside], rfl⟩
  have hclosed : (importX (some (.lit [' '] rfl))).WrittenAt "import\t'x' ;".toList 0 :=
    ⟨[], [], by decide, by simp [EndsOutside], rfl⟩
  have hperm : Form.all.reverse.Perm Form.all := List.reverse_perm Form.all
  obtain ⟨hwritten, -, horder⟩ := forms_unambiguous "import\t'x' ;"
  obtain ⟨hform, hspecifier⟩ := hwritten 0 _ _ hbare hclosed
  exact ⟨hbare, hclosed, hperm, hform, hspecifier, horder _ hperm⟩

end Source

end ImportMaps
