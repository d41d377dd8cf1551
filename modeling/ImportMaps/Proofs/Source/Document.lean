import ImportMaps.Proofs.Source.Division

/-!
# ImportMaps — scanning what was written

A document is a list of declarations, each with the text in front of it, and the
text after the last one. The texts between declarations are fillers: they do not
hold the keyword and do not run into it. Everything else is open, and as tokens are
runs (`Text.Run`), so is every choice of blanks, names and quotes.

Scanning a written document gives back its declarations, because the document is a
division of its own text (`Source.Division`): no declaration starts in a filler. A
semicolon that its author wrote as filler may be taken by the side-effect import
before it; a division does not care.

Main results:

* `Filler.skippable` — no declaration starts in a filler.
* `Source.division_passages` — a document divides its text into its passages.
* `Source.imports_text` — the imports of a document are its declarations.
-/

namespace ImportMaps

open Text

/-! ## Documents -/

/-- Text around declarations: the keyword does not stand in it. -/
structure Filler where
  chars : List Char
  no_keyword : ∀ before after, chars ≠ before ++ (importWord ++ after)

/-- A declaration that has something to report, with the filler in front of it. The
filler is empty or does not end in a word character. -/
structure Passage where
  filler : Filler
  boundary : EndsOutside isWord filler.chars
  declaration : Declaration
  specifier_ne_nil : declaration.specifier ≠ []

/-- Passages one after the other, and the filler after the last one. -/
structure Document where
  passages : List Passage
  ending : Filler

namespace Passage

/-- A passage as written. -/
def text (p : Passage) : List Char :=
  p.filler.chars ++ p.declaration.text

/-- What is to be reported of a passage that is written at an offset. -/
def report (offset : Nat) (p : Passage) : ScannedImport :=
  ⟨offset + byteLength p.filler.chars, p.declaration.form, String.ofList p.declaration.specifier⟩

/-- What is to be reported of passages that are written from an offset on. -/
def reports : Nat → List Passage → List ScannedImport
  | _, [] => []
  | offset, p :: ps => p.report offset :: reports (offset + byteLength p.text) ps

end Passage

namespace Document

/-- A document as written. -/
def text (doc : Document) : List Char :=
  doc.passages.flatMap Passage.text ++ doc.ending.chars

/-- The offset, form and specifier of each declaration, in order. -/
def reports (doc : Document) : List ScannedImport :=
  Passage.reports 0 doc.passages

end Document

/-! ## No declaration starts in a filler -/

namespace Filler

/-- Where a filler and a keyword open a text, no keyword starts in the filler. -/
theorem exists_append {f : Filler} {more skipped more' : List Char}
    (h : f.chars ++ (importWord ++ more) = skipped ++ (importWord ++ more')) :
    ∃ passed, skipped = f.chars ++ passed := by
  rcases List.append_eq_append_iff.1 h with ⟨passed, hskipped, -⟩ | ⟨left, hchars, hleft⟩
  · exact ⟨passed, hskipped⟩
  · -- the keyword starts `left` before the end of the filler, and the next one at its end
    rcases importWord_append_eq hleft with hnil | ⟨after, hafter, -⟩
    · exact ⟨[], by rw [hchars, hnil, List.append_assoc, List.append_nil, List.append_nil]⟩
    · rw [hafter] at hchars
      exact absurd hchars (f.no_keyword _ _)

/-- **No declaration starts in a filler that a declaration follows.** -/
theorem skippable (f : Filler) (d : Declaration) (rest : List Char) :
    Source.Skippable f.chars (d.text ++ rest) := by
  rintro front more hchars hmore ⟨-, e, rest', hstart⟩
  obtain ⟨word, hword⟩ := d.exists_text_eq
  obtain ⟨word', hword'⟩ := e.exists_text_eq
  have hkeywords : f.chars ++ (importWord ++ (word ++ rest)) =
      front ++ (importWord ++ (word' ++ rest')) := by
    rw [hword, hword', List.append_assoc, List.append_assoc] at hstart
    rw [hchars, List.append_assoc, hstart]
  -- the keyword would start at the end of the filler at the earliest
  obtain ⟨passed, hfront⟩ := exists_append hkeywords
  rw [hfront, List.append_assoc, List.self_eq_append_right] at hchars
  exact hmore (List.append_eq_nil_iff.1 hchars).2

/-- **No declaration starts in a filler that ends the source.** -/
theorem skippable_nil (f : Filler) : Source.Skippable f.chars [] := by
  rintro front more hchars - ⟨-, e, rest, hstart⟩
  obtain ⟨word, hword⟩ := e.exists_text_eq
  rw [List.append_nil, hword, List.append_assoc] at hstart
  rw [hstart] at hchars
  exact f.no_keyword _ _ hchars

end Filler

/-! ## Scanning a document -/

namespace Passage

def segment (p : Passage) : Segment :=
  ⟨p.filler.chars, p.declaration⟩

/-- A passage has something to report, as its specifier is not empty. -/
theorem reports_eq (offset : Nat) (passages : List Passage) :
    reports offset passages = Segment.reports offset (passages.map segment) := by
  induction passages generalizing offset with
  | nil => rfl
  | cons p passages ih =>
    have hreport : p.declaration.report? (offset + byteLength p.filler.chars) =
        some (p.report offset) := by
      simp [Declaration.report?, p.specifier_ne_nil, report]
    rw [List.map_cons, segment, Segment.reports_cons, hreport, reports, ih, text,
      byteLength_append, Nat.add_assoc]
    rfl

end Passage

namespace Source

/-- **Passages are a division of what is written of them.** -/
theorem division_passages (passages : List Passage) (ending : Filler) :
    Division (passages.flatMap Passage.text ++ ending.chars) (passages.map Passage.segment) := by
  induction passages with
  | nil => exact .ending ending.skippable_nil
  | cons p passages ih =>
    have hwritten : (p :: passages).flatMap Passage.text ++ ending.chars =
        p.filler.chars ++
          (p.declaration.text ++ (passages.flatMap Passage.text ++ ending.chars)) := by
      simp [Passage.text]
    rw [hwritten]
    exact .segment p.boundary (p.filler.skippable p.declaration _) ih

/-- **Scanning a document gives back its declarations**, each with the byte offset at
which it is written, its form and its specifier, in order. -/
theorem imports_text (doc : Document) : imports (String.ofList doc.text) = doc.reports := by
  have hdivision : Division (String.ofList doc.text).toList (doc.passages.map Passage.segment) := by
    rw [String.toList_ofList]
    exact division_passages doc.passages doc.ending
  rw [imports_eq_reports hdivision, Document.reports, Passage.reports_eq]

-- `import 'a' ;`, whose semicolon is filler here, and `import b from "c"` on the next line
example :
    Document.reports
      ⟨[⟨⟨[], fun _ _ => ne_append_importWord (by decide)⟩, by simp [EndsOutside],
          .sideEffect (.lit [' '] rfl) ⟨.single, .lit ['a'] rfl⟩ none, by decide⟩,
        ⟨⟨[' ', ';', '\n'], fun _ _ => ne_append_importWord (by decide)⟩,
          by simp [EndsOutside, isWord],
          .binds (.binding (.lit [' '] rfl) (.lit ['b'] rfl) (.lit [' '] rfl)) (.lit [' '] rfl)
            ⟨.double, .lit ['c'] rfl⟩, by decide⟩],
        ⟨[], fun _ _ => ne_append_importWord (by decide)⟩⟩ =
      [⟨0, .sideEffect, "a"⟩, ⟨13, .default, "c"⟩] := by
  decide

end Source

end ImportMaps
