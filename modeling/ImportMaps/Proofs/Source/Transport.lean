import ImportMaps.Proofs.Source.Coverage

/-!
# ImportMaps — sources that match alike

Two sources can have the same matches without being the same: one begins where the other
has got to, or they differ in characters that do not matter. `Source.Carries` says so of
a map of occurrences. It takes every match of the one source to a match of the other, of
the same form and so many bytes further on, and from there on the other source has no
match besides.

A scan asks for nothing else than where matches start and end, and so it takes
corresponding matches at every step.

Main results:

* `Source.IsNext.carry` — the step: the next match is carried to the next match.
* `Source.PlainScan.carry` — the run: a plain scan is carried to a plain scan.
-/

namespace ImportMaps.Source

/-- The matches of a source, carried over, are the matches of another source from so many
bytes on. -/
structure Carries (f : Occurrence → Occurrence) (source source' : List Char) (bytes : Nat) :
    Prop where
  form_eq         : ∀ o : Occurrence, (f o).declaration.form = o.declaration.form
  offset_eq       : ∀ o : Occurrence, (f o).offset = o.offset + bytes
  after_offset_eq : ∀ o : Occurrence, (f o).after.offset = o.after.offset + bytes
  stands          : ∀ {o : Occurrence}, o.StandsIn source → (f o).StandsIn source'
  onto            : ∀ {o' : Occurrence}, o'.StandsIn source' → bytes ≤ o'.offset →
    ∃ o : Occurrence, o.StandsIn source ∧ f o = o'

variable {f : Occurrence → Occurrence} {forms : List Form} {source source' : List Char}
  {bytes pos : Nat}

/-- **One step**: the next match is carried to the next match. -/
theorem IsNext.carry (h : Carries f source source' bytes) {o : Occurrence}
    (next : IsNext forms source pos o) : IsNext forms source' (pos + bytes) (f o) := by
  have hpos := next.pos_le
  have hoffset := h.offset_eq o
  refine ⟨h.stands next.stands, ?_, by omega, ?_, ?_⟩
  · rw [h.form_eq]
    exact next.form_mem
  -- a match of the other source that could come in between comes from a match of this one
  · intro o' hstands hform hle
    obtain ⟨o₁, hstands₁, rfl⟩ := h.onto hstands (by omega)
    rw [h.form_eq] at hform
    have hoffset₁ := h.offset_eq o₁
    have hfirst := next.earliest o₁ hstands₁ hform (by omega)
    omega
  · intro o' hstands hform heq
    obtain ⟨o₁, hstands₁, rfl⟩ := h.onto hstands (by omega)
    have hoffset₁ := h.offset_eq o₁
    rw [h.form_eq] at hform ⊢
    rw [h.form_eq]
    exact next.first o₁ hstands₁ hform (by omega)

/-- **The run**: by induction on the scan. -/
theorem PlainScan.carry (h : Carries f source source' bytes) {os : List Occurrence}
    (scan : PlainScan forms source pos os) :
    PlainScan forms source' (pos + bytes) (os.map f) := by
  induction scan with
  | @done pos none =>
    refine .done ?_
    intro o' hstands hform
    refine Nat.lt_of_not_le ?_
    intro hle
    -- nothing is left to carry over
    obtain ⟨o, hstands', rfl⟩ := h.onto hstands (by omega)
    rw [h.form_eq] at hform
    have hlt := none o hstands' hform
    have hoffset := h.offset_eq o
    omega
  | step next more ih =>
    rw [← h.after_offset_eq] at ih
    exact .step (next.carry h) ih

end ImportMaps.Source
