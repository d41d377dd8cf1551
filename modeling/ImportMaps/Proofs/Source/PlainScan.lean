import ImportMaps.Proofs.Source.Place

/-!
# ImportMaps — the scan without a memory

The meaning of a scan is said here without readers, cursors or slots: from a byte
offset on, take the match that starts first, go on where it ends, stop when no
match is left (`Source.PlainScan`). Matches are those of the grammar in the whole
source (`Occurrence.StandsIn`), so the character before a keyword counts even when
it lies before the offset.

Main results:

* `Cursor.findAny?_eq_some_iff` / `Cursor.findAny?_eq_none_iff` — a fresh search
  finds the next match, and fails only when there is none.
* `Source.plainScan_plainSelect` — searching afresh at every step is the plain
  scan.
* `Source.PlainScan.unique` — a source has one plain scan.
-/

namespace ImportMaps

open Text

/-! ## The plain scan -/

namespace Source

/-- The match that a plain scan takes at the offset: of those that start at or
after it one that starts earliest, and where several forms match there, the form
that is listed first. -/
structure IsNext (forms : List Form) (source : List Char) (pos : Nat) (o : Occurrence) : Prop where
  stands   : o.StandsIn source
  form_mem : o.declaration.form ∈ forms
  pos_le   : pos ≤ o.offset
  earliest : ∀ o' : Occurrence, o'.StandsIn source → o'.declaration.form ∈ forms →
    pos ≤ o'.offset → o.offset ≤ o'.offset
  first    : ∀ o' : Occurrence, o'.StandsIn source → o'.declaration.form ∈ forms →
    o'.offset = o.offset → forms.idxOf o.declaration.form ≤ forms.idxOf o'.declaration.form

/-- The matches that a plain scan takes from an offset on: the next one, and those
from its end on. -/
inductive PlainScan (forms : List Form) (source : List Char) : Nat → List Occurrence → Prop where
  | done {pos : Nat}
      (none : ∀ o : Occurrence, o.StandsIn source → o.declaration.form ∈ forms → o.offset < pos) :
      PlainScan forms source pos []
  | step {pos : Nat} {o : Occurrence} {os : List Occurrence} (next : IsNext forms source pos o)
      (more : PlainScan forms source o.after.offset os) : PlainScan forms source pos (o :: os)

/-- The match taken ends after the place from which it is taken. -/
theorem IsNext.lt_after {forms : List Form} {source : List Char} {pos : Nat} {o : Occurrence}
    (h : IsNext forms source pos o) : pos < o.after.offset := by
  have hle := h.pos_le
  have hlt := h.stands.offset_lt_after
  omega

theorem IsNext.unique {forms : List Form} {source : List Char} {pos : Nat} {o o' : Occurrence}
    (h : IsNext forms source pos o) (h' : IsNext forms source pos o') : o = o' := by
  have hle := h.earliest o' h'.stands h'.form_mem h'.pos_le
  have hle' := h'.earliest o h.stands h.form_mem h.pos_le
  exact h.stands.unique h'.stands (Nat.le_antisymm hle hle')

/-- **A source has one plain scan from an offset.** -/
theorem PlainScan.unique {forms : List Form} {source : List Char} {pos : Nat}
    {os os' : List Occurrence} (h : PlainScan forms source pos os)
    (h' : PlainScan forms source pos os') : os = os' := by
  induction h generalizing os' with
  | done hnone =>
    cases h' with
    | done => rfl
    | step next more =>
      -- one scan is at its end, so the other has nothing to take
      have hlt := hnone _ next.stands next.form_mem
      have hle := next.pos_le
      omega
  | step next more ih =>
    cases h' with
    | done hnone =>
      have hlt := hnone _ next.stands next.form_mem
      have hle := next.pos_le
      omega
    | step next' more' =>
      obtain rfl := next.unique next'
      rw [ih more']

end Source

/-! ## A fresh search finds the next match -/

namespace Cursor

/-- The cursor is a place of the source. -/
def IsPlace (source : List Char) (c : Cursor) : Prop :=
  ∃ front rest, source = front ++ rest ∧ c = between front rest

theorem isPlace_start (source : List Char) : (start source).IsPlace source :=
  ⟨[], source, rfl, rfl⟩

end Cursor

namespace Occurrence

variable {source : List Char} {o : Occurrence}

theorem StandsIn.isPlace_after (h : o.StandsIn source) : o.after.IsPlace source := by
  obtain ⟨front, rest, rfl, hstands⟩ := h
  exact ⟨front ++ o.declaration.text, rest, by simp, hstands.after_eq⟩

/-- A match at or after a place lies in the text ahead of it. -/
theorem StandsIn.exists_ahead {front rest : List Char} (h : o.StandsIn (front ++ rest))
    (hle : byteLength front ≤ o.offset) :
    ∃ skipped ahead, rest = skipped ++ (o.declaration.text ++ ahead) ∧
      o.StandsBetween (front ++ skipped) ahead := by
  obtain ⟨front', ahead, hsource, hstands⟩ := h
  rw [hstands.offset_eq] at hle
  obtain ⟨skipped, rfl, hrest⟩ := exists_append_of_byteLength_le hsource hle
  exact ⟨skipped, ahead, hrest, hstands⟩

/-- The test at the place of a match succeeds. -/
theorem StandsBetween.occurrence? {front rest : List Char} (h : o.StandsBetween front rest) :
    (Cursor.between front (o.declaration.text ++ rest)).occurrence? o.declaration.form = some o :=
  Cursor.occurrence?_between.2 ⟨rest, rfl, rfl, h⟩

end Occurrence

namespace Cursor

variable {forms : List Form} {front rest : List Char} {o : Occurrence}

/-- A success at some place further on is a match in the source. -/
theorem standsIn_of_occurrence? {form : Form} {s t : List Char}
    (h : (between (front ++ s) t).occurrence? form = some o) :
    o.StandsIn (front ++ (s ++ t)) ∧ o.declaration.form = form ∧
      o.offset = byteLength front + byteLength s := by
  obtain ⟨ahead, rfl, hform, hstands⟩ := occurrence?_between.1 h
  refine ⟨⟨front ++ s, ahead, by simp, hstands⟩, hform, ?_⟩
  rw [hstands.offset_eq, byteLength_append]

/-- **A fresh search fails only when no match is left.** -/
theorem findAny?_eq_none_iff :
    (between front rest).findAny? forms = none ↔
      ∀ o : Occurrence, o.StandsIn (front ++ rest) → o.declaration.form ∈ forms →
        o.offset < byteLength front := by
  rw [findAny?, first?_eq_none]
  constructor
  · intro h o hstands hform
    refine Nat.lt_of_not_le ?_
    intro hle
    -- a match ahead would make the test at its place succeed
    obtain ⟨skipped, ahead, hrest, hbetween⟩ := hstands.exists_ahead hle
    have hnone := List.findSome?_eq_none_iff.1 (h skipped _ hrest) _ hform
    rw [hbetween.occurrence?] at hnone
    simp at hnone
  · intro h s t hst
    refine List.findSome?_eq_none_iff.2 ?_
    intro form hform
    cases htest : (between (front ++ s) t).occurrence? form with
    | none => rfl
    | some o =>
      obtain ⟨hstands, rfl, hoffset⟩ := standsIn_of_occurrence? htest
      have := h o (hst ▸ hstands) hform
      omega

/-- What a fresh search finds is the next match. -/
theorem isNext_of_findAny? (h : (between front rest).findAny? forms = some o) :
    Source.IsNext forms (front ++ rest) (byteLength front) o := by
  rw [findAny?] at h
  obtain ⟨skipped, ahead, rfl, htest, hfail⟩ := first?_eq_some h
  obtain ⟨before, form, after, hforms, hoccurrence, -⟩ := List.findSome?_eq_some_iff.1 htest
  obtain ⟨hstands, hform, hoffset⟩ := standsIn_of_occurrence? hoccurrence
  refine ⟨hstands, by simp [hform, hforms], by omega, ?_, ?_⟩
  · intro o' hstands' hform' hle
    refine Nat.le_of_not_lt ?_
    intro hlt
    obtain ⟨skipped', ahead', hrest, hbetween⟩ := hstands'.exists_ahead hle
    have hskipped : byteLength skipped' < byteLength skipped := by
      have := hbetween.offset_eq
      rw [byteLength_append] at this
      omega
    -- an earlier match would be a place that the search has passed over
    obtain ⟨mid, rfl, hmid⟩ :=
      exists_append_of_byteLength_le hrest.symm (Nat.le_of_lt hskipped)
    have hne : mid ≠ [] := by
      rintro rfl
      simp at hskipped
    have hnone := List.findSome?_eq_none_iff.1 (hfail skipped' mid rfl hne) _ hform'
    rw [← hmid, hbetween.occurrence?] at hnone
    simp at hnone
  · -- no two forms match at one place, so there is no tie to break
    intro o' hstands' _ heq
    obtain rfl := hstands'.unique hstands heq
    exact Nat.le_refl _

/-- **A fresh search finds exactly the next match.** -/
theorem findAny?_eq_some_iff :
    (between front rest).findAny? forms = some o ↔
      Source.IsNext forms (front ++ rest) (byteLength front) o := by
  refine ⟨isNext_of_findAny?, ?_⟩
  intro h
  cases hfind : (between front rest).findAny? forms with
  | none =>
    have hlt := findAny?_eq_none_iff.1 hfind o h.stands h.form_mem
    have hle := h.pos_le
    omega
  | some o' => rw [h.unique (isNext_of_findAny? hfind)]

/-- What a search from a place finds is the next match from there. -/
theorem IsPlace.isNext {source : List Char} {c : Cursor} (hc : c.IsPlace source)
    (h : c.findAny? forms = some o) : Source.IsNext forms source c.offset o := by
  obtain ⟨front, rest, rfl, rfl⟩ := hc
  exact findAny?_eq_some_iff.1 h

end Cursor

/-! ## Searching afresh at every step is the plain scan -/

namespace Source

/-- The search goes on until nothing is found: what is found lies ahead and within
the source. -/
theorem plainSelect_eq {forms : List Form} {source : List Char} {c : Cursor}
    (hc : c.IsPlace source) :
    plainSelect (byteLength source) forms c =
      match c.findAny? forms with
      | none => []
      | some o => o :: plainSelect (byteLength source) forms o.after := by
  rw [plainSelect]
  cases hfind : c.findAny? forms with
  | none => rfl
  | some o =>
    have hnext := hc.isNext hfind
    have hguard : c.offset < o.after.offset ∧ o.after.offset ≤ byteLength source :=
      ⟨hnext.lt_after, hnext.stands.after_le⟩
    simp only [hguard, and_self, if_true]

/-- **Searching afresh at every step is the plain scan.** -/
theorem plainScan_plainSelect {forms : List Form} {source : List Char} {c : Cursor}
    (hc : c.IsPlace source) :
    PlainScan forms source c.offset (plainSelect (byteLength source) forms c) := by
  rw [plainSelect_eq hc]
  cases hfind : c.findAny? forms with
  | none =>
    obtain ⟨front, rest, rfl, rfl⟩ := hc
    exact .done (Cursor.findAny?_eq_none_iff.1 hfind)
  | some o =>
    have hnext := hc.isNext hfind
    have hlt := hnext.lt_after
    have hafter := hnext.stands.after_le
    exact .step hnext (plainScan_plainSelect hnext.stands.isPlace_after)
  termination_by byteLength source - c.offset

end Source

end ImportMaps
