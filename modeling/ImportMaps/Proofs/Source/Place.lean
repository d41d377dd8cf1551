import ImportMaps.Proofs.Declaration.Reading
import ImportMaps.Source.Scan

/-!
# ImportMaps — places in a source and what stands there

A cursor carries what a search needs: the text ahead, the byte offset and the
character before. In a given source all three follow from one cut of the text
into a front and a rest (`Cursor.between`), and byte offsets order the cuts of
one source as the lengths of their fronts do.

`Occurrence.StandsIn` says, without any reader, that an occurrence is a match in
a source: the source is cut into front, declaration and rest, the front does not
end in a word character, and the declaration is whole.

Main results:

* `Cursor.occurrence?_between` — testing a place finds what stands there.
* `Cursor.first?_eq_some` / `Cursor.first?_eq_none` — a search returns the first
  success, and none only if there is none.
* `Cursor.first?_skip` — a search may start later as long as it skips failures
  only: the fact behind every cache of search results.
* `Occurrence.StandsIn.unique` — one occurrence at most at a place.
-/

namespace ImportMaps

open Text

/-! ## Cursors and cuts -/

namespace Cursor

/-- The place between a front and a rest of a source. -/
def between (front rest : List Char) : Cursor :=
  ⟨front.getLast?, byteLength front, rest⟩

@[simp] theorem offset_between (front rest : List Char) :
    (between front rest).offset = byteLength front := rfl

@[simp] theorem rest_between (front rest : List Char) : (between front rest).rest = rest := rfl

theorem past_between (front taken rest ahead : List Char) :
    (between front ahead).past taken rest = between (front ++ taken) rest := by
  simp [past, between, List.getLast?_append]

/-- A keyword may start at a place when the front does not end in a word. -/
theorem atBoundary_between {front rest : List Char} :
    (between front rest).atBoundary = true ↔ EndsOutside isWord front := by
  rw [atBoundary, EndsOutside, between]
  cases front.getLast? with
  | none => simp
  | some c => simp

/-! ## Searching -/

theorem first?_between_nil {α : Type} (test : Cursor → Option α) (front : List Char) :
    (between front []).first? test = test (between front []) := rfl

theorem first?_between_cons {α : Type} (test : Cursor → Option α) (front : List Char) (c : Char)
    (rest : List Char) :
    (between front (c :: rest)).first? test =
      (test (between front (c :: rest))).or ((between (front ++ [c]) rest).first? test) := by
  -- the cursor one character further on lies between the longer front and the rest
  have hnext : firstFrom? test (some c) (byteLength front + c.utf8Size) rest =
      (between (front ++ [c]) rest).first? test := by
    simp [first?, between]
  rw [first?, between, firstFrom?, ← hnext]
  cases test ⟨front.getLast?, byteLength front, c :: rest⟩ <;> rfl

/-- A search may start later, as long as it skips failures only. -/
theorem first?_skip {α : Type} {test : Cursor → Option α} {front skipped rest : List Char}
    (h : ∀ s t, skipped = s ++ t → t ≠ [] → test (between (front ++ s) (t ++ rest)) = none) :
    (between front (skipped ++ rest)).first? test =
      (between (front ++ skipped) rest).first? test := by
  induction skipped generalizing front with
  | nil => simp
  | cons c skipped ih =>
    have hhere : test (between front (c :: (skipped ++ rest))) = none := by
      simpa using h [] (c :: skipped) rfl (by simp)
    have hlater : ∀ s t, skipped = s ++ t → t ≠ [] →
        test (between (front ++ [c] ++ s) (t ++ rest)) = none := by
      intro s t hst ht
      simpa using h (c :: s) t (by simp [hst]) ht
    rw [List.cons_append, first?_between_cons, hhere, Option.none_or, ih hlater]
    simp

theorem first?_eq_none {α : Type} {test : Cursor → Option α} {front rest : List Char} :
    (between front rest).first? test = none ↔
      ∀ s t, rest = s ++ t → test (between (front ++ s) t) = none := by
  induction rest generalizing front with
  | nil => simp [first?_between_nil]
  | cons c rest ih =>
    rw [first?_between_cons, Option.or_eq_none_iff, ih]
    constructor
    · rintro ⟨hhere, hlater⟩ s t hst
      -- a place is either here or in the rest
      cases s with
      | nil =>
        obtain rfl : c :: rest = t := hst
        simpa using hhere
      | cons b s =>
        obtain ⟨rfl, hrest⟩ := List.cons.inj hst
        simpa using hlater s t hrest
    · intro h
      refine ⟨by simpa using h [] (c :: rest) rfl, fun s t hst => ?_⟩
      simpa using h (c :: s) t (by simp [hst])

theorem first?_eq_some {α : Type} {test : Cursor → Option α} {front rest : List Char} {a : α}
    (h : (between front rest).first? test = some a) :
    ∃ skipped ahead, rest = skipped ++ ahead ∧ test (between (front ++ skipped) ahead) = some a ∧
      ∀ s t, skipped = s ++ t → t ≠ [] → test (between (front ++ s) (t ++ ahead)) = none := by
  induction rest generalizing front with
  | nil => exact ⟨[], [], rfl, by simpa [first?_between_nil] using h, by simp⟩
  | cons c rest ih =>
    rw [first?_between_cons, Option.or_eq_some_iff] at h
    rcases h with h | ⟨hhere, h⟩
    -- the search succeeds right here, or fails here and succeeds further on
    · exact ⟨[], c :: rest, rfl, by simpa using h, by simp⟩
    · obtain ⟨skipped, ahead, rfl, htest, hfail⟩ := ih h
      refine ⟨c :: skipped, ahead, rfl, by simpa using htest, ?_⟩
      intro s t hst ht
      cases s with
      | nil =>
        obtain rfl : c :: skipped = t := hst
        simpa using hhere
      | cons b s =>
        obtain ⟨rfl, hskipped⟩ := List.cons.inj hst
        simpa using hfail s t hskipped ht

end Cursor

/-! ## What stands in a source -/

/-- The occurrence is what stands between a front and a rest: the front does not
end in a word character, and the rest holds no semicolon that belongs to it. -/
structure Occurrence.StandsBetween (o : Occurrence) (front rest : List Char) : Prop where
  boundary  : EndsOutside isWord front
  whole     : o.declaration.Whole rest
  offset_eq : o.offset = byteLength front
  after_eq  : o.after = Cursor.between (front ++ o.declaration.text) rest

/-- The occurrence is a match in the source. -/
def Occurrence.StandsIn (source : List Char) (o : Occurrence) : Prop :=
  ∃ front rest, source = front ++ (o.declaration.text ++ rest) ∧ o.StandsBetween front rest

/-- **Testing a place finds what stands there.** -/
theorem Cursor.occurrence?_between {form : Form} {front cs : List Char} {o : Occurrence} :
    (between front cs).occurrence? form = some o ↔
      ∃ rest, cs = o.declaration.text ++ rest ∧ o.declaration.form = form ∧
        o.StandsBetween front rest := by
  constructor
  · -- what the reader returns is whole, and the cursor after it lies at its end
    intro h
    rw [occurrence?] at h
    split at h
    · next hboundary =>
      simp only [Option.map_eq_some_iff, Prod.exists] at h
      obtain ⟨d, rest, hread, rfl⟩ := h
      obtain ⟨hcs, hform, hwhole⟩ := Declaration.read?_eq_some_iff.1 hread
      exact ⟨rest, hcs, hform, atBoundary_between.1 hboundary, hwhole, rfl, past_between ..⟩
    · simp at h
  · rintro ⟨rest, rfl, rfl, hboundary, hwhole, hoffset, hafter⟩
    have hread := Declaration.read?_eq_some_iff.2 ⟨rfl, rfl, hwhole⟩
    rw [occurrence?, if_pos (atBoundary_between.2 hboundary), rest_between, hread]
    obtain ⟨offset, d, after⟩ := o
    simp only at hoffset hafter
    simp [hoffset, hafter, past_between]

namespace Declaration

theorem text_ne_nil (d : Declaration) : d.text ≠ [] := by
  obtain ⟨more, hmore⟩ := d.exists_text_eq
  simp [hmore, importWord]

end Declaration

namespace Occurrence

variable {source : List Char} {o o' : Occurrence}

theorem StandsBetween.after_offset {front rest : List Char} (h : o.StandsBetween front rest) :
    o.after.offset = o.offset + byteLength o.declaration.text := by
  rw [h.after_eq, h.offset_eq, Cursor.offset_between, byteLength_append]

theorem StandsIn.after_offset (h : o.StandsIn source) :
    o.after.offset = o.offset + byteLength o.declaration.text := by
  obtain ⟨front, rest, -, hstands⟩ := h
  exact hstands.after_offset

theorem StandsIn.offset_lt_after (h : o.StandsIn source) : o.offset < o.after.offset := by
  have := byteLength_pos o.declaration.text_ne_nil
  have := h.after_offset
  omega

theorem StandsIn.after_le (h : o.StandsIn source) : o.after.offset ≤ byteLength source := by
  have hafter := h.after_offset
  obtain ⟨front, rest, rfl, hstands⟩ := h
  rw [hafter, hstands.offset_eq, byteLength_append, byteLength_append]
  omega

/-- **One occurrence at most stands at a place.** -/
theorem StandsIn.unique (h : o.StandsIn source) (h' : o'.StandsIn source)
    (heq : o.offset = o'.offset) : o = o' := by
  obtain ⟨front, rest, hsource, hstands⟩ := h
  obtain ⟨front', rest', hsource', hstands'⟩ := h'
  rw [hstands.offset_eq, hstands'.offset_eq] at heq
  -- equal offsets mean equal fronts, and a text is read in one way only
  obtain ⟨rfl, htext⟩ := eq_of_byteLength_eq (hsource.symm.trans hsource') heq
  obtain ⟨hdeclaration, rfl⟩ :=
    Declaration.eq_of_append_of_whole htext hstands.whole hstands'.whole
  have hoffset := hstands.offset_eq.trans hstands'.offset_eq.symm
  have hafter := hstands.after_eq
  rw [hdeclaration, ← hstands'.after_eq] at hafter
  obtain ⟨offset, d, after⟩ := o
  obtain ⟨offset', d', after'⟩ := o'
  simp_all

end Occurrence

end ImportMaps
