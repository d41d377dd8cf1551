import ImportMaps.Proofs.Source.PlainScan

/-!
# ImportMaps — what the scan remembers is what it would find

The scan that runs keeps one pending occurrence for every form and searches again
only for those that start before the place it has reached (`Slot.refresh`). This
module shows that the memory never goes stale: in every state of the scan each
slot holds the outcome of some earlier search (`Slot.Tracks`), and an earlier
search that found nothing, or something that still lies ahead, has the same
outcome when it is made again now (`Cursor.find?_eq_none_later`,
`Cursor.find?_eq_some_later`).

Main results:

* `Slot.refresh_eq_fill` — a refreshed slot is the slot that a fresh search fills.
* `Slot.earliest_fill` — the earliest pending occurrence is the next match of any
  form.
* `Source.occurrencesBy_eq_plainOccurrences` — the scan with slots selects what the
  scan without them selects.
* `Source.imports_iff_plainScan` — hence the imports of a source are those of its
  plain scan, in every state of which slots and fresh searches agree.
-/

namespace ImportMaps

open Text

/-! ## Searching again from a later place -/

namespace Cursor

variable {source : List Char} {c c' : Cursor}

/-- Of two places of a source the later one is reached by skipping text. -/
theorem IsPlace.exists_skip (hc : c.IsPlace source) (hc' : c'.IsPlace source)
    (hle : c.offset ≤ c'.offset) :
    ∃ front mid rest, c = between front (mid ++ rest) ∧ c' = between (front ++ mid) rest := by
  obtain ⟨front, rest, rfl, rfl⟩ := hc
  obtain ⟨front', rest', hsource, rfl⟩ := hc'
  obtain ⟨mid, rfl, rfl⟩ := exists_append_of_byteLength_le hsource hle
  exact ⟨front, mid, rest', rfl, rfl⟩

/-- Where nothing was found, nothing is found later on. -/
theorem find?_eq_none_later {form : Form} (hc : c.IsPlace source) (hc' : c'.IsPlace source)
    (hle : c.offset ≤ c'.offset) (h : c.find? form = none) : c'.find? form = none := by
  obtain ⟨front, mid, rest, rfl, rfl⟩ := hc.exists_skip hc' hle
  rw [find?, first?_eq_none] at h ⊢
  intro s t hst
  have hskip := h (mid ++ s) t (by simp [hst])
  rwa [← List.append_assoc] at hskip

/-- What was found is found again from every place up to where it starts. -/
theorem find?_eq_some_later {form : Form} {o : Occurrence} (hc : c.IsPlace source)
    (hc' : c'.IsPlace source) (hle : c.offset ≤ c'.offset) (h : c.find? form = some o)
    (hahead : c'.offset ≤ o.offset) : c'.find? form = some o := by
  obtain ⟨front, mid, rest, rfl, rfl⟩ := hc.exists_skip hc' hle
  rw [find?] at h ⊢
  -- `mid` is a part of what the search has skipped, as what it found lies behind `mid`
  obtain ⟨skipped, ahead, hrest, htest, hfail⟩ := first?_eq_some h
  have hoffset := (standsIn_of_occurrence? htest).2.2
  rw [offset_between, byteLength_append] at hahead
  obtain ⟨more, rfl, rfl⟩ := exists_append_of_byteLength_le hrest (by omega)
  rw [← first?_skip (fun s t hst ht => ?_), ← h]
  have hpassed := hfail s (t ++ more) (by simp [hst]) (by simp [ht])
  rwa [List.append_assoc] at hpassed

end Cursor

/-! ## Slots -/

namespace Slot

variable {source : List Char} {c c' : Cursor} {s : Slot}

/-- A slot tracks the source up to a place: what it holds is the outcome of a search
from that place or an earlier one. -/
def Tracks (source : List Char) (c : Cursor) (s : Slot) : Prop :=
  ∃ past : Cursor, past.IsPlace source ∧ past.offset ≤ c.offset ∧ s.pending = past.find? s.form

theorem tracks_fill (hc : c.IsPlace source) (form : Form) : (fill c form).Tracks source c :=
  ⟨c, hc, Nat.le_refl _, rfl⟩

theorem Tracks.later (h : s.Tracks source c) (hle : c.offset ≤ c'.offset) :
    s.Tracks source c' := by
  obtain ⟨past, hpast, hpastLe, hpending⟩ := h
  exact ⟨past, hpast, Nat.le_trans hpastLe hle, hpending⟩

/-- An empty slot is right: there is nothing ahead. -/
theorem Tracks.find?_eq_none (h : s.Tracks source c) (hc : c.IsPlace source)
    (hnone : s.pending = none) : c.find? s.form = none := by
  obtain ⟨past, hpast, hle, hpending⟩ := h
  exact Cursor.find?_eq_none_later hpast hc hle (hpending.symm.trans hnone)

/-- A kept occurrence is right: it is the one that a search finds now. -/
theorem Tracks.find?_eq_some {o : Occurrence} (h : s.Tracks source c) (hc : c.IsPlace source)
    (hsome : s.pending = some o) (hahead : c.offset ≤ o.offset) : c.find? s.form = some o := by
  obtain ⟨past, hpast, hle, hpending⟩ := h
  exact Cursor.find?_eq_some_later hpast hc hle (hpending.symm.trans hsome) hahead

/-- **A refreshed slot is the slot that a fresh search fills.** -/
theorem refresh_eq_fill (h : s.Tracks source c) (hc : c.IsPlace source) :
    s.refresh c = fill c s.form := by
  obtain ⟨form, pending⟩ := s
  cases pending with
  -- searched again now, an empty slot stays empty and one that is kept does not change
  | none => rw [fill, h.find?_eq_none hc rfl, refresh]
  | some o =>
    by_cases hlt : o.offset < c.offset
    · simp only [refresh, hlt, if_true]
    · rw [fill, h.find?_eq_some hc rfl (Nat.le_of_not_lt hlt)]
      simp only [refresh, hlt, if_false]

theorem map_refresh {slots : List Slot} (h : ∀ s ∈ slots, s.Tracks source c)
    (hc : c.IsPlace source) :
    slots.map (refresh c) = (slots.map Slot.form).map (fill c) := by
  rw [List.map_map]
  exact List.map_congr_left fun s hs => refresh_eq_fill (h s hs) hc

end Slot

/-! ## The earliest slot -/

/-- A search does not return what starts before it. -/
theorem Cursor.offset_le_of_first? {test : Cursor → Option Occurrence} {front rest : List Char}
    {o : Occurrence} (htest : ∀ c o, test c = some o → o.offset = c.offset)
    (h : (between front rest).first? test = some o) : byteLength front ≤ o.offset := by
  obtain ⟨skipped, ahead, -, hfound, -⟩ := first?_eq_some h
  have hoffset := htest _ _ hfound
  rw [offset_between, byteLength_append] at hoffset
  omega

/-- Of two searches the one that succeeds sooner is the search for either. -/
theorem Cursor.sooner_first? {test test' : Cursor → Option Occurrence} {front rest : List Char}
    (htest : ∀ c o, test c = some o → o.offset = c.offset)
    (htest' : ∀ c o, test' c = some o → o.offset = c.offset) :
    Occurrence.sooner ((between front rest).first? test) ((between front rest).first? test') =
      (between front rest).first? fun c => (test c).or (test' c) := by
  induction rest generalizing front with
  | nil =>
    rw [first?_between_nil, first?_between_nil, first?_between_nil]
    cases h : test (between front []) with
    | none => rfl
    | some o =>
      cases h' : test' (between front []) with
      | none => rfl
      | some o' =>
        have hoffset := htest _ _ h
        have hoffset' := htest' _ _ h'
        rw [Occurrence.sooner, if_neg (by omega), Option.some_or]
  | cons c rest ih =>
    -- a success right here starts sooner than any that lies further on
    rw [first?_between_cons, first?_between_cons, first?_between_cons, ← ih]
    have hlt := c.utf8Size_pos
    have hnext : byteLength (front ++ [c]) = byteLength front + c.utf8Size := by simp
    cases h : test (between front (c :: rest)) with
    -- a tie here goes to the first search
    | some o =>
      rw [Option.some_or, Option.some_or, Option.some_or]
      cases h' : (test' (between front (c :: rest))).or
          ((between (front ++ [c]) rest).first? test') with
      | none => rfl
      | some o' =>
        have hoffset := htest _ _ h
        have hoffset' : byteLength front ≤ o'.offset := by
          rw [← first?_between_cons] at h'
          exact offset_le_of_first? htest' h'
        rw [offset_between] at hoffset
        rw [Occurrence.sooner, if_neg (by omega)]
    | none =>
      rw [Option.none_or, Option.none_or]
      cases h' : test' (between front (c :: rest)) with
      | none => rw [Option.none_or, Option.none_or]
      | some o' =>
        rw [Option.some_or, Option.some_or]
        have hoffset' := htest' _ _ h'
        rw [offset_between] at hoffset'
        cases hlater : (between (front ++ [c]) rest).first? test with
        | none => rfl
        | some o =>
          have hoffset := offset_le_of_first? htest hlater
          rw [Occurrence.sooner, if_pos (by omega)]

theorem Cursor.offset_of_occurrence? {form : Form} {c : Cursor} {o : Occurrence}
    (h : c.occurrence? form = some o) : o.offset = c.offset := by
  rw [occurrence?] at h
  split at h
  · simp only [Option.map_eq_some_iff, Prod.exists] at h
    obtain ⟨d, rest, -, rfl⟩ := h
    rfl
  · simp at h

/-- **The earliest of the pending occurrences is the next one of any form.** -/
theorem Slot.earliest_fill {source : List Char} {c : Cursor} (hc : c.IsPlace source)
    (forms : List Form) : earliest (forms.map (fill c)) = c.findAny? forms := by
  obtain ⟨front, rest, rfl, rfl⟩ := hc
  induction forms with
  -- no form, no slot, and no test that could succeed
  | nil =>
    refine (Cursor.first?_eq_none.2 ?_).symm
    intro s t hst
    rfl
  | cons form forms ih =>
    rw [List.map_cons, earliest, ih]
    have htests : ∀ (c : Cursor) o, forms.findSome? (c.occurrence? ·) = some o →
        o.offset = c.offset := by
      intro c o h
      obtain ⟨form', -, h'⟩ := List.exists_of_findSome?_eq_some h
      exact Cursor.offset_of_occurrence? h'
    refine (Cursor.sooner_first? (fun _ _ => Cursor.offset_of_occurrence?) htests).trans ?_
    rw [Cursor.findAny?]
    congr 1
    funext c
    rw [List.findSome?_cons]
    cases c.occurrence? form <;> rfl

/-! ## The scan with slots -/

namespace Source

/-- The states that the scan goes through: the slots as the last round left them,
and the place reached. -/
inductive Reaches (forms : List Form) (source : List Char) : List Slot → Cursor → Prop where
  | start : Reaches forms source (forms.map (Slot.fill (Cursor.start source))) (Cursor.start source)
  | step {slots : List Slot} {c : Cursor} {o : Occurrence} (state : Reaches forms source slots c)
      (taken : Slot.earliest (slots.map (Slot.refresh c)) = some o) :
      Reaches forms source (slots.map (Slot.refresh c)) o.after

variable {forms : List Form} {source : List Char} {slots : List Slot} {c : Cursor}

/-- What holds in every state of the scan: one slot for each form, in order, and
each slot tracks the source up to the place reached. -/
structure Tracking (forms : List Form) (source : List Char) (slots : List Slot) (c : Cursor) :
    Prop where
  place  : c.IsPlace source
  forms  : slots.map Slot.form = forms
  tracks : ∀ s ∈ slots, s.Tracks source c

theorem Tracking.map_refresh (h : Tracking forms source slots c) :
    slots.map (Slot.refresh c) = forms.map (Slot.fill c) := by
  rw [Slot.map_refresh h.tracks h.place, h.forms]

theorem Tracking.earliest_eq (h : Tracking forms source slots c) :
    Slot.earliest (slots.map (Slot.refresh c)) = c.findAny? forms := by
  rw [h.map_refresh, Slot.earliest_fill h.place]

/-- What a round takes is the next match from the place reached. -/
theorem Tracking.isNext {o : Occurrence} (h : Tracking forms source slots c)
    (htaken : Slot.earliest (slots.map (Slot.refresh c)) = some o) :
    IsNext forms source c.offset o :=
  h.place.isNext (h.earliest_eq ▸ htaken)

-- The step lemma, and from it the run lemma.

theorem Tracking.step {o : Occurrence} (h : Tracking forms source slots c)
    (htaken : Slot.earliest (slots.map (Slot.refresh c)) = some o) :
    Tracking forms source (slots.map (Slot.refresh c)) o.after := by
  have hnext := h.isNext htaken
  rw [h.map_refresh]
  refine ⟨hnext.stands.isPlace_after, ?_, ?_⟩
  · rw [List.map_map]
    exact List.map_id'' (fun _ => rfl) forms
  · -- all slots have just been searched for from the place before the match
    intro s hs
    obtain ⟨form, -, rfl⟩ := List.mem_map.1 hs
    exact (Slot.tracks_fill h.place form).later (Nat.le_of_lt hnext.lt_after)

theorem Reaches.tracking (h : Reaches forms source slots c) : Tracking forms source slots c := by
  induction h with
  | start =>
    -- at the start every slot has been searched for from the start
    refine ⟨Cursor.isPlace_start source, ?_, ?_⟩
    · rw [List.map_map]
      exact List.map_id'' (fun _ => rfl) forms
    · intro s hs
      obtain ⟨form, -, rfl⟩ := List.mem_map.1 hs
      exact Slot.tracks_fill (Cursor.isPlace_start source) form
  | step state taken ih => exact ih.step taken

/-- From a state that it reaches the scan goes on until no slot holds anything:
what it takes lies ahead and within the source. -/
theorem select_eq (h : Reaches forms source slots c) :
    select (byteLength source) slots c =
      match Slot.earliest (slots.map (Slot.refresh c)) with
      | none => []
      | some o => o :: select (byteLength source) (slots.map (Slot.refresh c)) o.after := by
  rw [select]
  cases htaken : Slot.earliest (slots.map (Slot.refresh c)) with
  | none => rfl
  | some o =>
    have hnext := h.tracking.isNext htaken
    have hguard : c.offset < o.after.offset ∧ o.after.offset ≤ byteLength source :=
      ⟨hnext.lt_after, hnext.stands.after_le⟩
    simp only [hguard, and_self, if_true]

/-- **The scan with slots selects what the scan without them selects.** -/
theorem select_eq_plainSelect {slots : List Slot} {c : Cursor}
    (h : Reaches forms source slots c) :
    select (byteLength source) slots c = plainSelect (byteLength source) forms c := by
  rw [select_eq h, plainSelect_eq h.tracking.place, ← h.tracking.earliest_eq]
  cases htaken : Slot.earliest (slots.map (Slot.refresh c)) with
  | none => rfl
  | some o =>
    have hnext := h.tracking.isNext htaken
    have hlt := hnext.lt_after
    have hafter := hnext.stands.after_le
    exact congrArg (o :: ·) (select_eq_plainSelect (h.step htaken))
  termination_by byteLength source - c.offset

theorem occurrencesBy_eq_plainOccurrences (forms : List Form) (source : List Char) :
    occurrencesBy forms source = plainOccurrences forms source :=
  select_eq_plainSelect .start

/-- The occurrences of a source are its plain scan, and no other list is. -/
theorem plainScan_iff {os : List Occurrence} :
    PlainScan forms source 0 os ↔ os = occurrencesBy forms source := by
  have hscan : PlainScan forms source 0 (occurrencesBy forms source) := by
    rw [occurrencesBy_eq_plainOccurrences]
    exact plainScan_plainSelect (Cursor.isPlace_start source)
  exact ⟨fun h => h.unique hscan, fun h => h ▸ hscan⟩

/-- **The imports of a source are those of its plain scan.** There is exactly one
plain scan of a source with the usual forms, and what it reports are the imports.
In every state that the scan with slots reaches, an empty slot means that no match
of its form is left, a kept occurrence is the one that a search from here finds,
and a refreshed slot holds what a search from here finds. -/
theorem imports_iff_plainScan (source : String) :
    (∃ found, (∀ os, PlainScan Form.all source.toList 0 os ↔ os = found) ∧
      imports source = found.filterMap Occurrence.import?) ∧
    ∀ slots c, Reaches Form.all source.toList slots c → ∀ s ∈ slots,
      (s.pending = none → c.find? s.form = none) ∧
      (∀ o, s.pending = some o → c.offset ≤ o.offset → c.find? s.form = some o) ∧
      (s.refresh c).pending = c.find? s.form := by
  refine ⟨⟨occurrences source.toList, fun os => plainScan_iff, rfl⟩, ?_⟩
  -- and for the states: they track the source, so every slot answers for a fresh search
  intro slots c hreaches s hs
  have hplace := hreaches.tracking.place
  have htracks := hreaches.tracking.tracks s hs
  refine ⟨htracks.find?_eq_none hplace, fun o => htracks.find?_eq_some hplace, ?_⟩
  rw [Slot.refresh_eq_fill htracks hplace, Slot.fill]

end Source

end ImportMaps
