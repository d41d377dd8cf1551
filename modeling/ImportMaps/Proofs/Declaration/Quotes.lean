import ImportMaps.Proofs.Declaration.Overlap

/-!
# ImportMaps — the other quotes

Exchanging the two quote characters in a text is undone by doing it again. It changes
neither the length of a text in bytes nor which of its characters are blanks or belong to
words, and it leaves alone whatever has no quotes in it.

In a declaration only the source has quotes. So a declaration with its quote characters
exchanged is a declaration again, with the same tokens around its source
(`Declaration.text_swapQuotes`), and it takes in the same semicolon
(`Declaration.Whole.swapQuotes`).
-/

namespace ImportMaps

open Text Declaration

/-! ## Characters and texts -/

namespace Text

/-- The other one of the two quote characters; every other character stays. -/
def swapQuote (c : Char) : Char :=
  if c = '\'' then '"' else if c = '"' then '\'' else c

theorem swapQuote_of_unquoted {c : Char} (h : isUnquoted c = true) : swapQuote c = c := by
  simp only [isUnquoted, Bool.and_eq_true, bne_iff_ne] at h
  rw [swapQuote, if_neg h.1, if_neg h.2]

/-- What is the same for both quote characters is not changed by an exchange. -/
theorem apply_swapQuote {α : Type} {f : Char → α} (h : f '\'' = f '"') (c : Char) :
    f (swapQuote c) = f c := by
  by_cases hsingle : c = '\''
  · rw [hsingle, h]
    rfl
  · by_cases hdouble : c = '"'
    · rw [hdouble, ← h]
      rfl
    · rw [swapQuote, if_neg hsingle, if_neg hdouble]

theorem swapQuote_swapQuote (c : Char) : swapQuote (swapQuote c) = c := by
  by_cases hsingle : c = '\''
  · rw [hsingle]
    rfl
  · by_cases hdouble : c = '"'
    · rw [hdouble]
      rfl
    · rw [swapQuote, swapQuote, if_neg hsingle, if_neg hdouble, if_neg hsingle, if_neg hdouble]

variable {cs : List Char}

theorem map_swapQuote_swapQuote (cs : List Char) : (cs.map swapQuote).map swapQuote = cs := by
  rw [List.map_map]
  exact List.map_id'' swapQuote_swapQuote cs

/-- An exchange can be looked at from either side. -/
theorem map_swapQuote_eq_iff {cs' : List Char} :
    cs.map swapQuote = cs' ↔ cs = cs'.map swapQuote := by
  constructor
  · rintro rfl
    exact (map_swapQuote_swapQuote cs).symm
  · rintro rfl
    exact map_swapQuote_swapQuote cs'

theorem map_swapQuote_of_unquoted (h : ∀ c ∈ cs, isUnquoted c = true) :
    cs.map swapQuote = cs := by
  rw [List.map_congr_left fun c hc => swapQuote_of_unquoted (h c hc), List.map_id']

theorem byteLength_map_swapQuote (cs : List Char) :
    byteLength (cs.map swapQuote) = byteLength cs := by
  induction cs with
  | nil => rfl
  | cons c cs ih =>
    rw [List.map_cons, byteLength_cons, byteLength_cons, ih,
      apply_swapQuote (f := Char.utf8Size) rfl]

theorem EndsOutside.swapQuotes (h : EndsOutside isWord cs) :
    EndsOutside isWord (cs.map swapQuote) := by
  intro c hc
  rw [List.getLast?_map, Option.mem_def, Option.map_eq_some_iff] at hc
  obtain ⟨b, hb, rfl⟩ := hc
  rw [apply_swapQuote (f := isWord) rfl]
  exact h b hb

end Text

/-! ## Sources -/

/-- The other kind of quotes. -/
def Quote.other : Quote → Quote
  | single => double
  | double => single

theorem Quote.mark_other (q : Quote) : q.other.mark = swapQuote q.mark := by
  cases q <;> rfl

/-- What may stand between quotes may, exchanged, stand between the others. -/
theorem Quote.admits_other {q : Quote} {c : Char} (h : q.admits c = true) :
    q.other.admits (swapQuote c) = true := by
  rw [admits, Bool.and_eq_true, Bool.and_eq_true, bne_iff_ne] at h ⊢
  obtain ⟨⟨hmark, hcr⟩, hlf⟩ := h
  refine ⟨⟨?_, ?_⟩, ?_⟩
  · intro heq
    rw [mark_other] at heq
    refine hmark ?_
    rw [← swapQuote_swapQuote c, heq, swapQuote_swapQuote]
  · rwa [apply_swapQuote (f := (· != '\r')) rfl]
  · rwa [apply_swapQuote (f := (· != '\n')) rfl]

/-- A source in the other quotes, with those inside it exchanged too. -/
def Quoted.swapQuotes (q : Quoted) : Quoted where
  quote := q.quote.other
  specifier :=
    { chars := q.specifier.chars.map swapQuote
      all_mem := by
        intro c hc
        obtain ⟨b, hb, rfl⟩ := List.mem_map.1 hc
        exact Quote.admits_other (q.specifier.all_mem b hb)
      least_le := Nat.zero_le _ }

theorem Quoted.text_swapQuotes (q : Quoted) : q.swapQuotes.text = q.text.map swapQuote := by
  simp [text, swapQuotes, Quote.mark_other]

theorem Quoted.swapQuotes_swapQuotes (q : Quoted) : q.swapQuotes.swapQuotes = q := by
  obtain ⟨quote, specifier⟩ := q
  cases quote <;>
    exact congrArg (Quoted.mk _) (Run.ext_chars (map_swapQuote_swapQuote specifier.chars))

/-! ## Declarations -/

namespace Declaration

/-- A declaration with its source in the other quotes. -/
def swapQuotes : Declaration → Declaration
  | binds clause gap source => binds clause gap source.swapQuotes
  | sideEffect gap source closing => sideEffect gap source.swapQuotes closing

variable (d : Declaration)

theorem form_swapQuotes : d.swapQuotes.form = d.form := by
  cases d <;> rfl

theorem source_swapQuotes : d.swapQuotes.source = d.source.swapQuotes := by
  cases d <;> rfl

theorem specifier_swapQuotes : d.swapQuotes.specifier = d.specifier.map swapQuote := by
  rw [specifier, source_swapQuotes]
  rfl

theorem lead_swapQuotes : d.swapQuotes.lead = d.lead := by
  cases d <;> rfl

theorem closing_swapQuotes : d.swapQuotes.closing = d.closing := by
  cases d <;> rfl

theorem swapQuotes_swapQuotes : d.swapQuotes.swapQuotes = d := by
  cases d with
  | binds clause gap source =>
    exact congrArg (binds clause gap) source.swapQuotes_swapQuotes
  | sideEffect gap source closing =>
    exact congrArg (sideEffect gap · closing) source.swapQuotes_swapQuotes

theorem unquoted_closingText (closing : Option Gap) :
    ∀ c ∈ closingText closing, isUnquoted c = true := by
  intro c hc
  cases closing with
  | none => cases hc
  | some gap =>
    rw [closingText, List.mem_append, List.mem_singleton] at hc
    rcases hc with hc | rfl
    · exact isUnquoted_of_isBlank (gap.all_mem c hc)
    · decide

theorem unquoted_closing : ∀ c ∈ d.closing, isUnquoted c = true := by
  cases d with
  | binds clause gap source => simp [closing]
  | sideEffect gap source closing => exact unquoted_closingText closing

/-- **A declaration with its quote characters exchanged** is the declaration with its
source in the other quotes. -/
theorem text_swapQuotes : d.swapQuotes.text = d.text.map swapQuote := by
  rw [text_eq, text_eq, lead_swapQuotes, source_swapQuotes, Quoted.text_swapQuotes,
    closing_swapQuotes, List.map_append, List.map_append,
    map_swapQuote_of_unquoted d.unquoted_lead, map_swapQuote_of_unquoted d.unquoted_closing]

variable {d}

/-- A semicolon is where it was. -/
theorem Whole.swapQuotes {rest : List Char} (h : d.Whole rest) :
    d.swapQuotes.Whole (rest.map swapQuote) := by
  cases d with
  | binds clause gap source => trivial
  | sideEffect gap source closing =>
    cases closing with
    | some closing => trivial
    | none =>
      intro gap after hrest
      rw [map_swapQuote_eq_iff, List.map_append,
        map_swapQuote_of_unquoted (unquoted_closingText _)] at hrest
      exact h gap _ hrest

end Declaration

end ImportMaps
