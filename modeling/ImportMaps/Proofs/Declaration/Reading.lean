import ImportMaps.Declaration.Lemmas
import ImportMaps.Proofs.Text.Cut

/-!
# ImportMaps — a text is read as a declaration in one way only

The grammar (`Declaration.text`) and the reader (`Declaration.read?`) describe
the same shape. This module makes that an equivalence and draws the consequence
that the shape is unambiguous: whatever declarations two parties see at the
front of one text, they see the same form and the same source.

The one choice that the grammar leaves open is the semicolon after a
side-effect import. The reader takes it when it is there, so a declaration is
*whole* in front of a rest (`Declaration.Whole`) when the rest offers no
semicolon that it has left behind.

Main results:

* `Declaration.read?_eq_some_iff` — the reader returns exactly the whole
  declarations of the form asked for.
* `Declaration.form_eq_of_append` — two declarations at the front of one text
  have the same form.
* `Declaration.source_eq_of_append` — and the same source, quotes included.
-/

namespace ImportMaps

open Text

/-! ## Parts of a declaration -/

/-- A character that ends a line. -/
def isLineBreak (c : Char) : Bool :=
  c == '\n' || c == '\r'

/-- A quotation does not leave its line. -/
theorem Quoted.not_mem_text {c : Char} (h : isLineBreak c = true) (q : Quoted) : c ∉ q.text := by
  obtain ⟨quote, specifier⟩ := q
  have hspecifier : c ∉ specifier.chars := by
    intro hmem
    have hadmits := specifier.all_mem c hmem
    simp_all [isLineBreak, Quote.admits]
  have hmark : c ≠ quote.mark := by
    rintro rfl
    cases quote <;> exact absurd h (by decide)
  simp [text, hspecifier, hmark]

namespace Declaration

/-- Everything before the opening quote of the source. -/
def lead : Declaration → List Char
  | binds clause gap _ => importWord ++ (clause.text ++ (fromWord ++ gap.chars))
  | sideEffect gap _ _ => importWord ++ gap.chars

/-- Everything after the closing quote of the source. -/
def closing : Declaration → List Char
  | binds _ _ _ => []
  | sideEffect _ _ closing => closingText closing

/-- A declaration is its lead, its quoted source and its closing. -/
theorem text_eq (d : Declaration) : d.text = d.lead ++ (d.source.text ++ d.closing) := by
  cases d <;> simp [text, lead, source, closing]

theorem source_text (d : Declaration) :
    d.source.text = d.source.quote.mark :: d.specifier ++ [d.source.quote.mark] := rfl

/-- Without its semicolon a declaration is a declaration still. -/
theorem exists_text_eq_lead (d : Declaration) :
    ∃ d' : Declaration, d'.text = d.lead ++ d.source.text := by
  cases d with
  | binds clause gap source =>
    exact ⟨binds clause gap source, by simp [text, lead, Declaration.source]⟩
  | sideEffect gap source closing =>
    exact ⟨sideEffect gap source none, by simp [text, lead, Declaration.source, closingText]⟩

theorem specifier_congr {d d' : Declaration} (h : d.source = d'.source) :
    d.specifier = d'.specifier := by
  rw [specifier, h, specifier]

theorem exists_text_eq (d : Declaration) : ∃ more, d.text = importWord ++ more := by
  cases d with
  | binds clause gap source =>
    refine ⟨clause.text ++ (fromWord ++ (gap.chars ++ source.text)), ?_⟩
    simp [text]
  | sideEffect gap source closing =>
    refine ⟨gap.chars ++ (source.text ++ closingText closing), ?_⟩
    simp [text]

theorem not_mem_closing (d : Declaration) : 'i' ∉ d.closing := by
  cases d with
  | binds clause gap source => simp [closing]
  | sideEffect gap source closing =>
    cases closing with
    | none => simp [Declaration.closing, closingText]
    | some gap =>
      have hgap := gap.not_mem (c := 'i') (by decide)
      simp [Declaration.closing, closingText, hgap]

/-- A declaration has taken in the semicolon that belongs to it: blanks and a semicolon
do not follow a side-effect import that has none. -/
def Whole (d : Declaration) (rest : List Char) : Prop :=
  match d with
  | sideEffect _ _ none => ∀ (gap : Gap) (after : List Char), rest ≠ closingText (some gap) ++ after
  | _ => True

/-- In front of any text a declaration can be made whole: it takes in the blanks and
the semicolon that belong to it, and no keyword is lost with them. -/
theorem exists_whole (d : Declaration) (rest : List Char) :
    ∃ d' taken ahead, rest = taken ++ ahead ∧ d'.text = d.text ++ taken ∧ 'i' ∉ taken ∧
      d'.form = d.form ∧ d'.source = d.source ∧ Whole d' ahead := by
  by_cases hwhole : d.Whole rest
  · exact ⟨d, [], rest, rfl, (List.append_nil _).symm, List.not_mem_nil, rfl, rfl, hwhole⟩
  · -- only a side-effect import can fail to be whole, and only for want of its semicolon
    cases d with
    | binds clause gap source => exact absurd trivial hwhole
    | sideEffect gap source closing =>
      cases closing with
      | some closing => exact absurd trivial hwhole
      | none =>
        obtain ⟨blanks, hblanks⟩ := Classical.not_forall.1 hwhole
        obtain ⟨ahead, hahead⟩ := Classical.not_forall.1 hblanks
        have htaken := (sideEffect gap source (some blanks)).not_mem_closing
        refine ⟨sideEffect gap source (some blanks), closingText (some blanks), ahead,
          Classical.not_not.1 hahead, ?_, htaken, rfl, rfl, trivial⟩
        simp [text, closingText]

/-! ## The reader and the grammar -/

theorem readClosing_eq_none {rest : List Char}
    (h : ∀ (gap : Gap) (after : List Char), rest ≠ closingText (some gap) ++ after) :
    readClosing rest = (none, rest) := by
  cases hread : readClosing rest with
  | mk closing after =>
    have hrest := eq_of_readClosing hread
    cases closing with
    | none => simp [hrest, closingText]
    | some gap => exact absurd hrest (h gap after)

theorem ne_closingText_of_readClosing {rest : List Char} (h : (readClosing rest).1 = none)
    (gap : Gap) (after : List Char) : rest ≠ closingText (some gap) ++ after := by
  intro hrest
  rw [hrest, readClosing_closingText] at h
  simp at h

/-- What is written whole is read back. -/
theorem read?_text_of_whole {d : Declaration} {rest : List Char} (h : d.Whole rest) :
    read? d.form (d.text ++ rest) = some (d, rest) := by
  cases d with
  | binds clause gap source => exact read?_text_binds clause gap source rest
  | sideEffect gap source closing =>
    cases closing with
    | some closing => exact read?_text_closed gap source closing rest
    | none =>
      have hread := read?_text_sideEffect gap source rest
      rw [readClosing_eq_none h] at hread
      exact hread

theorem whole_of_read? {form : Form} {cs rest : List Char} {d : Declaration}
    (h : read? form cs = some (d, rest)) : d.Whole rest := by
  obtain ⟨rfl, rfl⟩ := eq_of_read? h
  cases d with
  | binds clause gap source => trivial
  | sideEffect gap source closing =>
    cases closing with
    | some closing => trivial
    | none =>
      have hread := (read?_text_sideEffect gap source rest).symm.trans h
      simp only [Option.some.injEq, Prod.mk.injEq, sideEffect.injEq] at hread
      exact ne_closingText_of_readClosing hread.1.2.2

/-- **The reader is the grammar.** A declaration is read off the front of a text
exactly when it is written there, has the form asked for and is whole. -/
theorem read?_eq_some_iff {form : Form} {cs rest : List Char} {d : Declaration} :
    read? form cs = some (d, rest) ↔ cs = d.text ++ rest ∧ d.form = form ∧ d.Whole rest := by
  constructor
  · intro h
    exact ⟨(eq_of_read? h).1, (eq_of_read? h).2, whole_of_read? h⟩
  · rintro ⟨rfl, rfl, hwhole⟩
    exact read?_text_of_whole hwhole

end Declaration

/-! ## The grammar is unambiguous

After the keyword and the blanks that follow it, the next character tells the
forms apart, except for the two that open with a name. Of these one goes on with
`from` after the name and the other with a comma. -/

/-- The characters that can stand first after the keyword and its blanks. -/
def Form.opens : Form → Char → Bool
  | .default, c => isBindingChar c
  | .named, c => c == '{'
  | .defaultAndNamed, c => isBindingChar c
  | .star, c => c == '*'
  | .sideEffect, c => c == '\'' || c == '"'

theorem Form.eq_of_opens {f f' : Form} {c : Char} (h : f.opens c = true) (h' : f'.opens c = true) :
    f = f' ∨ (f = .default ∧ f' = .defaultAndNamed) ∨ (f = .defaultAndNamed ∧ f' = .default) := by
  cases f <;> cases f' <;> simp_all [opens, isBindingChar]

theorem Binding.exists_cons (name : Binding) (rest : List Char) :
    ∃ c more, name.chars ++ rest = c :: more ∧ isBindingChar c = true := by
  cases hname : name.chars with
  | nil =>
    have hleast := name.least_le
    simp [hname] at hleast
  | cons c cs => exact ⟨c, cs ++ rest, rfl, name.all_mem c (by simp [hname])⟩

namespace Declaration

/-- Keyword, blanks, and a character that opens the form. -/
theorem exists_opening (d : Declaration) (rest : List Char) :
    ∃ (gap : List Char) (c : Char) (more : List Char),
      d.text ++ rest = importWord ++ (gap ++ c :: more) ∧
        (∀ b ∈ gap, isBlank b = true) ∧ isBlank c = false ∧ d.form.opens c = true := by
  -- what opens a form is the quotation mark, or the first character of its clause
  cases d with
  | sideEffect gap source closing =>
    refine ⟨gap.chars, source.quote.mark, source.specifier.chars ++ (source.quote.mark ::
      (closingText closing ++ rest)), by simp [text, Quoted.text], gap.all_mem, ?_⟩
    cases source.quote <;> exact ⟨rfl, rfl⟩
  | binds clause gap source =>
    cases clause with
    | binding before name after =>
      obtain ⟨c, more, hname, hc⟩ := name.exists_cons
        (after.chars ++ (fromWord ++ (gap.chars ++ (source.text ++ rest))))
      refine ⟨before.chars, c, more, ?_, before.all_mem, not_isBlank_of_isBindingChar hc, hc⟩
      simp [text, Clause.text, ← hname]
    | names before list after =>
      exact ⟨before.chars, '{', _, by simp [text, Clause.text, NameList.text]; rfl,
        before.all_mem, rfl, rfl⟩
    | bindingAndNames before name beforeComma afterComma list after =>
      obtain ⟨c, more, hname, hc⟩ := name.exists_cons (beforeComma.chars ++ ',' ::
        (afterComma.chars ++ (NameList.text list ++ (after.chars ++
          (fromWord ++ (gap.chars ++ (source.text ++ rest)))))))
      refine ⟨before.chars, c, more, ?_, before.all_mem, not_isBlank_of_isBindingChar hc, hc⟩
      simp [text, Clause.text, ← hname]
    | star before beforeAs beforeName name after =>
      exact ⟨before.chars, '*', _, by simp [text, Clause.text]; rfl, before.all_mem, rfl, rfl⟩

/-- A name followed by `from` is not a name followed by a comma. -/
theorem binding_ne_bindingAndNames {before before' after : Space} {name name' : Binding}
    {beforeComma : Gap} {rest rest' : List Char} :
    before.chars ++ (name.chars ++ (after.chars ++ (fromWord ++ rest))) ≠
      before'.chars ++ (name'.chars ++ (beforeComma.chars ++ ',' :: rest')) := by
  intro h
  have hcomma : Stops isBlank (',' :: rest') := .cons (by decide) rest'
  have hfrom : Stops isBlank (fromWord ++ rest) := .cons (by decide) _
  -- blanks, name and blanks are the same on both sides, and then `f` is the comma
  obtain ⟨-, h⟩ := leading_run_inj before.all_mem before'.all_mem
    (.run_append_of_pos Nat.one_pos (fun _ => not_isBlank_of_isBindingChar) name _)
    (.run_append_of_pos Nat.one_pos (fun _ => not_isBlank_of_isBindingChar) name' _) h
  obtain ⟨-, h⟩ := leading_run_inj name.all_mem name'.all_mem
    (.run_append_of_pos Nat.one_pos not_isBindingChar_of_isBlank after _)
    (.run_append not_isBindingChar_of_isBlank beforeComma (.cons (by decide) _)) h
  obtain ⟨-, h⟩ := leading_run_inj after.all_mem beforeComma.all_mem hfrom hcomma h
  simp [fromWord] at h

theorem text_append_default_ne {d d' : Declaration} {rest rest' : List Char}
    (hd : d.form = .default) (hd' : d'.form = .defaultAndNamed) :
    d.text ++ rest ≠ d'.text ++ rest' := by
  intro h
  match d, d' with
  | binds (.binding _ name _) _ _, binds (.bindingAndNames ..) _ _ =>
    simp only [text, Clause.text, List.append_assoc, List.cons_append,
      List.append_cancel_left_eq] at h
    exact binding_ne_bindingAndNames h

/-- **Two declarations at the front of one text have the same form.** -/
theorem form_eq_of_append {d d' : Declaration} {rest rest' : List Char}
    (h : d.text ++ rest = d'.text ++ rest') : d.form = d'.form := by
  obtain ⟨gap, c, more, htext, hgap, hc, hopens⟩ := d.exists_opening rest
  obtain ⟨gap', c', more', htext', hgap', hc', hopens'⟩ := d'.exists_opening rest'
  have hsplit : gap ++ c :: more = gap' ++ c' :: more' := by
    rw [htext, htext'] at h
    exact List.append_cancel_left h
  -- the characters after keyword and blanks are the same one
  obtain ⟨-, hsplit⟩ := leading_run_inj hgap hgap' (.cons hc more) (.cons hc' more') hsplit
  obtain ⟨rfl, -⟩ := List.cons.inj hsplit
  rcases Form.eq_of_opens hopens hopens' with heq | ⟨hd, hd'⟩ | ⟨hd, hd'⟩
  · exact heq
  · exact absurd h (text_append_default_ne hd hd')
  · exact absurd h.symm (text_append_default_ne hd' hd)

/-- Two whole declarations at the front of one text are the same. -/
theorem eq_of_append_of_whole {d d' : Declaration} {rest rest' : List Char}
    (h : d.text ++ rest = d'.text ++ rest') (hwhole : d.Whole rest) (hwhole' : d'.Whole rest') :
    d = d' ∧ rest = rest' := by
  have hread := read?_text_of_whole hwhole
  have hread' := read?_text_of_whole hwhole'
  rw [form_eq_of_append h, h, hread', Option.some.injEq, Prod.mk.injEq] at hread
  exact ⟨hread.1.symm, hread.2.symm⟩

/-- **Two declarations at the front of one text have the same source.** -/
theorem source_eq_of_append {d d' : Declaration} {rest rest' : List Char}
    (h : d.text ++ rest = d'.text ++ rest') : d.source = d'.source := by
  -- made whole they are the same declaration, and that does not touch the source
  obtain ⟨e, taken, ahead, rfl, htext, -, -, hsource, hwhole⟩ := d.exists_whole rest
  obtain ⟨e', taken', ahead', rfl, htext', -, -, hsource', hwhole'⟩ := d'.exists_whole rest'
  rw [← List.append_assoc, ← List.append_assoc, ← htext, ← htext'] at h
  obtain ⟨rfl, -⟩ := eq_of_append_of_whole h hwhole hwhole'
  rw [← hsource, hsource']

end Declaration

end ImportMaps
