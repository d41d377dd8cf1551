import ImportMaps.Declaration.Reader

/-!
# ImportMaps — reading and writing declarations agree

* `Declaration.eq_of_read?` — what is read, written back, is the front of the
  text, and it has the form asked for.
* `Declaration.read?_text_binds` — a declaration that binds names is read back
  exactly, whatever text follows it.
* `Declaration.read?_text_closed` — so is a side-effect import with its semicolon.
* `Declaration.read?_text_sideEffect` — one without takes in a semicolon at the
  front of the following text, if there is one.

Each token has a pair of such lemmas. The second kind needs to know that the text
after a run does not go on with characters of its class; that is where the
grammar is unambiguous.
-/

namespace ImportMaps

open Text

/-! ## What is read is what is there -/

theorem Quoted.eq_of_readIn? {q : Quote} {cs rest : List Char} {quoted : Quoted}
    (h : readIn? q cs = some (quoted, rest)) : cs = quoted.text ++ rest := by
  unfold readIn? at h
  split at h
  · simp at h
  · next c cs =>
    split at h
    · next hc =>
      split at h
      · next specifier c' rest' hrun =>
        split at h
        · next hc' =>
          simp only [Option.some.injEq, Prod.mk.injEq] at h
          obtain ⟨rfl, rfl⟩ := h
          simp [text, (Run.eq_of_read hrun).1, hc, hc']
        · simp at h
      · simp at h
    · simp at h

theorem Quoted.eq_of_read? {cs rest : List Char} {quoted : Quoted}
    (h : read? cs = some (quoted, rest)) : cs = quoted.text ++ rest := by
  rw [read?] at h
  cases hs : readIn? .single cs with
  | some r =>
    rw [hs] at h
    exact eq_of_readIn? (hs.trans h)
  | none =>
    rw [hs] at h
    exact eq_of_readIn? h

theorem NameList.eq_of_read? {cs rest : List Char} {list : NameList}
    (h : read? cs = some (list, rest)) : cs = text list ++ rest := by
  simp only [read?, Option.bind_eq_bind, Option.bind_eq_some_iff, expect?_eq_some_iff,
    Option.pure_def, Option.some.injEq, Prod.mk.injEq] at h
  obtain ⟨inner, rfl, after, hafter, rfl, rfl⟩ := h
  conv => lhs; rw [← Run.append_read isNameListChar inner, hafter]
  simp [text]

namespace Clause

variable {cs rest : List Char} {clause : Clause}

theorem eq_of_readBinding? (h : readBinding? cs = some (clause, rest)) :
    cs = clause.text ++ rest ∧ clause.form = .default := by
  simp only [readBinding?, Option.bind_eq_bind, Option.bind_eq_some_iff, Prod.exists,
    Option.pure_def, Option.some.injEq, Prod.mk.injEq] at h
  obtain ⟨before, cs₁, h₁, name, cs₂, h₂, after, cs₃, h₃, rfl, rfl⟩ := h
  refine ⟨?_, rfl⟩
  rw [(Run.eq_of_read? h₁).1, (Run.eq_of_read? h₂).1, (Run.eq_of_read? h₃).1]
  simp [text]

theorem eq_of_readNames? (h : readNames? cs = some (clause, rest)) :
    cs = clause.text ++ rest ∧ clause.form = .named := by
  simp only [readNames?, Option.bind_eq_bind, Option.bind_eq_some_iff, Prod.exists,
    Option.pure_def, Option.some.injEq, Prod.mk.injEq] at h
  obtain ⟨list, cs₁, h₁, rfl, rfl⟩ := h
  refine ⟨?_, rfl⟩
  conv =>
    lhs
    rw [← Run.append_read isBlank cs, NameList.eq_of_read? h₁, ← Run.append_read isBlank cs₁]
  simp [text]

theorem eq_of_readBindingAndNames? (h : readBindingAndNames? cs = some (clause, rest)) :
    cs = clause.text ++ rest ∧ clause.form = .defaultAndNamed := by
  simp only [readBindingAndNames?, Option.bind_eq_bind, Option.bind_eq_some_iff, Prod.exists,
    Option.pure_def, Option.some.injEq, Prod.mk.injEq, expect?_eq_some_iff] at h
  obtain ⟨before, cs₁, h₁, name, cs₂, h₂, cs₃, h₃, list, cs₄, h₄, rfl, rfl⟩ := h
  refine ⟨?_, rfl⟩
  conv =>
    lhs
    rw [(Run.eq_of_read? h₁).1, (Run.eq_of_read? h₂).1, ← Run.append_read isBlank cs₂, h₃,
      ← Run.append_read isBlank cs₃, NameList.eq_of_read? h₄, ← Run.append_read isBlank cs₄]
  simp [text]

theorem eq_of_readStar? (h : readStar? cs = some (clause, rest)) :
    cs = clause.text ++ rest ∧ clause.form = .star := by
  simp only [readStar?, Option.bind_eq_bind, Option.bind_eq_some_iff, Prod.exists,
    Option.pure_def, Option.some.injEq, Prod.mk.injEq, expect?_eq_some_iff] at h
  obtain ⟨cs₁, h₁, cs₂, h₂, beforeName, cs₃, h₃, name, cs₄, h₄, after, cs₅, h₅, rfl, rfl⟩ := h
  refine ⟨?_, rfl⟩
  conv =>
    lhs
    rw [← Run.append_read isBlank cs, h₁, ← Run.append_read isBlank cs₁, h₂,
      (Run.eq_of_read? h₃).1, (Run.eq_of_read? h₄).1, (Run.eq_of_read? h₅).1]
  simp [text]

end Clause

namespace Declaration

variable {cs rest : List Char}

theorem eq_of_readClosing {closing : Option Gap} (h : readClosing cs = (closing, rest)) :
    cs = closingText closing ++ rest := by
  unfold readClosing at h
  split at h
  · next gap rest' hrun =>
    simp only [Prod.mk.injEq] at h
    obtain ⟨rfl, rfl⟩ := h
    simp [closingText, (Run.eq_of_read hrun).1]
  · simp only [Prod.mk.injEq] at h
    obtain ⟨rfl, rfl⟩ := h
    rfl

theorem eq_of_readFrom? {clause : Clause} {d : Declaration}
    (h : readFrom? clause cs = some (d, rest)) :
    importWord ++ (clause.text ++ cs) = d.text ++ rest ∧ d.form = clause.form := by
  simp only [readFrom?, Option.bind_eq_bind, Option.bind_eq_some_iff, Prod.exists,
    Option.pure_def, Option.some.injEq, Prod.mk.injEq, expect?_eq_some_iff] at h
  obtain ⟨cs₁, rfl, source, cs₂, h₂, rfl, rfl⟩ := h
  refine ⟨?_, rfl⟩
  conv => lhs; rw [← Run.append_read isBlank cs₁, Quoted.eq_of_read? h₂]
  simp [text]

theorem eq_of_readSideEffect? {d : Declaration} (h : readSideEffect? cs = some (d, rest)) :
    importWord ++ cs = d.text ++ rest ∧ d.form = .sideEffect := by
  simp only [readSideEffect?, Option.bind_eq_bind, Option.bind_eq_some_iff, Prod.exists,
    Option.pure_def] at h
  obtain ⟨source, cs₁, h₁, h₂⟩ := h
  cases hclosing : readClosing cs₁ with
  | mk closing cs₂ =>
    rw [hclosing] at h₂
    simp only [Option.some.injEq, Prod.mk.injEq] at h₂
    obtain ⟨rfl, rfl⟩ := h₂
    refine ⟨?_, rfl⟩
    conv =>
      lhs
      rw [← Run.append_read isBlank cs, Quoted.eq_of_read? h₁, eq_of_readClosing hclosing]
    simp [text]

/-- Keyword and clause together. -/
theorem eq_of_readClauseFrom? {form : Form} {clause : Clause} {cs₁ : List Char} {d : Declaration}
    (hclause : cs = clause.text ++ cs₁ ∧ clause.form = form)
    (h : readFrom? clause cs₁ = some (d, rest)) :
    importWord ++ cs = d.text ++ rest ∧ d.form = form := by
  rw [hclause.1, ← hclause.2]
  exact eq_of_readFrom? h

/-- A declaration that has been read, written back, is the front of the text, and
it has the form that was asked for. -/
theorem eq_of_read? {form : Form} {d : Declaration} (h : read? form cs = some (d, rest)) :
    cs = d.text ++ rest ∧ d.form = form := by
  simp only [read?, Option.bind_eq_bind, Option.bind_eq_some_iff, expect?_eq_some_iff] at h
  obtain ⟨cs₁, rfl, h⟩ := h
  cases form <;> simp only [readAfterKeyword?, Option.bind_eq_bind, Option.bind_eq_some_iff,
    Prod.exists] at h
  case sideEffect => exact eq_of_readSideEffect? h
  all_goals obtain ⟨clause, cs₂, hclause, hfrom⟩ := h
  case default => exact eq_of_readClauseFrom? (Clause.eq_of_readBinding? hclause) hfrom
  case named => exact eq_of_readClauseFrom? (Clause.eq_of_readNames? hclause) hfrom
  case defaultAndNamed =>
    exact eq_of_readClauseFrom? (Clause.eq_of_readBindingAndNames? hclause) hfrom
  case star => exact eq_of_readClauseFrom? (Clause.eq_of_readStar? hclause) hfrom

end Declaration

/-! ## What is there is read -/

theorem not_isBlank_of_isBindingChar {c : Char} (h : isBindingChar c = true) :
    isBlank c = false := by
  simp only [isBindingChar, Bool.and_eq_true, Bool.not_eq_true'] at h
  exact h.1.1.1.1.1.1.1

theorem not_isBindingChar_of_isBlank (c : Char) (h : isBlank c = true) :
    isBindingChar c = false := by
  simp [isBindingChar, h]

theorem Quoted.read?_text (quoted : Quoted) (rest : List Char) :
    read? (quoted.text ++ rest) = some (quoted, rest) := by
  obtain ⟨quote, specifier⟩ := quoted
  have hstop : Stops quote.admits (quote.mark :: rest) := .cons (by cases quote <;> decide) rest
  have hin : readIn? quote (Quoted.text ⟨quote, specifier⟩ ++ rest) =
      some (⟨quote, specifier⟩, rest) := by
    simp [readIn?, text, Run.read_append specifier hstop]
  cases quote with
  | single =>
    rw [read?, hin]
    rfl
  | double =>
    have hnone : readIn? .single (Quoted.text ⟨.double, specifier⟩ ++ rest) = none := by
      simp [readIn?, text, Quote.mark]
    rw [read?, hin, hnone]
    rfl

theorem NameList.read?_text (list : NameList) (rest : List Char) :
    read? (text list ++ rest) = some (list, rest) := by
  have hstop : Stops isNameListChar ('}' :: rest) := .cons (by decide) rest
  simp [read?, text, expect?, Run.read_append list hstop]

namespace Clause

theorem readBinding?_text (before : Space) (name : Binding) (after : Space) {rest : List Char}
    (h : Stops isBlank rest) :
    readBinding? ((binding before name after).text ++ rest) =
      some (.binding before name after, rest) := by
  have h₁ : Stops isBlank (name.chars ++ (after.chars ++ rest)) :=
    .run_append_of_pos Nat.one_pos (fun _ => not_isBlank_of_isBindingChar) name _
  have h₂ : Stops isBindingChar (after.chars ++ rest) :=
    .run_append_of_pos Nat.one_pos not_isBindingChar_of_isBlank after _
  simp [readBinding?, text, Run.read?_append _ h₁, Run.read?_append _ h₂, Run.read?_append _ h]

theorem readNames?_text (before : Gap) (list : NameList) (after : Gap) {rest : List Char}
    (h : Stops isBlank rest) :
    readNames? ((names before list after).text ++ rest) =
      some (.names before list after, rest) := by
  have h₁ : Stops isBlank (NameList.text list ++ (after.chars ++ rest)) := .cons (by decide) _
  simp [readNames?, text, Run.read_append _ h₁, NameList.read?_text, Run.read_append _ h]

theorem readBindingAndNames?_text (before : Space) (name : Binding) (beforeComma afterComma : Gap)
    (list : NameList) (after : Gap) {rest : List Char} (h : Stops isBlank rest) :
    readBindingAndNames?
        ((bindingAndNames before name beforeComma afterComma list after).text ++ rest) =
      some (.bindingAndNames before name beforeComma afterComma list after, rest) := by
  have h₄ : Stops isBlank (NameList.text list ++ (after.chars ++ rest)) := .cons (by decide) _
  have h₃ : Stops isBlank
      (',' :: (afterComma.chars ++ (NameList.text list ++ (after.chars ++ rest)))) :=
    .cons (by decide) _
  have h₂ : Stops isBindingChar (beforeComma.chars ++
      ',' :: (afterComma.chars ++ (NameList.text list ++ (after.chars ++ rest)))) :=
    .run_append not_isBindingChar_of_isBlank beforeComma (.cons (by decide) _)
  have h₁ : Stops isBlank (name.chars ++ (beforeComma.chars ++
      ',' :: (afterComma.chars ++ (NameList.text list ++ (after.chars ++ rest))))) :=
    .run_append_of_pos Nat.one_pos (fun _ => not_isBlank_of_isBindingChar) name _
  simp [readBindingAndNames?, text, Run.read?_append _ h₁, Run.read?_append _ h₂,
    Run.read_append _ h₃, expect?, Run.read_append _ h₄, NameList.read?_text, Run.read_append _ h]

theorem readStar?_text (before beforeAs : Gap) (beforeName : Space) (name : Binding)
    (after : Space) {rest : List Char} (h : Stops isBlank rest) :
    readStar? ((star before beforeAs beforeName name after).text ++ rest) =
      some (.star before beforeAs beforeName name after, rest) := by
  have h₄ : Stops isBindingChar (after.chars ++ rest) :=
    .run_append_of_pos Nat.one_pos not_isBindingChar_of_isBlank after _
  have h₃ : Stops isBlank (name.chars ++ (after.chars ++ rest)) :=
    .run_append_of_pos Nat.one_pos (fun _ => not_isBlank_of_isBindingChar) name _
  have h₂ : Stops isBlank (asWord ++ (beforeName.chars ++ (name.chars ++ (after.chars ++ rest)))) :=
    .cons (by decide) _
  have h₁ : Stops isBlank ('*' :: (beforeAs.chars ++
      (asWord ++ (beforeName.chars ++ (name.chars ++ (after.chars ++ rest)))))) :=
    .cons (by decide) _
  simp [readStar?, text, Run.read_append _ h₁, expect?, Run.read_append _ h₂, Run.read?_append _ h₃,
    Run.read?_append _ h₄, Run.read?_append _ h]

end Clause

namespace Declaration

theorem readFrom?_text (clause : Clause) (gap : Gap) (source : Quoted) (rest : List Char) :
    readFrom? clause (fromWord ++ (gap.chars ++ (source.text ++ rest))) =
      some (.binds clause gap source, rest) := by
  have h : Stops isBlank (source.text ++ rest) :=
    .cons (by cases source.quote <;> decide) _
  simp [readFrom?, Run.read_append _ h, Quoted.read?_text]

/-- A declaration that binds names is read exactly, whatever follows it. -/
theorem read?_text_binds (clause : Clause) (gap : Gap) (source : Quoted) (rest : List Char) :
    read? clause.form ((binds clause gap source).text ++ rest) =
      some (.binds clause gap source, rest) := by
  have h : Stops isBlank (fromWord ++ (gap.chars ++ (source.text ++ rest))) := .cons (by decide) _
  have hread : read? clause.form ((binds clause gap source).text ++ rest) =
      readAfterKeyword? clause.form
        (clause.text ++ (fromWord ++ (gap.chars ++ (source.text ++ rest)))) := by
    simp [read?, text]
  rw [hread]
  cases clause with
  | binding before name after =>
    simp [readAfterKeyword?, Clause.form, Clause.readBinding?_text _ _ _ h, readFrom?_text]
  | names before list after =>
    simp [readAfterKeyword?, Clause.form, Clause.readNames?_text _ _ _ h, readFrom?_text]
  | bindingAndNames before name beforeComma afterComma list after =>
    simp [readAfterKeyword?, Clause.form, Clause.readBindingAndNames?_text _ _ _ _ _ _ h,
      readFrom?_text]
  | star before beforeAs beforeName name after =>
    simp [readAfterKeyword?, Clause.form, Clause.readStar?_text _ _ _ _ _ h, readFrom?_text]

theorem readClosing_closingText (gap : Gap) (rest : List Char) :
    readClosing (closingText (some gap) ++ rest) = (some gap, rest) := by
  have h : Stops isBlank (';' :: rest) := .cons (by decide) rest
  simp [readClosing, closingText, Run.read_append _ h]

/-- A side-effect import is read with the semicolon that follows it, if any. -/
theorem read?_text_sideEffect (gap : Gap) (source : Quoted) (rest : List Char) :
    read? .sideEffect ((sideEffect gap source none).text ++ rest) =
      some (.sideEffect gap source (readClosing rest).1, (readClosing rest).2) := by
  have h : Stops isBlank (source.text ++ rest) :=
    .cons (by cases source.quote <;> decide) _
  simp [read?, text, closingText, readAfterKeyword?, readSideEffect?, Run.read_append _ h,
    Quoted.read?_text]

/-- A side-effect import with its semicolon is read exactly. -/
theorem read?_text_closed (gap : Gap) (source : Quoted) (closing : Gap) (rest : List Char) :
    read? .sideEffect ((sideEffect gap source (some closing)).text ++ rest) =
      some (.sideEffect gap source (some closing), rest) := by
  have hread := read?_text_sideEffect gap source (closingText (some closing) ++ rest)
  rw [readClosing_closingText] at hread
  rw [← hread]
  simp [text, closingText]

end Declaration

end ImportMaps
