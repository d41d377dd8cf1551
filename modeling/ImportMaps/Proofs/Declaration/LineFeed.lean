import ImportMaps.Proofs.Declaration.Reading
import ImportMaps.Proofs.Text.LineFeed

/-!
# ImportMaps — declarations and the ways to end a line

A declaration may go over several lines, between its tokens and in its brace list.
How these lines end makes no difference to what it declares. Both directions are
shown, for the texts of declarations as they are:

* `Declaration.exists_text_eq_lineFeeds` — with single line feeds a declaration is a
  declaration of the same form and source.
* `Declaration.exists_of_lineFeeds` — where one stands in a text with single line
  feeds, one of the same form and source stands in the text itself.

Words, names and quotations hold no line ends at all, and line ends stay among blanks
and in brace lists; so the proofs go token by token.
-/

namespace ImportMaps

open Text

/-! ## Tokens -/

namespace Binding

theorem not_mem_cr (name : Binding) : '\r' ∉ name.chars :=
  name.not_mem (by decide)

/-- No line end goes over the start of a name. -/
theorem stops_lf (name : Binding) (rest : List Char) :
    Stops (· == '\n') (name.chars ++ rest) := by
  refine .run_append_of_pos Nat.one_pos ?_ name rest
  intro c hc
  simp only [beq_eq_false_iff_ne]
  rintro rfl
  exact absurd hc (by decide)

theorem exists_of_lineFeeds (name : Binding) {cs rest : List Char}
    (h : lineFeeds cs = name.chars ++ rest) :
    ∃ rest', cs = name.chars ++ rest' ∧ lineFeeds rest' = rest :=
  exists_of_lineFeeds_eq_append name.not_mem_cr (name.not_mem (by decide)) h

end Binding

namespace NameList

theorem stops_lf (list : NameList) (rest : List Char) : Stops (· == '\n') (text list ++ rest) :=
  .cons (by decide) _

theorem lineFeeds_text_append (list : NameList) (rest : List Char) :
    lineFeeds (text list ++ rest) =
      text (Run.lineFeeds list (by decide)) ++ lineFeeds rest := by
  have hends : EndsOutside (· == '\r') (text list) := .concat (by decide) ('{' :: list.chars)
  have hstops : Stops (· == '\n') ['}'] := .cons (by decide) []
  rw [lineFeeds_append (.inl hends), text, List.cons_append, lineFeeds_cons (.inl (by decide)),
    lineFeeds_append (.inr hstops)]
  rfl

theorem exists_of_lineFeeds {list : NameList} {cs rest : List Char}
    (h : lineFeeds cs = text list ++ rest) :
    ∃ (list' : NameList) (rest' : List Char),
      cs = text list' ++ rest' ∧ lineFeeds rest' = rest := by
  simp only [text, List.cons_append, List.append_assoc] at h
  obtain ⟨cs₁, rfl, h₁⟩ := exists_of_lineFeeds_eq_cons (by decide) (by decide) h
  obtain ⟨list', cs₂, rfl, h₂⟩ := Run.exists_of_lineFeeds (p := isNameListChar) (by decide) h₁
  obtain ⟨cs₃, rfl, h₃⟩ := exists_of_lineFeeds_eq_cons (by decide) (by decide) h₂
  exact ⟨list', cs₃, by simp [text], h₃⟩

end NameList

/-! ## A declaration with single line feeds -/

namespace Clause

/-- A clause with single line feeds is a clause of the same form, if no line end goes
over its end. -/
theorem exists_text_eq_lineFeeds (clause : Clause) :
    ∃ clause' : Clause, clause'.form = clause.form ∧ ∀ rest, Stops (· == '\n') rest →
      lineFeeds (clause.text ++ rest) = clause'.text ++ lineFeeds rest := by
  cases clause with
  | binding before name after =>
    refine ⟨binding (before.lineFeeds (by decide)) name (after.lineFeeds (by decide)), rfl, ?_⟩
    intro rest hrest
    -- only blanks change; a name has no line end in it and does not begin with one
    simp only [text, List.append_assoc]
    rw [lineFeeds_append (.inr (name.stops_lf _)), lineFeeds_append_of_not_mem name.not_mem_cr,
      lineFeeds_append (.inr hrest)]
    rfl
  | names before list after =>
    refine ⟨names (before.lineFeeds (by decide)) (Run.lineFeeds list (by decide))
      (after.lineFeeds (by decide)), rfl, ?_⟩
    intro rest hrest
    simp only [text, List.append_assoc]
    rw [lineFeeds_append (.inr (NameList.stops_lf list _)), NameList.lineFeeds_text_append,
      lineFeeds_append (.inr hrest)]
    rfl
  | bindingAndNames before name beforeComma afterComma list after =>
    refine ⟨bindingAndNames (before.lineFeeds (by decide)) name (beforeComma.lineFeeds (by decide))
      (afterComma.lineFeeds (by decide)) (Run.lineFeeds list (by decide))
      (after.lineFeeds (by decide)), rfl, ?_⟩
    intro rest hrest
    simp only [text, List.append_assoc, List.cons_append]
    -- the comma is one more place where no line end goes over
    rw [lineFeeds_append (.inr (name.stops_lf _)), lineFeeds_append_of_not_mem name.not_mem_cr,
      lineFeeds_append (.inr (.cons (by decide) _)), lineFeeds_cons (.inl (by decide)),
      lineFeeds_append (.inr (NameList.stops_lf list _)), NameList.lineFeeds_text_append,
      lineFeeds_append (.inr hrest)]
    rfl
  | star before beforeAs beforeName name after =>
    refine ⟨star (before.lineFeeds (by decide)) (beforeAs.lineFeeds (by decide))
      (beforeName.lineFeeds (by decide)) name (after.lineFeeds (by decide)), rfl, ?_⟩
    intro rest hrest
    have hword : ∀ cs, Stops (· == '\n') (asWord ++ cs) := fun cs => .cons (by decide) _
    simp only [text, List.append_assoc, List.cons_append]
    rw [lineFeeds_append (.inr (.cons (by decide) _)), lineFeeds_cons (.inl (by decide)),
      lineFeeds_append (.inr (hword _)), lineFeeds_append_of_not_mem (by decide),
      lineFeeds_append (.inr (name.stops_lf _)), lineFeeds_append_of_not_mem name.not_mem_cr,
      lineFeeds_append (.inr hrest)]
    rfl

/-- Where a text with single line feeds begins with a clause, the text begins with a clause
of the same form. -/
theorem exists_of_lineFeeds {clause : Clause} {cs rest : List Char}
    (h : lineFeeds cs = clause.text ++ rest) :
    ∃ (clause' : Clause) (rest' : List Char), cs = clause'.text ++ rest' ∧
      clause'.form = clause.form ∧ lineFeeds rest' = rest := by
  have hblank : isBlank '\r' = true := by decide
  cases clause with
  | binding before name after =>
    simp only [text, List.append_assoc] at h
    -- part by part from the left, with what is left of the text each time
    obtain ⟨before', cs₁, rfl, h₁⟩ := Run.exists_of_lineFeeds hblank h
    obtain ⟨cs₂, rfl, h₂⟩ := name.exists_of_lineFeeds h₁
    obtain ⟨after', cs₃, rfl, h₃⟩ := Run.exists_of_lineFeeds hblank h₂
    exact ⟨binding before' name after', cs₃, by simp [text], rfl, h₃⟩
  | names before list after =>
    simp only [text, List.append_assoc] at h
    obtain ⟨before', cs₁, rfl, h₁⟩ := Run.exists_of_lineFeeds hblank h
    obtain ⟨list', cs₂, rfl, h₂⟩ := NameList.exists_of_lineFeeds h₁
    obtain ⟨after', cs₃, rfl, h₃⟩ := Run.exists_of_lineFeeds hblank h₂
    exact ⟨names before' list' after', cs₃, by simp [text], rfl, h₃⟩
  | bindingAndNames before name beforeComma afterComma list after =>
    simp only [text, List.append_assoc, List.cons_append] at h
    obtain ⟨before', cs₁, rfl, h₁⟩ := Run.exists_of_lineFeeds hblank h
    obtain ⟨cs₂, rfl, h₂⟩ := name.exists_of_lineFeeds h₁
    obtain ⟨beforeComma', cs₃, rfl, h₃⟩ := Run.exists_of_lineFeeds hblank h₂
    obtain ⟨cs₄, rfl, h₄⟩ := exists_of_lineFeeds_eq_cons (by decide) (by decide) h₃
    obtain ⟨afterComma', cs₅, rfl, h₅⟩ := Run.exists_of_lineFeeds hblank h₄
    obtain ⟨list', cs₆, rfl, h₆⟩ := NameList.exists_of_lineFeeds h₅
    obtain ⟨after', cs₇, rfl, h₇⟩ := Run.exists_of_lineFeeds hblank h₆
    exact ⟨bindingAndNames before' name beforeComma' afterComma' list' after', cs₇, by simp [text],
      rfl, h₇⟩
  | star before beforeAs beforeName name after =>
    simp only [text, List.append_assoc, List.cons_append] at h
    obtain ⟨before', cs₁, rfl, h₁⟩ := Run.exists_of_lineFeeds hblank h
    obtain ⟨cs₂, rfl, h₂⟩ := exists_of_lineFeeds_eq_cons (by decide) (by decide) h₁
    obtain ⟨beforeAs', cs₃, rfl, h₃⟩ := Run.exists_of_lineFeeds hblank h₂
    obtain ⟨cs₄, rfl, h₄⟩ := exists_of_lineFeeds_eq_append (by decide) (by decide) h₃
    obtain ⟨beforeName', cs₅, rfl, h₅⟩ := Run.exists_of_lineFeeds hblank h₄
    obtain ⟨cs₆, rfl, h₆⟩ := name.exists_of_lineFeeds h₅
    obtain ⟨after', cs₇, rfl, h₇⟩ := Run.exists_of_lineFeeds hblank h₆
    exact ⟨star before' beforeAs' beforeName' name after', cs₇, by simp [text], rfl, h₇⟩

end Clause

namespace Quoted

theorem stops_lf (q : Quoted) (rest : List Char) : Stops (· == '\n') (q.text ++ rest) :=
  .cons (by cases q.quote <;> decide) _

theorem lineFeeds_text_append (q : Quoted) (rest : List Char) :
    lineFeeds (q.text ++ rest) = q.text ++ lineFeeds rest :=
  lineFeeds_append_of_not_mem (q.not_mem_text (by decide)) rest

theorem exists_of_lineFeeds (q : Quoted) {cs rest : List Char}
    (h : lineFeeds cs = q.text ++ rest) :
    ∃ rest', cs = q.text ++ rest' ∧ lineFeeds rest' = rest :=
  exists_of_lineFeeds_eq_append (q.not_mem_text (by decide)) (q.not_mem_text (by decide)) h

end Quoted

namespace Declaration

theorem exists_closingText_eq_lineFeeds (closing : Option Gap) :
    ∃ closing' : Option Gap, ∀ rest,
      lineFeeds (closingText closing ++ rest) = closingText closing' ++ lineFeeds rest := by
  cases closing with
  | none => exact ⟨none, fun _ => rfl⟩
  | some gap =>
    refine ⟨some (gap.lineFeeds (by decide)), ?_⟩
    intro rest
    simp only [closingText, List.append_assoc, List.cons_append, List.nil_append]
    rw [lineFeeds_append (.inr (.cons (by decide) _)), lineFeeds_cons (.inl (by decide))]
    rfl

/-- **With single line feeds a declaration declares the same.** -/
theorem exists_text_eq_lineFeeds (d : Declaration) :
    ∃ d' : Declaration, d'.form = d.form ∧ d'.source = d.source ∧
      ∀ rest, lineFeeds (d.text ++ rest) = d'.text ++ lineFeeds rest := by
  have himport : ∀ cs, lineFeeds (importWord ++ cs) = importWord ++ lineFeeds cs :=
    lineFeeds_append_of_not_mem (by decide)
  cases d with
  | binds clause gap source =>
    have hfrom : ∀ cs, Stops (· == '\n') (fromWord ++ cs) := fun cs => .cons (by decide) _
    obtain ⟨clause', hform, hclause⟩ := clause.exists_text_eq_lineFeeds
    refine ⟨binds clause' (gap.lineFeeds (by decide)) source, hform, rfl, ?_⟩
    intro rest
    simp only [text, List.append_assoc]
    rw [himport, hclause _ (hfrom _), lineFeeds_append_of_not_mem (by decide),
      lineFeeds_append (.inr (source.stops_lf _)), source.lineFeeds_text_append]
    rfl
  | sideEffect gap source closing =>
    obtain ⟨closing', hclosing⟩ := exists_closingText_eq_lineFeeds closing
    refine ⟨sideEffect (gap.lineFeeds (by decide)) source closing', rfl, rfl, ?_⟩
    intro rest
    simp only [text, List.append_assoc]
    rw [himport, lineFeeds_append (.inr (source.stops_lf _)), source.lineFeeds_text_append,
      hclosing]
    rfl

/-- **Where a text with single line feeds begins with a declaration, the text begins with
one that declares the same.** -/
theorem exists_of_lineFeeds {d : Declaration} {cs rest : List Char}
    (h : lineFeeds cs = d.text ++ rest) :
    ∃ (d' : Declaration) (rest' : List Char), cs = d'.text ++ rest' ∧ d'.form = d.form ∧
      d'.source = d.source := by
  have hblank : isBlank '\r' = true := by decide
  cases d with
  | binds clause gap source =>
    simp only [text, List.append_assoc] at h
    obtain ⟨cs₁, rfl, h₁⟩ := exists_of_lineFeeds_eq_append (by decide) (by decide) h
    obtain ⟨clause', cs₂, rfl, hform, h₂⟩ := Clause.exists_of_lineFeeds h₁
    obtain ⟨cs₃, rfl, h₃⟩ := exists_of_lineFeeds_eq_append (by decide) (by decide) h₂
    obtain ⟨gap', cs₄, rfl, h₄⟩ := Run.exists_of_lineFeeds hblank h₃
    obtain ⟨cs₅, rfl, -⟩ := source.exists_of_lineFeeds h₄
    exact ⟨binds clause' gap' source, cs₅, by simp [text], hform, rfl⟩
  | sideEffect gap source closing =>
    -- the semicolon may stay behind
    simp only [text, List.append_assoc] at h
    obtain ⟨cs₁, rfl, h₁⟩ := exists_of_lineFeeds_eq_append (by decide) (by decide) h
    obtain ⟨gap', cs₂, rfl, h₂⟩ := Run.exists_of_lineFeeds hblank h₁
    obtain ⟨cs₃, rfl, -⟩ := source.exists_of_lineFeeds h₂
    exact ⟨sideEffect gap' source none, cs₃, by simp [text, closingText], rfl, rfl⟩

end Declaration

end ImportMaps
