import ImportMaps.Proofs.Source.Division

/-!
# ImportMaps — lines added at the end of a source

What a scan has found in a source stays found when further lines are added to it.
The danger is a declaration that begins in the old text and is completed by the new
one: it might begin before imports that were found already, and swallow them.

It cannot. A quotation does not leave its line, so a declaration that is completed
across the line break has its whole lead in front of the break, or goes over the
break with its lead (`Declaration.cut_by_break`). In the first case it stood in the
old text already; in the second no quote follows its start in the old text, whereas
every import found there ends in one.

Main results:

* `Declaration.cut_by_break` — a line break cuts a declaration in its lead, or not
  at all.
* `Source.Division.append_lines` — a division of a source begins a division of the
  source with further lines.
* `Source.imports_prefix_append_lines` — the imports of a source begin those of the
  source with further lines.
-/

namespace ImportMaps

open Text

/-! ## Declarations across a line break -/

namespace Declaration

/-- **A line break cuts a declaration in its lead, or not at all.** A declaration at the
front of a text with a line break in it stands before the break, but for its semicolon,
or has nothing but its lead there. -/
theorem cut_by_break {d : Declaration} {nl : Char} {cs more rest : List Char}
    (hnl : isLineBreak nl = true) (h : cs ++ nl :: more = d.text ++ rest) :
    (∃ (d' : Declaration) (rest' : List Char), cs = d'.text ++ rest') ∨
      ∃ ahead, d.lead = cs ++ ahead := by
  rw [d.text_eq, List.append_assoc, List.append_assoc] at h
  rcases List.append_eq_append_iff.1 h with ⟨ahead, hlead, -⟩ | ⟨behind, hcs, hbehind⟩
  · exact .inr ⟨ahead, hlead⟩
  · -- the break lies behind the lead, and not in the quotation
    rcases List.append_eq_append_iff.1 hbehind.symm with
      ⟨ahead, hsource, hahead⟩ | ⟨rest', hrest, -⟩
    · cases ahead with
      | nil =>
        obtain ⟨d', hd'⟩ := d.exists_text_eq_lead
        exact .inl ⟨d', [], by simp_all⟩
      | cons c ahead =>
        obtain rfl : nl = c := (List.cons.inj hahead).1
        exact absurd (by simp [hsource]) (d.source.not_mem_text hnl)
    · obtain ⟨d', hd'⟩ := d.exists_text_eq_lead
      exact .inl ⟨d', rest', by rw [hcs, hrest, hd', List.append_assoc]⟩

/-- A lead does not reach past a declaration. -/
theorem lead_ne_append (d d' : Declaration) (front rest : List Char) :
    d.lead ≠ front ++ (d'.text ++ rest) := by
  intro h
  have hmem : d'.source.quote.mark ∈ d.lead := by simp [h, d'.text_eq, d'.source_text]
  have hunquoted := d.unquoted_lead _ hmem
  cases hquote : d'.source.quote <;> rw [hquote] at hunquoted <;> exact absurd hunquoted (by decide)

end Declaration

/-! ## Further lines -/

namespace Source

/-- Where no declaration starts, none starts when lines are added after the next
declaration. -/
theorem Skippable.append_lines {skipped rest lines : List Char} {d : Declaration} {nl : Char}
    (hnl : isLineBreak nl = true) (h : Skippable skipped (d.text ++ rest)) :
    Skippable skipped (d.text ++ (rest ++ nl :: lines)) := by
  rintro front more hskipped hmore ⟨hboundary, e, rest', hstart⟩
  have hcut : (more ++ (d.text ++ rest)) ++ nl :: lines = e.text ++ rest' := by
    rw [← hstart]
    simp
  rcases Declaration.cut_by_break hnl hcut with ⟨e', behind, hbehind⟩ | ⟨ahead, hlead⟩
  · -- the declaration stands in the old text, where there is none
    exact h front more hskipped hmore ⟨hboundary, e', behind, hbehind⟩
  · rw [List.append_assoc, List.append_assoc] at hlead
    exact e.lead_ne_append d more _ hlead

/-- **A division goes on with further lines.** -/
theorem Division.append_lines {text : List Char} {segments : List Segment} {nl : Char}
    (hnl : isLineBreak nl = true) (h : Division text segments) (lines : List Char) :
    ∃ more, Division (text ++ nl :: lines) (segments ++ more) := by
  induction h with
  | @ending text skippable =>
    -- nothing was found, so whatever is found now comes after it
    exact exists_division (text ++ nl :: lines)
  | @segment skipped rest d segments boundary skippable division ih =>
    obtain ⟨more, hmore⟩ := ih
    refine ⟨more, ?_⟩
    rw [List.append_assoc, List.append_assoc]
    exact .segment boundary (skippable.append_lines hnl) hmore

theorem imports_prefix_of_break (a b : String) {br : String} {nl : Char} (hbr : br.toList = [nl])
    (hnl : isLineBreak nl = true) : imports a <+: imports (a ++ br ++ b) := by
  obtain ⟨segments, hsegments⟩ := exists_division a.toList
  obtain ⟨more, hmore⟩ := hsegments.append_lines hnl b.toList
  have hlines : (a ++ br ++ b).toList = a.toList ++ nl :: b.toList := by simp [hbr]
  rw [← hlines] at hmore
  rw [imports_eq_reports hsegments, imports_eq_reports hmore, Segment.reports_append]
  exact List.prefix_append _ _

/-- **Lines added at the end of a source leave alone what was found in it**, whichever
character breaks the line. Without a line break they do not: in `import x from 'import "y"`
a second single quote completes the first declaration, which then holds the other one
in its specifier. -/
theorem imports_prefix_append_lines :
    (∀ a b : String,
        imports a <+: imports (a ++ "\n" ++ b) ∧ imports a <+: imports (a ++ "\r" ++ b)) ∧
      ∃ a b : String, ¬ imports a <+: imports (a ++ b) := by
  refine ⟨?_, "import x from 'import \"y\"", "'", by decide +kernel⟩
  intro a b
  exact ⟨imports_prefix_of_break a b rfl (by decide), imports_prefix_of_break a b rfl (by decide)⟩

end Source

end ImportMaps
