import ImportMaps.Proofs.Map.Json

/-!
# ImportMaps — import maps inside a page

What a script element holds is the indented text of a map with every `<` escaped
afterwards, character by character. That this is safe is plain: no `<` is left.
That nothing is lost needs an argument, since an escape that is put into a
finished text could end up inside another one.

It cannot. The printer writes a `<` only for a `<` of a text, and then as the whole
spelling of it (`not_mem_escape`); blanks, names of fields and punctuation have
none. So escaping afterwards only exchanges one spelling of `<` for another
(`Spelling.inScript`), and what results is again the text of the map's entries
(`scriptBody_eq`).

Main result:

* `exists_body_toScriptTag_eq` — the script element holds a text without any `<`
  that is read back as the same map.
-/

namespace ImportMaps

open Json Text

namespace ImportMap

/-! ## Escaping a finished text -/

theorem not_mem_escapeOpening (c : Char) : '<' ∉ escapeOpening c := by
  unfold escapeOpening
  split
  · decide
  · next h => simpa using Ne.symm h

/-- A text without any `<` is left as it is. -/
theorem flatMap_escapeOpening {cs : List Char} (h : '<' ∉ cs) :
    cs.flatMap escapeOpening = cs := by
  induction cs with
  | nil => rfl
  | cons c cs ih =>
    rw [List.mem_cons, not_or] at h
    rw [List.flatMap_cons, escapeOpening, if_neg (Ne.symm h.1), ih h.2]
    rfl

theorem flatMap_escapeOpening_blanks (blanks : Run isBlank 0) :
    blanks.chars.flatMap escapeOpening = blanks.chars := by
  apply flatMap_escapeOpening
  intro h
  exact absurd (blanks.all_mem _ h) (by decide)

theorem flatMap_escapeOpening_commaSeparated (items : List (List Char)) :
    (commaSeparated items).flatMap escapeOpening =
      commaSeparated (items.map (·.flatMap escapeOpening)) := by
  cases items with
  | nil => rfl
  | cons item items =>
    rw [List.map_cons, commaSeparated_cons, commaSeparated_cons, List.flatMap_append,
      List.flatMap_assoc, List.flatMap_map]
    rfl

/-! ## Another spelling -/

theorem hexDigit_ne_opening : ∀ n < 16, hexDigit n ≠ '<' := by
  decide

/-- No escape of the printer has a `<` in it. -/
theorem not_mem_escape {c : Char} (h : c ≠ '<') : '<' ∉ escape c := by
  unfold escape
  -- The seven characters that have a letter of their own.
  iterate 7
    split
    · decide
  split
  · next hcontrol =>
    have hhigh := hexDigit_ne_opening (c.toNat / 16) (by omega)
    have hlow := hexDigit_ne_opening (c.toNat % 16) (by omega)
    simp [hhigh.symm, hlow.symm]
  · simpa using h.symm

theorem spells_escapeOpening (c : Char) : Spells c ((escape c).flatMap escapeOpening) := by
  by_cases h : c = '<'
  · -- the one character whose spelling changes
    subst h
    have hunit : IsUnitText 0x3c ['0', '0', '3', 'c'] := isUnitText_zeros (by decide)
    exact .number hunit rfl rfl
  · rw [flatMap_escapeOpening (not_mem_escape h)]
    exact spells_escape c

end ImportMap

/-- The spelling in a script element: that of the printer, but for `<`. -/
def Json.Spelling.inScript : Spelling :=
  ⟨fun c => (escape c).flatMap ImportMap.escapeOpening, ImportMap.spells_escapeOpening⟩

namespace ImportMap

theorem flatMap_escapeOpening_quote (text : String) :
    (Spelling.printed.quote text).flatMap escapeOpening = Spelling.inScript.quote text := by
  show escapeOpening '"' ++
      (text.toList.flatMap escape ++ ['"']).flatMap escapeOpening = _
  rw [List.flatMap_append, List.flatMap_assoc]
  rfl

-- A backslash before a `<` has been doubled by then, so it cannot reach the new escape.
example : (Spelling.printed.quote "\\<").flatMap escapeOpening =
    ['"', '\\', '\\', '\\', 'u', '0', '0', '3', 'c', '"'] := by
  decide

/-- Escaping an object exchanges the spelling of its names and escapes its values. -/
theorem flatMap_escapeOpening_object (sp : Spacing) (members : List (String × List Char)) :
    (Spelling.printed.object sp members).flatMap escapeOpening =
      Spelling.inScript.object sp
        (members.map fun member => (member.1, member.2.flatMap escapeOpening)) := by
  have hmember : ∀ member : String × List Char,
      (Spelling.printed.member sp member).flatMap escapeOpening =
        Spelling.inScript.member sp (member.1, member.2.flatMap escapeOpening) := by
    intro member
    simp only [Spelling.member, List.flatMap_append, List.flatMap_cons,
      flatMap_escapeOpening_blanks, flatMap_escapeOpening_quote]
    rfl
  show escapeOpening '{' ++
      (commaSeparated (members.map (Spelling.printed.member sp)) ++ sp.after.chars ++
        ['}']).flatMap escapeOpening = _
  rw [List.flatMap_append, List.flatMap_append, flatMap_escapeOpening_commaSeparated,
    flatMap_escapeOpening_blanks, List.map_map]
  simp only [Spelling.object, Spelling.members, List.map_map, Function.comp_def, hmember]
  rfl

/-! ## The script element -/

/-- What the element holds is a text of the map's entries in the other spelling. -/
theorem scriptBody_eq (m : ImportMap) :
    m.scriptBody =
      historyText .inScript (.indented 0 false) (.indented 1 m.isEmpty) m.entries := by
  rw [scriptBody, indentedText_eq, historyText, flatMap_escapeOpening_object]
  show Spelling.inScript.object _
    [(entriesName, (Spelling.printed.object _ _).flatMap escapeOpening)] = _
  -- the value of the one member is the object of the pairs, which is escaped in turn
  rw [flatMap_escapeOpening_object, List.map_map]
  simp only [Function.comp_def, pairMember, flatMap_escapeOpening_quote]
  rfl

theorem not_mem_scriptBody (m : ImportMap) : '<' ∉ m.scriptBody := by
  intro h
  obtain ⟨c, -, hc⟩ := List.mem_flatMap.1 h
  exact not_mem_escapeOpening c hc

/-- **The script tag**: between the tags of the element stands a text without any `<`,
so nothing in a map can close the element or open a comment. Reading this text gives
the map back, every specifier and every URL in its place. -/
theorem exists_body_toScriptTag_eq (m : ImportMap) :
    ∃ body : String,
      m.toScriptTag = "<script type=\"importmap\">\n" ++ body ++ "\n</script>" ∧
      '<' ∉ body.toList ∧
      ofJson body = .ok m := by
  refine ⟨String.ofList m.scriptBody, rfl, ?_, ?_⟩
  · rw [String.toList_ofList]
    exact m.not_mem_scriptBody
  · rw [scriptBody_eq, ofJson_historyText, ofHistory_entries]

end ImportMap

end ImportMaps
