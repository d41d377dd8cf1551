import ImportMaps.Proofs.Declaration.Reading

/-!
# ImportMaps — how two declarations can overlap

A source may hold the keyword in many places inside a declaration: as a bound
name, in a brace list, in the specifier. The question that decides what a scan
can miss is where a *second* declaration can start inside a first one. The answer
is: strictly between the quotes of the first one's source, and nowhere else.

The proof looks at the first quote character after the second keyword. Leads
(`Declaration.lead`) hold no quotes, so when the second declaration starts in
the first one's lead, both leads end at that quote, and one is a proper suffix
of the other. Read backwards, token by token, a lead fixes where it began
(`Declaration.eq_nil_of_lead_eq_append`): runs are peeled off the end of both
texts until a keyword would have to stand among blanks.

Main results:

* `Declaration.eq_nil_of_lead_eq_append` — no lead is a proper suffix of a lead.
* `Declaration.overlap_in_quotes` — a declaration that starts inside another one
  starts inside its quotes.
-/

namespace ImportMaps

open Text

/-! ## The keyword does not overlap itself -/

/-- The first letter of the keyword stands nowhere else in it. -/
theorem importWord_split {front back : List Char} (h : importWord = front ++ back)
    (hback : ∀ c ∈ back.head?, c = 'i') : front = [] ∨ back = [] := by
  cases front with
  | nil => exact .inl rfl
  | cons c front =>
    -- the first letter is spent, and there is no other `i` to go on with
    refine .inr ?_
    have htail : ['m', 'p', 'o', 'r', 't'] = front ++ back := (List.cons.inj h).2
    cases back with
    | nil => rfl
    | cons b back =>
      have hb : b ∈ ['m', 'p', 'o', 'r', 't'] := by simp [htail]
      rw [hback b rfl] at hb
      exact absurd hb (by decide)

/-- A keyword that starts after the start of another one starts after its end. -/
theorem importWord_append_eq {front rest rest' : List Char}
    (h : importWord ++ rest = front ++ (importWord ++ rest')) :
    front = [] ∨ ∃ more, front = importWord ++ more ∧ rest = more ++ (importWord ++ rest') := by
  rcases List.append_eq_append_iff.1 h with ⟨more, hfront, hrest⟩ | ⟨back, hword, hback⟩
  · exact .inr ⟨more, hfront, hrest⟩
  · -- the second keyword starts within the first, which has no other letter like its own first
    have hhead : ∀ c ∈ back.head?, c = 'i' := by
      intro c hc
      cases back with
      | nil => simp at hc
      | cons b back =>
        have hb : 'i' = b := (List.cons.inj hback).1
        simp only [List.head?_cons, Option.mem_some_iff] at hc
        rw [← hc, ← hb]
    rcases importWord_split hword hhead with hfront | hnil
    · exact .inl hfront
    · subst hnil
      refine .inr ⟨[], ?_, ?_⟩
      · simpa using hword.symm
      · simpa using hback.symm

/-- Where the first letter of the keyword does not stand, the keyword does not. -/
theorem ne_append_importWord {cs front rest : List Char} (hcs : 'i' ∉ cs) :
    cs ≠ front ++ (importWord ++ rest) := by
  intro h
  exact hcs (by simp [h, importWord])

theorem endsOutside_importWord {p : Char → Bool} (hp : p 't' = false) (cs : List Char) :
    EndsOutside p (cs ++ importWord) := by
  simpa [EndsOutside, importWord] using hp

theorem endsOutside_fromWord {p : Char → Bool} (hp : p 'm' = false) (cs : List Char) :
    EndsOutside p (cs ++ fromWord) := by
  simpa [EndsOutside, fromWord] using hp

theorem append_fromWord_ne {cs cs' : List Char} : cs ++ fromWord ≠ cs' ++ importWord := by
  intro h
  have hlast := congrArg List.getLast? h
  -- `m` is not `t`
  simp [importWord, fromWord] at hlast

theorem blanks_ne_append_importWord {least : Nat} (blanks : Run isBlank least)
    {front rest : List Char} : blanks.chars ≠ front ++ (importWord ++ rest) :=
  ne_append_importWord (blanks.not_mem (by decide))

/-! ## No lead is a proper suffix of a lead

A clause is taken apart from its end: blanks, then a name or a brace list, then
what stands before that. -/

namespace Clause

/-- What stands before the last name or brace list of a clause. -/
def front : Clause → List Char
  | binding before _ _ => before.chars
  | names before _ _ => before.chars
  | bindingAndNames before name beforeComma afterComma _ _ =>
      (before.chars ++ name.chars) ++ beforeComma.chars ++ [','] ++ afterComma.chars
  | star before beforeAs beforeName _ _ =>
      before.chars ++ '*' :: (beforeAs.chars ++ asWord) ++ beforeName.chars

/-- The last name or brace list of a clause. -/
def last : Clause → List Char
  | binding _ name _ => name.chars
  | names _ list _ => NameList.text list
  | bindingAndNames _ _ _ _ list _ => NameList.text list
  | star _ _ _ name _ => name.chars

/-- The blanks that end a clause. -/
def after : Clause → List Char
  | binding _ _ after => after.chars
  | names _ _ after => after.chars
  | bindingAndNames _ _ _ _ _ after => after.chars
  | star _ _ _ _ after => after.chars

/-- The last token of a clause is a name, not a brace list. -/
def EndsWithName : Clause → Prop
  | binding .. => True
  | names .. => False
  | bindingAndNames .. => False
  | star .. => True

theorem text_eq (clause : Clause) : clause.text = clause.front ++ clause.last ++ clause.after := by
  cases clause <;> simp [text, front, last, after]

theorem isBlank_of_mem_after (clause : Clause) : ∀ c ∈ clause.after, isBlank c = true := by
  cases clause with
  | binding _ _ after => exact after.all_mem
  | names _ _ after => exact after.all_mem
  | bindingAndNames _ _ _ _ _ after => exact after.all_mem
  | star _ _ _ _ after => exact after.all_mem

/-- A name that ends a clause is as long as it can be: what stands before it does not
end in a character of names. -/
theorem last_of_endsWithName {clause : Clause} (h : clause.EndsWithName) :
    ∃ name : Binding, clause.last = name.chars ∧
      ∀ cs, EndsOutside isBindingChar (cs ++ clause.front) := by
  cases clause with
  | binding before name after =>
    refine ⟨name, rfl, ?_⟩
    intro cs
    exact .append_run Nat.one_pos not_isBindingChar_of_isBlank cs before
  | star before beforeAs beforeName name after =>
    refine ⟨name, rfl, ?_⟩
    intro cs
    rw [front, ← List.append_assoc]
    exact .append_run Nat.one_pos not_isBindingChar_of_isBlank _ beforeName
  | names before list after => exact absurd h id
  | bindingAndNames before name beforeComma afterComma list after => exact absurd h id

theorem last_of_not_endsWithName {clause : Clause} (h : ¬ clause.EndsWithName) :
    ∃ list : NameList, clause.last = ['{'] ++ list.chars ++ ['}'] := by
  cases clause with
  | names before list after => exact ⟨list, rfl⟩
  | bindingAndNames before name beforeComma afterComma list after => exact ⟨list, rfl⟩
  | binding before name after => exact absurd trivial h
  | star before beforeAs beforeName name after => exact absurd trivial h

theorem endsOutside_last (clause : Clause) (cs : List Char) :
    EndsOutside isBlank (cs ++ clause.last) := by
  by_cases h : clause.EndsWithName
  · obtain ⟨name, hlast, -⟩ := last_of_endsWithName h
    rw [hlast]
    exact .append_run Nat.one_pos (fun _ => not_isBlank_of_isBindingChar) cs name
  · obtain ⟨list, hlast⟩ := last_of_not_endsWithName h
    rw [hlast, ← List.append_assoc]
    exact .concat (by decide) _

/-- A text that ends with a name does not end with a brace list. -/
theorem last_ne_of_endsWithName {clause clause' : Clause} (h : clause.EndsWithName)
    (h' : ¬ clause'.EndsWithName) (cs cs' : List Char) :
    cs ++ clause.last ≠ cs' ++ clause'.last := by
  intro heq
  obtain ⟨name, hlast, -⟩ := last_of_endsWithName h
  obtain ⟨list, hlast'⟩ := last_of_not_endsWithName h'
  rw [hlast, hlast', ← List.append_assoc, ← List.append_assoc] at heq
  have hbrace : ∀ c, isBindingChar c = true → (c == '}') = false := by
    intro c hc
    simp_all [isBindingChar]
  have hname : EndsOutside (· == '}') (cs ++ name.chars) := .append_run Nat.one_pos hbrace cs name
  have hclosed := hname '}' (by rw [heq, List.getLast?_concat]; rfl)
  exact absurd hclosed (by decide)

/-- Two clauses that end one text end with the same token and the same blanks. -/
theorem front_eq_of_text_eq {clause clause' : Clause} {cs : List Char}
    (h : clause.text = cs ++ clause'.text) :
    clause.front = cs ++ clause'.front ∧ (clause.EndsWithName ↔ clause'.EndsWithName) := by
  rw [text_eq, text_eq, ← List.append_assoc, ← List.append_assoc] at h
  -- the blanks at the end go first
  have hlast : clause.front ++ clause.last = cs ++ clause'.front ++ clause'.last :=
    (trailing_run_inj clause.isBlank_of_mem_after clause'.isBlank_of_mem_after
      (clause.endsOutside_last _) (clause'.endsOutside_last _) h).1
  by_cases hname : clause.EndsWithName <;> by_cases hname' : clause'.EndsWithName
  · -- two names: each is the longest run of its class before the cut
    obtain ⟨name, hrun, hout⟩ := last_of_endsWithName hname
    obtain ⟨name', hrun', hout'⟩ := last_of_endsWithName hname'
    rw [hrun, hrun'] at hlast
    have hfront := (trailing_run_inj name.all_mem name'.all_mem (hout []) (hout' cs) hlast).1
    exact ⟨hfront, by simp [hname, hname']⟩
  · exact absurd hlast (last_ne_of_endsWithName hname hname' _ _)
  · exact absurd hlast.symm (last_ne_of_endsWithName hname' hname _ _)
  · -- two brace lists: no brace stands inside, so they open at the same place
    obtain ⟨list, hlist⟩ := last_of_not_endsWithName hname
    obtain ⟨list', hlist'⟩ := last_of_not_endsWithName hname'
    rw [hlist, hlist'] at hlast
    simp only [← List.append_assoc] at hlast
    have hopen := (trailing_run_inj list.all_mem list'.all_mem (.concat (by decide) _)
      (.concat (by decide) _) (List.append_cancel_right hlast)).1
    exact ⟨List.append_cancel_right hopen, by simp [hname, hname']⟩

/-- Between keyword and last token of a clause no second keyword stands that
has such a clause after it. -/
theorem front_ne {clause clause' : Clause} {cs : List Char}
    (hname : clause.EndsWithName ↔ clause'.EndsWithName) :
    clause.front ≠ cs ++ (importWord ++ clause'.front) := by
  intro h
  cases clause with
  -- in three of the four clauses no letter `i` stands before the last token
  | binding before name after => exact blanks_ne_append_importWord before h
  | names before list after => exact blanks_ne_append_importWord before h
  | star before beforeAs beforeName name after =>
    refine ne_append_importWord ?_ h
    have hbefore := before.not_mem (c := 'i') (by decide)
    have hbeforeAs := beforeAs.not_mem (c := 'i') (by decide)
    have hbeforeName := beforeName.not_mem (c := 'i') (by decide)
    simp [front, hbefore, hbeforeAs, hbeforeName, asWord]
  | bindingAndNames before name beforeComma afterComma list after =>
    cases clause' with
    | binding before' name' after' => exact hname.2 trivial
    | star before' beforeAs' beforeName' name' after' => exact hname.2 trivial
    | names before' list' after' =>
      -- the keyword would have to end in the comma
      rw [front, front, ← List.append_assoc] at h
      have hcomma := (trailing_run_inj afterComma.all_mem before'.all_mem (.concat (by decide) _)
        (endsOutside_importWord (by decide) cs) h).1
      have hlast := congrArg List.getLast? hcomma
      simp [importWord] at hlast
    | bindingAndNames before' name' beforeComma' afterComma' list' after' =>
      simp only [front, ← List.append_assoc] at h
      -- peel off the blanks around the comma, the comma and the name
      have hcomma := (trailing_run_inj afterComma.all_mem afterComma'.all_mem
        (.concat (by decide) _) (.concat (by decide) _) h).1
      have hblanks := (trailing_run_inj beforeComma.all_mem beforeComma'.all_mem
        (.append_run Nat.one_pos (fun _ => not_isBlank_of_isBindingChar) _ name)
        (.append_run Nat.one_pos (fun _ => not_isBlank_of_isBindingChar) _ name')
        (List.append_cancel_right hcomma)).1
      have hbefore := (trailing_run_inj name.all_mem name'.all_mem
        (.append_run Nat.one_pos not_isBindingChar_of_isBlank [] before)
        (.append_run Nat.one_pos not_isBindingChar_of_isBlank _ before') hblanks).1
      rw [List.append_assoc] at hbefore
      exact blanks_ne_append_importWord before hbefore

/-- **No clause ends with a keyword and a clause.** -/
theorem text_ne {clause clause' : Clause} {cs : List Char} :
    clause.text ≠ cs ++ (importWord ++ clause'.text) := by
  intro h
  rw [← List.append_assoc] at h
  obtain ⟨hfront, hname⟩ := front_eq_of_text_eq h
  rw [List.append_assoc] at hfront
  exact front_ne hname hfront

end Clause

namespace Declaration

/-- **No lead is a proper suffix of a lead.** -/
theorem eq_nil_of_lead_eq_append {d d' : Declaration} {cs : List Char}
    (h : d.lead = cs ++ d'.lead) : cs = [] := by
  cases d with
  | binds clause gap source =>
    cases d' with
    | binds clause' gap' source' =>
      simp only [lead, ← List.append_assoc] at h
      have hfrom := (trailing_run_inj gap.all_mem gap'.all_mem
        (endsOutside_fromWord (by decide) _) (endsOutside_fromWord (by decide) _) h).1
      -- what is left are keyword and clause on either side
      have hclause := List.append_cancel_right hfrom
      rw [List.append_assoc] at hclause
      rcases importWord_append_eq hclause with hnil | ⟨more, -, hmore⟩
      · exact hnil
      · exact absurd hmore Clause.text_ne
    | sideEffect gap' source' closing' =>
      -- one ends in `from`, the other in the keyword
      simp only [lead, ← List.append_assoc] at h
      have hword := (trailing_run_inj gap.all_mem gap'.all_mem
        (endsOutside_fromWord (by decide) _) (endsOutside_importWord (by decide) _) h).1
      exact absurd hword append_fromWord_ne
  | sideEffect gap source closing =>
    cases d' with
    | binds clause' gap' source' =>
      simp only [lead, ← List.append_assoc] at h
      have hword := (trailing_run_inj gap.all_mem gap'.all_mem
        (endsOutside_importWord (by decide) []) (endsOutside_fromWord (by decide) _) h).1
      exact absurd hword.symm append_fromWord_ne
    | sideEffect gap' source' closing' =>
      simp only [lead, ← List.append_assoc] at h
      have hword := (trailing_run_inj gap.all_mem gap'.all_mem
        (endsOutside_importWord (by decide) []) (endsOutside_importWord (by decide) _) h).1
      exact (List.append_cancel_right hword).symm

/-! ## Where a declaration can start inside another one -/

/-- A character that does not open or close a quotation. -/
def isUnquoted (c : Char) : Bool :=
  c != '\'' && c != '"'

theorem isUnquoted_of_isBlank {c : Char} (h : isBlank c = true) : isUnquoted c = true := by
  simp only [isBlank, Bool.or_eq_true, beq_iff_eq] at h
  rcases h with ((rfl | rfl) | rfl) | rfl <;> decide

theorem isUnquoted_of_isBindingChar {c : Char} (h : isBindingChar c = true) :
    isUnquoted c = true := by
  simp_all [isBindingChar, isUnquoted]

theorem isUnquoted_of_isNameListChar {c : Char} (h : isNameListChar c = true) :
    isUnquoted c = true := by
  simp_all [isNameListChar, isUnquoted]

theorem unquoted_clause (clause : Clause) : ∀ c ∈ clause.text, isUnquoted c = true := by
  -- every part of a clause is without quotation marks, and a clause is made of nothing else
  have hblanks : ∀ {least} (run : Run isBlank least), ∀ c ∈ run.chars, isUnquoted c = true :=
    fun run c hc => isUnquoted_of_isBlank (run.all_mem c hc)
  have hname : ∀ name : Binding, ∀ c ∈ name.chars, isUnquoted c = true :=
    fun name c hc => isUnquoted_of_isBindingChar (name.all_mem c hc)
  have hlist : ∀ list : NameList, ∀ c ∈ NameList.text list, isUnquoted c = true := by
    intro list c hc
    simp only [NameList.text, List.cons_append, List.mem_cons, List.mem_append,
      List.not_mem_nil, or_false] at hc
    rcases hc with rfl | hc | rfl
    · decide
    · exact isUnquoted_of_isNameListChar (list.all_mem c hc)
    · decide
  cases clause with
  | binding before name after =>
    simpa [Clause.text, or_imp, forall_and] using ⟨hblanks before, hname name, hblanks after⟩
  | names before list after =>
    simpa [Clause.text, or_imp, forall_and] using ⟨hblanks before, hlist list, hblanks after⟩
  | bindingAndNames before name beforeComma afterComma list after =>
    have hcomma : isUnquoted ',' = true := by decide
    simpa [Clause.text, or_imp, forall_and] using ⟨hblanks before, hname name, hblanks beforeComma,
      hcomma, hblanks afterComma, hlist list, hblanks after⟩
  | star before beforeAs beforeName name after =>
    have hstar : isUnquoted '*' = true := by decide
    have has : isUnquoted 'a' = true ∧ isUnquoted 's' = true := by decide
    simpa [Clause.text, asWord, or_imp, forall_and] using ⟨hblanks before, hstar, hblanks beforeAs,
      has.1, has.2, hblanks beforeName, hname name, hblanks after⟩

/-- No quotation starts before the source. -/
theorem unquoted_lead (d : Declaration) : ∀ c ∈ d.lead, isUnquoted c = true := by
  have hblanks : ∀ run : Gap, ∀ c ∈ run.chars, isUnquoted c = true :=
    fun run c hc => isUnquoted_of_isBlank (run.all_mem c hc)
  have himport : ∀ c ∈ importWord, isUnquoted c = true := List.all_eq_true.1 (by decide)
  have hfrom : ∀ c ∈ fromWord, isUnquoted c = true := List.all_eq_true.1 (by decide)
  intro c hc
  cases d with
  | binds clause gap source =>
    simp only [lead, List.mem_append] at hc
    rcases hc with hc | hc | hc | hc
    · exact himport c hc
    · exact unquoted_clause clause c hc
    · exact hfrom c hc
    · exact hblanks gap c hc
  | sideEffect gap source closing =>
    simp only [lead, List.mem_append] at hc
    rcases hc with hc | hc
    · exact himport c hc
    · exact hblanks gap c hc

/-- No declaration starts with a quote character. -/
theorem mark_cons_ne {q : Quote} {d : Declaration} {cs rest : List Char} :
    q.mark :: cs ≠ d.text ++ rest := by
  intro h
  obtain ⟨word, hword⟩ := d.exists_text_eq
  rw [hword] at h
  have hmark : q.mark = 'i' := (List.cons.inj h).1
  cases q <;> exact absurd hmark (by decide)

/-- Two declarations in one text, the second not before the first and not after
the first one's lead: they start at the same place. -/
theorem eq_nil_of_overlap_lead {d d' : Declaration} {front more rest rest' : List Char}
    (hlead : d.lead = front ++ more)
    (h : more ++ (d.source.text ++ rest) = d'.lead ++ (d'.source.text ++ rest')) : front = [] := by
  have hstop : ∀ (source : Quoted) (cs : List Char), Stops isUnquoted (source.text ++ cs) := by
    intro source cs
    exact .cons (by cases source.quote <;> decide) _
  have hmore : ∀ c ∈ more, isUnquoted c = true := by
    intro c hc
    exact d.unquoted_lead c (by simp [hlead, hc])
  -- both texts go on without quotes up to a first quote: that cuts them alike
  have heq : more = d'.lead :=
    (leading_run_inj hmore d'.unquoted_lead (hstop d.source _) (hstop d'.source _) h).1
  rw [heq] at hlead
  exact eq_nil_of_lead_eq_append hlead

/-- After the closing quote of a declaration the next one starts after it. -/
theorem length_closing_le {d d' : Declaration} {front rest rest' : List Char}
    (h : d.closing ++ rest = front ++ (d'.text ++ rest')) : d.closing.length ≤ front.length := by
  obtain ⟨word, hword⟩ := d'.exists_text_eq
  -- the keyword would start among blanks and a semicolon
  rcases List.append_eq_append_iff.1 h with ⟨more, hfront, -⟩ | ⟨inside, hclosing, hinside⟩
  · simp [hfront]
  · cases inside with
    | nil => simp [hclosing]
    | cons c inside =>
      rw [hword] at hinside
      obtain rfl : 'i' = c := (List.cons.inj hinside).1
      exact absurd (by simp [hclosing]) d.not_mem_closing

/-- **Declarations overlap in quotes only.** A declaration that starts inside
another one, but not with it, starts after the opening quote of its source and
before the closing one. -/
theorem overlap_in_quotes {d d' : Declaration} {front rest rest' : List Char}
    (h : d.text ++ rest = front ++ (d'.text ++ rest')) (hne : front ≠ [])
    (hlt : front.length < d.text.length) :
    ∃ before behind, d.specifier = before ++ behind ∧ behind ≠ [] ∧
      front = d.lead ++ d.source.quote.mark :: before := by
  have htext := d.text_eq
  rw [htext, List.append_assoc, List.append_assoc] at h
  rcases List.append_eq_append_iff.1 h with ⟨inner, hfront, hinner⟩ | ⟨more, hlead, hmore⟩
  · -- the second declaration starts after the lead, so look at the quotation
    cases inner with
    | nil => exact absurd (by simpa [d.source_text] using hinner) mark_cons_ne
    | cons mark before =>
      rw [d.source_text] at hinner
      simp only [List.cons_append, List.append_assoc, List.cons.injEq, List.nil_append] at hinner
      obtain ⟨hmark, hinner⟩ := hinner
      rw [← hmark] at hfront
      rcases List.append_eq_append_iff.1 hinner with
        ⟨after, hbefore, hafter⟩ | ⟨behind, hspecifier, hbehind⟩
      · -- not after the closing quote either: neither blanks nor semicolon open a keyword
        exfalso
        cases after with
        | nil => exact absurd hafter mark_cons_ne
        | cons mark' after =>
          have hle := length_closing_le (List.cons.inj hafter).2
          rw [htext, d.source_text, hfront, hbefore] at hlt
          simp only [List.length_append, List.length_cons, List.length_nil] at hlt
          omega
      · refine ⟨before, behind, hspecifier, ?_, hfront⟩
        rintro rfl
        exact absurd hbehind.symm mark_cons_ne
  · -- the second declaration starts in the lead
    rw [d'.text_eq, List.append_assoc, List.append_assoc] at hmore
    exact absurd (eq_nil_of_overlap_lead hlead hmore.symm) hne

end Declaration

end ImportMaps
