import ImportMaps.Proofs.Text.Cut

/-!
# ImportMaps — one way to end a line

`lineFeeds` writes every line end of two characters, a carriage return and a line
feed, as the line feed alone. Other carriage returns stay.

It works on the parts of a text one by one, as long as no cut parts the two
characters of a line end: `lineFeeds_append` says so forwards. Backwards there is no
such condition, since a result can always be cut where one likes
(`exists_append_of_lineFeeds`). All else is about which characters come and go: only
carriage returns go, and each of them leaves a line feed behind.
-/

namespace ImportMaps.Text

/-- Every carriage return with a line feed after it left out. -/
def lineFeeds : List Char → List Char
  | '\r' :: '\n' :: cs => '\n' :: lineFeeds cs
  | c :: cs => c :: lineFeeds cs
  | [] => []

@[simp] theorem lineFeeds_nil : lineFeeds [] = [] := rfl

theorem lineFeeds_pair (cs : List Char) : lineFeeds ('\r' :: '\n' :: cs) = '\n' :: lineFeeds cs :=
  rfl

/-- A character that does not open a line end stays. -/
theorem lineFeeds_cons {c : Char} {cs : List Char} (h : c ≠ '\r' ∨ Stops (· == '\n') cs) :
    lineFeeds (c :: cs) = c :: lineFeeds cs := by
  rw [lineFeeds]
  rintro rest rfl rfl
  rcases h with hc | hstops
  · exact hc rfl
  · exact absurd (hstops '\n' rfl) (by decide)

/-! ## Part by part -/

/-- **The parts of a text are treated one by one**, unless the cut between them parts a
line end. -/
theorem lineFeeds_append {cs rest : List Char}
    (h : EndsOutside (· == '\r') cs ∨ Stops (· == '\n') rest) :
    lineFeeds (cs ++ rest) = lineFeeds cs ++ lineFeeds rest := by
  fun_induction lineFeeds cs with
  | case1 cs ih =>
    rw [List.cons_append, List.cons_append, lineFeeds_pair, ih, List.cons_append]
    exact h.imp_left fun hcs => hcs.of_cons.of_cons
  | case2 c cs hpair ih =>
    have hcons : c ≠ '\r' ∨ Stops (· == '\n') (cs ++ rest) := by
      by_cases hc : c = '\r'
      · right
        cases cs with
        | nil =>
          -- the cut comes right after the carriage return
          refine h.resolve_left ?_
          intro hcs
          exact absurd (hcs c rfl) (by simp [hc])
        | cons b cs =>
          refine .cons ?_ _
          simp only [beq_eq_false_iff_ne]
          rintro rfl
          exact hpair cs hc rfl
      · exact .inl hc
    rw [List.cons_append, lineFeeds_cons hcons, ih, List.cons_append]
    exact h.imp_left fun hcs => hcs.of_cons
  | case3 => rfl

theorem lineFeeds_eq_self {cs : List Char} (h : '\r' ∉ cs) : lineFeeds cs = cs := by
  induction cs with
  | nil => rfl
  | cons c cs ih =>
    rw [List.mem_cons, not_or] at h
    rw [lineFeeds_cons (.inl (Ne.symm h.1)), ih h.2]

/-- A front without carriage returns stays. -/
theorem lineFeeds_append_of_not_mem {cs : List Char} (h : '\r' ∉ cs) (rest : List Char) :
    lineFeeds (cs ++ rest) = cs ++ lineFeeds rest := by
  have hends : EndsOutside (· == '\r') cs := by
    intro c hc
    simp only [beq_eq_false_iff_ne]
    rintro rfl
    exact h (List.mem_of_getLast? hc)
  rw [lineFeeds_append (.inl hends), lineFeeds_eq_self h]

/-- **A result can be cut anywhere**: the parts come from parts of the text. -/
theorem exists_append_of_lineFeeds {text front rest : List Char}
    (h : lineFeeds text = front ++ rest) :
    ∃ cs cs', text = cs ++ cs' ∧ lineFeeds cs = front ∧ lineFeeds cs' = rest := by
  fun_induction lineFeeds text generalizing front with
  | case1 cs ih =>
    cases front with
    | nil => exact ⟨[], '\r' :: '\n' :: cs, rfl, rfl, h⟩
    | cons b front =>
      obtain ⟨rfl, hrest⟩ := List.cons.inj h
      obtain ⟨cs₁, cs₂, rfl, rfl, rfl⟩ := ih hrest
      exact ⟨'\r' :: '\n' :: cs₁, cs₂, rfl, rfl, rfl⟩
  | case2 c cs hpair ih =>
    cases front with
    | nil => exact ⟨[], c :: cs, rfl, rfl, by rw [lineFeeds]; exact h; exact hpair⟩
    | cons b front =>
      obtain ⟨rfl, hrest⟩ := List.cons.inj h
      obtain ⟨cs₁, cs₂, rfl, rfl, rfl⟩ := ih hrest
      refine ⟨c :: cs₁, cs₂, rfl, ?_, rfl⟩
      rw [lineFeeds]
      -- a pair at the cut would have been one in the text
      rintro more rfl rfl
      exact hpair (more ++ cs₂) rfl rfl
  | case3 =>
    obtain ⟨rfl, rfl⟩ := List.append_eq_nil_iff.1 h.symm
    exact ⟨[], [], rfl, rfl, rfl⟩

/-! ## Which characters come and go -/

theorem mem_of_mem_lineFeeds {c : Char} {cs : List Char} (h : c ∈ lineFeeds cs) : c ∈ cs := by
  fun_induction lineFeeds cs with
  | case1 cs ih =>
    rcases List.mem_cons.1 h with rfl | h
    · simp
    · simp [ih h]
  | case2 b cs _ ih =>
    rcases List.mem_cons.1 h with rfl | h
    · simp
    · simp [ih h]
  | case3 => exact h

/-- Only carriage returns go, and a line feed stays for each of them. -/
theorem mem_lineFeeds_or {c : Char} {cs : List Char} (h : c ∈ cs) :
    c ∈ lineFeeds cs ∨ (c = '\r' ∧ '\n' ∈ lineFeeds cs) := by
  fun_induction lineFeeds cs with
  | case1 cs ih =>
    rcases List.mem_cons.1 h with rfl | h
    · exact .inr ⟨rfl, List.mem_cons_self⟩
    · rcases List.mem_cons.1 h with rfl | h
      · exact .inl List.mem_cons_self
      · exact (ih h).imp (List.mem_cons_of_mem _) fun hcr => ⟨hcr.1, List.mem_cons_self⟩
  | case2 b cs _ ih =>
    rcases List.mem_cons.1 h with rfl | h
    · exact .inl List.mem_cons_self
    · exact (ih h).imp (List.mem_cons_of_mem _) fun hcr => ⟨hcr.1, List.mem_cons_of_mem _ hcr.2⟩
  | case3 => exact absurd h List.not_mem_nil

theorem length_lineFeeds_le (cs : List Char) : (lineFeeds cs).length ≤ cs.length := by
  fun_induction lineFeeds cs with
  | case1 cs ih =>
    simp only [List.length_cons]
    omega
  | case2 c cs _ ih =>
    simp only [List.length_cons]
    omega
  | case3 => exact Nat.le_refl _

theorem lineFeeds_ne_nil {cs : List Char} (h : cs ≠ []) : lineFeeds cs ≠ [] := by
  fun_cases lineFeeds cs with
  | case1 => simp
  | case2 => simp
  | case3 => exact h

/-- A text ends as before. -/
theorem getLast?_lineFeeds (cs : List Char) : (lineFeeds cs).getLast? = cs.getLast? := by
  fun_induction lineFeeds cs with
  | case1 cs ih => rw [List.getLast?_cons, ih, List.getLast?_cons_cons, List.getLast?_cons]
  | case2 c cs _ ih => rw [List.getLast?_cons, ih, List.getLast?_cons]
  | case3 => rfl

/-! ## Runs -/

namespace Run

variable {p : Char → Bool} {least : Nat}

/-- A run of at most one required character with single line feeds. -/
def lineFeeds (run : Run p least) (h : least ≤ 1) : Run p least where
  chars := Text.lineFeeds run.chars
  all_mem c hc := run.all_mem c (mem_of_mem_lineFeeds hc)
  least_le := by
    have hleast := run.least_le
    cases hrun : run.chars with
    | nil => simpa [hrun] using hleast
    | cons c cs =>
      have hpos := List.length_pos_iff.2 (lineFeeds_ne_nil (List.cons_ne_nil c cs))
      omega

/-- Where a result begins with a run that admits carriage returns, the text does too. -/
theorem exists_of_lineFeeds {text rest : List Char} {run : Run p least} (hp : p '\r' = true)
    (h : Text.lineFeeds text = run.chars ++ rest) :
    ∃ (run' : Run p least) (cs : List Char),
      text = run'.chars ++ cs ∧ Text.lineFeeds cs = rest := by
  obtain ⟨front, cs, rfl, hfront, hcs⟩ := exists_append_of_lineFeeds h
  have hall : ∀ c ∈ front, p c = true := by
    intro c hc
    rcases mem_lineFeeds_or hc with hmem | ⟨rfl, -⟩
    · exact run.all_mem c (hfront ▸ hmem)
    · exact hp
  have hleast : least ≤ front.length := by
    have hlength := length_lineFeeds_le front
    have hrun := run.least_le
    rw [hfront] at hlength
    omega
  exact ⟨⟨front, hall, hleast⟩, cs, rfl, hcs⟩

end Run

/-- Where a result begins with a text without line ends, the text does too. -/
theorem exists_of_lineFeeds_eq_append {text front rest : List Char} (hcr : '\r' ∉ front)
    (hlf : '\n' ∉ front) (h : lineFeeds text = front ++ rest) :
    ∃ cs, text = front ++ cs ∧ lineFeeds cs = rest := by
  obtain ⟨front', cs, rfl, rfl, hcs⟩ := exists_append_of_lineFeeds h
  have hfront : '\r' ∉ front' := by
    intro hmem
    rcases mem_lineFeeds_or hmem with hmem | ⟨-, hmem⟩
    · exact hcr hmem
    · exact hlf hmem
  exact ⟨cs, by rw [lineFeeds_eq_self hfront], hcs⟩

theorem exists_of_lineFeeds_eq_cons {text rest : List Char} {c : Char} (hcr : '\r' ≠ c)
    (hlf : '\n' ≠ c) (h : lineFeeds text = c :: rest) :
    ∃ cs, text = c :: cs ∧ lineFeeds cs = rest := by
  have hcr' : '\r' ∉ [c] := by simpa using hcr
  have hlf' : '\n' ∉ [c] := by simpa using hlf
  exact exists_of_lineFeeds_eq_append hcr' hlf' h

end ImportMaps.Text
