import ImportMaps.Text.Basic

/-!
# ImportMaps — a word replaced in a text

The replacement runs over a text with a count of characters still to be passed over.
Without that count it has two ways to go on: a text that begins with the word loses it
for the replacement (`substitute_word_append`), and any other text keeps its first
character (`substitute_cons`). What is proved about it here goes by these two cases
(`induction_occurrences`).

Main results:

* `substitute_append` — a text in two parts is replaced part by part, when the second
  one cannot go on with a word that the first one begins.
* `substitute_eq_self_iff` — a replacement changes nothing only where there is nothing
  to replace, or when the word is replaced by itself.
-/

namespace ImportMaps.Text

variable {word replacement : List Char}

theorem occursIn_eq_true_iff {cs : List Char} : occursIn word cs = true ↔ word <:+: cs := by
  induction cs with
  | nil => rw [occursIn, List.isEmpty_iff, List.infix_nil]
  | cons c cs ih =>
    rw [occursIn, Bool.or_eq_true, List.isPrefixOf_iff_prefix, ih, List.infix_cons_iff]

/-! ## The two ways to go on -/

theorem substituteFrom_eq (n : Nat) (cs : List Char) :
    substituteFrom word replacement n cs = substitute word replacement (cs.drop n) := by
  induction cs generalizing n with
  | nil => rw [List.drop_nil]; rfl
  | cons c cs ih =>
    cases n with
    | zero => rfl
    | succ n => exact ih n

@[simp] theorem substitute_nil : substitute word replacement [] = [] := rfl

theorem substitute_cons {c : Char} {cs : List Char} (h : ¬ word <+: c :: cs) :
    substitute word replacement (c :: cs) = c :: substitute word replacement cs := by
  rw [← List.isPrefixOf_iff_prefix] at h
  rw [substitute, substituteFrom, if_pos rfl, if_neg h]
  rfl

theorem substitute_word_append (hword : word ≠ []) (cs : List Char) :
    substitute word replacement (word ++ cs) =
      replacement ++ substitute word replacement cs := by
  obtain ⟨c, rest, rfl⟩ := List.exists_cons_of_ne_nil hword
  have hprefix : (c :: rest).isPrefixOf (c :: (rest ++ cs)) = true :=
    List.isPrefixOf_iff_prefix.2 (List.prefix_append (c :: rest) cs)
  rw [List.cons_append, substitute, substituteFrom, if_pos rfl, if_pos hprefix,
    substituteFrom_eq, List.length_cons, Nat.add_sub_cancel, List.drop_left]

/-- A text is taken apart as a replacement takes it apart: the word where it comes
next, and otherwise one character. -/
theorem induction_occurrences (hword : word ≠ []) {motive : List Char → Prop}
    (nil : motive []) (occurrence : ∀ cs, motive cs → motive (word ++ cs))
    (cons : ∀ c cs, ¬ word <+: c :: cs → motive cs → motive (c :: cs)) :
    ∀ cs, motive cs
  | [] => nil
  | c :: cs => by
    by_cases h : word <+: c :: cs
    · obtain ⟨rest, hrest⟩ := h
      -- the word has a character, so what stands behind it is shorter than the text
      have hlength : rest.length < (c :: cs).length := by
        rw [← hrest, List.length_append]
        have hpos := List.length_pos_iff.2 hword
        omega
      rw [← hrest]
      exact occurrence rest (induction_occurrences hword nil occurrence cons rest)
    · exact cons c cs h (induction_occurrences hword nil occurrence cons cs)
termination_by cs => cs.length
decreasing_by
  · exact hlength
  · exact Nat.lt_succ_self cs.length

/-! ## Texts in parts -/

/-- Up to a text without the word's first character, nothing is replaced. -/
theorem substitute_append_of_notMem {c : Char} (hfirst : word.head? = some c)
    {cs : List Char} (h : c ∉ cs) (rest : List Char) :
    substitute word replacement (cs ++ rest) = cs ++ substitute word replacement rest := by
  induction cs with
  | nil => rfl
  | cons d cs ih =>
    rw [List.mem_cons, not_or] at h
    have hprefix : ¬ word <+: d :: (cs ++ rest) := by
      intro hword
      rw [List.head?_eq_some_iff] at hfirst
      obtain ⟨tail, rfl⟩ := hfirst
      exact h.1 (List.cons_prefix_cons.1 hword).1
    rw [List.cons_append, substitute_cons hprefix, ih h.2, List.cons_append]

/-- A word that begins in a text ends in it too, unless it goes on with what follows. -/
theorem prefix_of_prefix_append {c : Char} {cs rest : List Char}
    (hrest : ∀ d ∈ rest.head?, d ∉ word.tail) (h : word <+: c :: cs ++ rest) :
    word <+: c :: cs := by
  rcases List.prefix_or_prefix_of_prefix h (List.prefix_append (c :: cs) rest) with
    hword | ⟨behind, rfl⟩
  · exact hword
  · -- the part of the word behind the text would begin with the first character of `rest`
    cases behind with
    | nil => exact ⟨[], by simp⟩
    | cons d behind =>
      rw [List.prefix_append_right_inj] at h
      obtain ⟨rest, rfl⟩ := h
      exact absurd (List.mem_append_right cs List.mem_cons_self) (hrest d rfl)

theorem substitute_append (hword : word ≠ []) {rest : List Char}
    (hrest : ∀ c ∈ rest.head?, c ∉ word.tail) (cs : List Char) :
    substitute word replacement (cs ++ rest) =
      substitute word replacement cs ++ substitute word replacement rest := by
  induction cs using induction_occurrences hword with
  | nil => rfl
  | occurrence cs ih =>
    rw [List.append_assoc, substitute_word_append hword, ih, substitute_word_append hword,
      List.append_assoc]
  | cons c cs h ih =>
    -- no occurrence begins here with the rest behind it, since none does without it
    have happend : ¬ word <+: c :: (cs ++ rest) := fun hword' =>
      h (prefix_of_prefix_append hrest hword')
    rw [List.cons_append, substitute_cons happend, ih, substitute_cons h, List.cons_append]

/-! ## When nothing changes -/

theorem substitute_of_absent (hword : word ≠ []) {cs : List Char} (h : ¬ word <:+: cs) :
    substitute word replacement cs = cs := by
  induction cs using induction_occurrences hword with
  | nil => rfl
  | occurrence cs ih => exact absurd (List.prefix_append word cs).isInfix h
  | cons c cs hprefix ih =>
    rw [substitute_cons hprefix, ih fun hcs => h (List.infix_cons hcs)]

theorem substitute_self (hword : word ≠ []) (cs : List Char) :
    substitute word word cs = cs := by
  induction cs using induction_occurrences hword with
  | nil => rfl
  | occurrence cs ih => rw [substitute_word_append hword, ih]
  | cons c cs h ih => rw [substitute_cons h, ih]

/-- Each occurrence makes the same difference to the length. -/
theorem exists_length_substitute (hword : word ≠ []) (replacement cs : List Char) :
    ∃ n, (substitute word replacement cs).length + n * word.length =
      cs.length + n * replacement.length := by
  induction cs using induction_occurrences hword with
  | nil => exact ⟨0, by simp⟩
  | occurrence cs ih =>
    obtain ⟨n, hn⟩ := ih
    refine ⟨n + 1, ?_⟩
    rw [substitute_word_append hword]
    simp only [List.length_append, Nat.succ_mul]
    omega
  | cons c cs h ih =>
    obtain ⟨n, hn⟩ := ih
    refine ⟨n, ?_⟩
    rw [substitute_cons h]
    simp only [List.length_cons]
    omega

theorem substitute_eq_self_iff (hword : word ≠ []) {cs : List Char} :
    substitute word replacement cs = cs ↔ ¬ word <:+: cs ∨ replacement = word := by
  constructor
  · intro hself
    induction cs using induction_occurrences hword with
    | nil =>
      left
      rw [List.infix_nil]
      exact hword
    | occurrence cs ih =>
      right
      rw [substitute_word_append hword] at hself
      -- with `n` occurrences behind it, the first one makes `n + 1` equal differences
      obtain ⟨n, hn⟩ := exists_length_substitute hword replacement cs
      have hlength := congrArg List.length hself
      simp only [List.length_append] at hlength
      have hmul : (n + 1) * replacement.length = (n + 1) * word.length := by
        simp only [Nat.succ_mul]
        omega
      exact (List.append_inj hself (Nat.eq_of_mul_eq_mul_left n.succ_pos hmul)).1
    | cons c cs h ih =>
      rw [substitute_cons h, List.cons.injEq] at hself
      rcases ih hself.2 with hcs | hreplacement
      · left
        rw [List.infix_cons_iff, not_or]
        exact ⟨h, hcs⟩
      · exact .inr hreplacement
  · rintro (h | rfl)
    · exact substitute_of_absent hword h
    · exact substitute_self hword cs

end ImportMaps.Text
