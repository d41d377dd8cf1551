import ImportMaps.Text.Run

/-!
# ImportMaps — cutting a text in two

Most arguments about readers compare two cuts of one text. This module holds the
three ways to see that two cuts are the same: both have a run of one class in
front of the cut that cannot go on (`leading_run_inj`), both have such a run
behind it (`trailing_run_inj`), or both have a front of equally many bytes
(`eq_of_byteLength_eq`).
-/

namespace ImportMaps.Text

/-! ## Leading runs -/

/-- Two runs of one class that are followed by something else split a text in
the same way. -/
theorem leading_run_inj {p : Char → Bool} {run run' rest rest' : List Char}
    (hrun : ∀ c ∈ run, p c = true) (hrun' : ∀ c ∈ run', p c = true)
    (hrest : Stops p rest) (hrest' : Stops p rest')
    (h : run ++ rest = run' ++ rest') : run = run' ∧ rest = rest' := by
  have htake : run = run' := by
    rw [← Run.takeWhile_append hrun hrest, h, Run.takeWhile_append hrun' hrest']
  subst htake
  exact ⟨rfl, List.append_cancel_left h⟩

/-! ## Trailing runs -/

/-- The text does not end with a character of the class. -/
def EndsOutside (p : Char → Bool) (cs : List Char) : Prop :=
  ∀ c ∈ cs.getLast?, p c = false

theorem EndsOutside.concat {p : Char → Bool} {c : Char} (h : p c = false) (cs : List Char) :
    EndsOutside p (cs ++ [c]) := by
  simpa [EndsOutside] using h

theorem EndsOutside.append {p : Char → Bool} {front cs : List Char}
    (hfront : EndsOutside p front) (hcs : EndsOutside p cs) : EndsOutside p (front ++ cs) := by
  intro c hc
  rw [List.getLast?_append] at hc
  cases hlast : cs.getLast? with
  | none => exact hfront c (by simpa [hlast] using hc)
  | some b =>
    obtain rfl : b = c := by simpa [hlast] using hc
    exact hcs b hlast

theorem EndsOutside.of_append {p : Char → Bool} {front cs : List Char}
    (h : EndsOutside p (front ++ cs)) : EndsOutside p cs := by
  intro c hc
  have hc : cs.getLast? = some c := hc
  exact h c (by simp [List.getLast?_append, hc])

theorem EndsOutside.of_cons {p : Char → Bool} {c : Char} {cs : List Char}
    (h : EndsOutside p (c :: cs)) : EndsOutside p cs := by
  have h : EndsOutside p ([c] ++ cs) := h
  exact h.of_append

/-- A text that ends with a run of another class that is not empty. -/
theorem EndsOutside.append_run {p q : Char → Bool} {least : Nat} (hpos : 0 < least)
    (hqp : ∀ c, q c = true → p c = false) (cs : List Char) (run : Run q least) :
    EndsOutside p (cs ++ run.chars) := by
  intro c hc
  cases hlast : run.chars.getLast? with
  | none =>
    have hleast := run.least_le
    simp [List.getLast?_eq_none_iff.1 hlast] at hleast
    omega
  | some b =>
    have hb : b = c := by simpa [List.getLast?_append, hlast] using hc
    exact hb ▸ hqp b (run.all_mem b (List.mem_of_getLast? hlast))

private theorem eq_nil_of_endsOutside {p : Char → Bool} {cs run : List Char}
    (hrun : ∀ c ∈ run, p c = true) (h : EndsOutside p (cs ++ run)) : run = [] := by
  cases hlast : run.getLast? with
  | none => exact List.getLast?_eq_none_iff.1 hlast
  | some c =>
    have hout : p c = false := h c (by simp [List.getLast?_append, hlast])
    rw [hrun c (List.mem_of_getLast? hlast)] at hout
    exact absurd hout (by decide)

/-- Two runs of one class that follow something else split a text in the same
way. -/
theorem trailing_run_inj {p : Char → Bool} {cs cs' run run' : List Char}
    (hrun : ∀ c ∈ run, p c = true) (hrun' : ∀ c ∈ run', p c = true)
    (hcs : EndsOutside p cs) (hcs' : EndsOutside p cs')
    (h : cs ++ run = cs' ++ run') : cs = cs' ∧ run = run' := by
  -- what lies between the two cuts is a part of the run on one side and, on the other, an
  -- end of the text before the run
  rcases List.append_eq_append_iff.1 h with ⟨mid, rfl, rfl⟩ | ⟨mid, rfl, rfl⟩
  · have hmid : mid = [] :=
      eq_nil_of_endsOutside (fun c hc => hrun c (List.mem_append_left _ hc)) hcs'
    simp [hmid]
  · have hmid : mid = [] :=
      eq_nil_of_endsOutside (fun c hc => hrun' c (List.mem_append_left _ hc)) hcs
    simp [hmid]

theorem Run.not_mem {p : Char → Bool} {least : Nat} (run : Run p least) {c : Char}
    (hc : p c = false) : c ∉ run.chars := by
  intro hmem
  rw [run.all_mem c hmem] at hc
  exact absurd hc (by decide)

/-! ## Byte lengths order the cuts of a text -/

theorem byteLength_pos {cs : List Char} (h : cs ≠ []) : 0 < byteLength cs := by
  have hlength := List.length_pos_iff.2 h
  have := length_le_byteLength cs
  omega

/-- Of two fronts of one text the one with fewer bytes is the shorter one. -/
theorem exists_append_of_byteLength_le {front front' rest rest' : List Char}
    (h : front ++ rest = front' ++ rest') (hle : byteLength front ≤ byteLength front') :
    ∃ mid, front' = front ++ mid ∧ rest = mid ++ rest' := by
  rcases List.append_eq_append_iff.1 h with ⟨mid, hfront, hrest⟩ | ⟨mid, hfront, hrest⟩
  · exact ⟨mid, hfront, hrest⟩
  · -- a character between the cuts would make the first front the one with more bytes
    have hmid : mid = [] := by
      refine Classical.byContradiction fun hne => ?_
      have := byteLength_pos hne
      rw [hfront, byteLength_append] at hle
      omega
    subst hmid
    exact ⟨[], by simpa using hfront.symm, by simpa using hrest.symm⟩

theorem eq_of_byteLength_eq {front front' rest rest' : List Char}
    (h : front ++ rest = front' ++ rest') (heq : byteLength front = byteLength front') :
    front = front' ∧ rest = rest' := by
  obtain ⟨mid, rfl, rfl⟩ := exists_append_of_byteLength_le h (Nat.le_of_eq heq)
  have hmid : mid = [] := by
    refine Classical.byContradiction fun hne => ?_
    have := byteLength_pos hne
    rw [byteLength_append] at heq
    omega
  simp [hmid]

end ImportMaps.Text
