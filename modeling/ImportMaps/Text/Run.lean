import ImportMaps.Text.Basic

/-!
# ImportMaps — runs of one character class

Most tokens are runs: as many characters of one class as there are, and at
least so many of them. A `Run p least` carries both facts in its type, so a
token built from runs is well formed by construction.

Reading takes the longest run (`Run.read?`). Two laws pin it down:

* `Run.read?_append` — a written run is read back, provided the text after it
  does not start with a character of the class;
* `Run.eq_of_read?` — what is read is the run followed by the rest, and the
  rest does not start with a character of the class.
-/

namespace ImportMaps.Text

/-- The text does not go on with a character of the class. -/
def Stops (p : Char → Bool) (rest : List Char) : Prop :=
  ∀ c ∈ rest.head?, p c = false

/-- At least `least` characters, all of the class `p`. -/
structure Run (p : Char → Bool) (least : Nat) where
  chars : List Char
  all_mem : ∀ c ∈ chars, p c = true
  least_le : least ≤ chars.length

namespace Run

variable {p : Char → Bool} {least : Nat}

/-- A run that is written out. -/
def lit (chars : List Char) (h : (chars.all p && decide (least ≤ chars.length)) = true) :
    Run p least :=
  ⟨chars, List.all_eq_true.1 (Bool.and_eq_true_iff.1 h).1,
    of_decide_eq_true (Bool.and_eq_true_iff.1 h).2⟩

theorem ext_chars {a b : Run p least} (h : a.chars = b.chars) : a = b := by
  cases a
  cases b
  simpa using h

/-- The longest run at the front of a text, and the text after it. -/
def read? (p : Char → Bool) (least : Nat) (cs : List Char) : Option (Run p least × List Char) :=
  if h : least ≤ (cs.takeWhile p).length then
    some (⟨cs.takeWhile p, List.all_eq_true.1 List.all_takeWhile, h⟩, cs.dropWhile p)
  else
    none

/-- The longest run at the front of a text; it may be empty. -/
def read (p : Char → Bool) (cs : List Char) : Run p 0 × List Char :=
  (⟨cs.takeWhile p, List.all_eq_true.1 List.all_takeWhile, Nat.zero_le _⟩, cs.dropWhile p)

theorem stops_dropWhile (p : Char → Bool) (cs : List Char) : Stops p (cs.dropWhile p) := by
  induction cs with
  | nil => simp [Stops]
  | cons c cs ih =>
    by_cases h : p c = true
    · simpa [List.dropWhile_cons, h] using ih
    · simp [Stops, h]

theorem takeWhile_append {run rest : List Char} (hall : ∀ c ∈ run, p c = true)
    (hrest : Stops p rest) : (run ++ rest).takeWhile p = run := by
  induction run with
  | nil =>
    cases rest with
    | nil => rfl
    | cons c rest => simp [hrest c (by simp)]
  | cons c run ih =>
    have hc : p c = true := hall c (by simp)
    simp [hc, ih fun x hx => hall x (by simp [hx])]

theorem dropWhile_append {run rest : List Char} (hall : ∀ c ∈ run, p c = true)
    (hrest : Stops p rest) : (run ++ rest).dropWhile p = rest := by
  have h := List.takeWhile_append_dropWhile (p := p) (l := run ++ rest)
  rw [takeWhile_append hall hrest] at h
  exact List.append_cancel_left h

/-- A run that is followed by something else is read back. -/
theorem read?_append (run : Run p least) {rest : List Char} (hrest : Stops p rest) :
    read? p least (run.chars ++ rest) = some (run, rest) := by
  have htake := takeWhile_append run.all_mem hrest
  have hlong : least ≤ ((run.chars ++ rest).takeWhile p).length := by
    rw [htake]; exact run.least_le
  rw [read?, dif_pos hlong, dropWhile_append run.all_mem hrest]
  simp [htake]

theorem read_append (run : Run p 0) {rest : List Char} (hrest : Stops p rest) :
    read p (run.chars ++ rest) = (run, rest) := by
  simp [read, takeWhile_append run.all_mem hrest, dropWhile_append run.all_mem hrest]

/-- Nothing is lost, and the run is the longest one. -/
theorem eq_of_read? {cs rest : List Char} {run : Run p least}
    (h : read? p least cs = some (run, rest)) : cs = run.chars ++ rest ∧ Stops p rest := by
  rw [read?] at h
  split at h
  · simp only [Option.some.injEq, Prod.mk.injEq] at h
    obtain ⟨rfl, rfl⟩ := h
    exact ⟨List.takeWhile_append_dropWhile.symm, stops_dropWhile p cs⟩
  · simp at h

theorem eq_of_read {cs rest : List Char} {run : Run p 0} (h : read p cs = (run, rest)) :
    cs = run.chars ++ rest ∧ Stops p rest := by
  simp only [read, Prod.mk.injEq] at h
  obtain ⟨rfl, rfl⟩ := h
  exact ⟨List.takeWhile_append_dropWhile.symm, stops_dropWhile p cs⟩

theorem append_read (p : Char → Bool) (cs : List Char) :
    (read p cs).1.chars ++ (read p cs).2 = cs :=
  List.takeWhile_append_dropWhile

end Run

/-! ## Where a class stops -/

namespace Stops

variable {p q : Char → Bool} {least : Nat}

theorem cons {c : Char} (h : p c = false) (rest : List Char) : Stops p (c :: rest) := by
  simpa [Stops] using h

/-- A run of another class keeps stopping what the text after it stops. -/
theorem run_append (hpq : ∀ c, p c = true → q c = false) (run : Run p least)
    {rest : List Char} (hrest : Stops q rest) : Stops q (run.chars ++ rest) := by
  cases hrun : run.chars with
  | nil => simpa using hrest
  | cons c cs => exact cons (hpq c (run.all_mem c (by simp [hrun]))) _

/-- A run of another class that is not empty stops by itself. -/
theorem run_append_of_pos (hpos : 0 < least) (hpq : ∀ c, p c = true → q c = false)
    (run : Run p least) (rest : List Char) : Stops q (run.chars ++ rest) := by
  cases hrun : run.chars with
  | nil =>
    have := run.least_le
    rw [hrun, List.length_nil] at this
    omega
  | cons c cs => exact cons (hpq c (run.all_mem c (by simp [hrun]))) _

end Stops

end ImportMaps.Text
