import ImportMaps.Json.Printer
import ImportMaps.Json.Reader
import ImportMaps.Text.Run

/-!
# ImportMaps — quoted texts are read back

Between quotes a character can be spelt in more than one way. `Spells c w` says
that `w` is one of them: the character itself, a short escape, its number in four
hexadecimal digits, or the numbers of a surrogate pair.

A reader cannot tell where a spelling ends by looking at what follows, and it need
not: each spelling says by itself how long it is. So the step is stated in front
of any text at all (`Spells.readStringFrom_append`), and a whole text is read by
induction on its characters (`SpellsText`). A `Spelling` chooses one spelling for
every character, as a printer does.

Main results:

* `IsQuoted.exists_cons` — a text that is spelt character by character, up to its
  closing quote, is read back, whatever comes after it.
* `spells_escape` — what the printer writes for a character is a spelling of it.
-/

namespace ImportMaps.Json

open Text

/-! ## Numbers of four digits -/

/-- Four hexadecimal digits that give a number. -/
def IsUnitText (n : Nat) (w : List Char) : Prop :=
  ∃ a b c d i j k l, w = [a, b, c, d] ∧
    hexValue? a = some i ∧ hexValue? b = some j ∧ hexValue? c = some k ∧
    hexValue? d = some l ∧ n = ((i * 16 + j) * 16 + k) * 16 + l

theorem IsUnitText.readUnit_append {n : Nat} {w : List Char} (h : IsUnitText n w)
    (rest : List Char) : readUnit (w ++ rest) = .ok (n, rest) := by
  obtain ⟨a, b, c, d, i, j, k, l, rfl, ha, hb, hc, hd, rfl⟩ := h
  show readUnit (a :: b :: c :: d :: rest) = _
  simp only [readUnit, ha, hb, hc, hd]

/-- The printer's digits are digits of the reader. -/
theorem hexValue?_hexDigit : ∀ n < 16, hexValue? (hexDigit n) = some n := by
  decide

theorem isUnitText_zeros {n : Nat} (h : n < 0x100) :
    IsUnitText n ['0', '0', hexDigit (n / 16), hexDigit (n % 16)] := by
  refine ⟨'0', '0', _, _, 0, 0, n / 16, n % 16, rfl, rfl, rfl, ?_, ?_, ?_⟩
  · exact hexValue?_hexDigit _ (by omega)
  · exact hexValue?_hexDigit _ (by omega)
  · omega

/-! ## Spellings of a character -/

/-- The ways to write a character between quotes. -/
inductive Spells : Char → List Char → Prop where
  /-- The character itself, unless it means something else there. -/
  | plain {c : Char} (hquote : c ≠ '"') (hbackslash : c ≠ '\\')
      (hcontrol : isControl c = false) : Spells c [c]
  | short {c letter : Char} (h : shortEscape? letter = some c) : Spells c ['\\', letter]
  | number {n : Nat} {w : List Char} (h : IsUnitText n w) (hleading : isLeading n = false)
      (htrailing : isTrailing n = false) : Spells (Char.ofNat n) ('\\' :: 'u' :: w)
  | pair {n k : Nat} {w v : List Char} (hw : IsUnitText n w) (hv : IsUnitText k v)
      (hleading : isLeading n = true) (hnot : isTrailing n = false)
      (htrailing : isTrailing k = true) :
      Spells (pairChar n k) ('\\' :: 'u' :: w ++ '\\' :: 'u' :: v)

theorem readStringFrom_quote (done rest : List Char) :
    readStringFrom done ('"' :: rest) = .ok (String.ofList done.reverse, rest) := by
  rw [readStringFrom, if_pos rfl]

theorem readStringFrom_escape {done cs rest : List Char} {c : Char}
    (h : readEscape cs = .ok (c, rest)) :
    readStringFrom done ('\\' :: cs) = readStringFrom (c :: done) rest := by
  rw [readStringFrom, if_neg (by decide), if_pos rfl]
  split
  · next heq => rw [h] at heq; cases heq
  · next heq => rw [h] at heq; cases heq; rfl

/-- The letter that announces a number is not the letter of a short escape. -/
theorem ne_u_of_shortEscape? {c letter : Char} (h : shortEscape? letter = some c) :
    letter ≠ 'u' := by
  rintro rfl
  have hu : shortEscape? 'u' = none := by decide
  rw [hu] at h
  cases h

/-- **One character**: a spelling is read as its character, whatever follows. -/
theorem Spells.readStringFrom_append {c : Char} {w : List Char} (h : Spells c w)
    (done rest : List Char) :
    readStringFrom done (w ++ rest) = readStringFrom (c :: done) rest := by
  cases h with
  | plain hquote hbackslash hcontrol =>
    -- none of the reader's three tests applies
    show readStringFrom done (c :: rest) = _
    rw [readStringFrom, if_neg hquote, if_neg hbackslash, if_neg (by simp [hcontrol])]
  | @short _ letter h =>
    show readStringFrom done ('\\' :: letter :: rest) = _
    apply readStringFrom_escape
    simp only [readEscape, if_neg (ne_u_of_shortEscape? h), h]
  | @number n w h hleading htrailing =>
    show readStringFrom done ('\\' :: 'u' :: (w ++ rest)) = _
    apply readStringFrom_escape
    show readCodePoint (w ++ rest) = _
    simp [readCodePoint, h.readUnit_append, hleading, htrailing]
  | @pair n k w v hw hv hleading hnot htrailing =>
    -- the first unit alone is no character: the reader must find the second one behind it
    rw [show '\\' :: 'u' :: w ++ '\\' :: 'u' :: v ++ rest =
      '\\' :: 'u' :: (w ++ ('\\' :: 'u' :: (v ++ rest))) by simp]
    apply readStringFrom_escape
    show readCodePoint (w ++ _) = _
    simp [readCodePoint, hw.readUnit_append, hleading, hnot, readTrailing,
      hv.readUnit_append, htrailing]

/-- What the printer writes for a character. -/
theorem spells_escape (c : Char) : Spells c (escape c) := by
  unfold escape
  -- The seven characters that have a letter of their own.
  iterate 7
    split
    · next h =>
      subst h
      exact .short rfl
  split
  · -- The other control characters are far below the surrogates.
    next h =>
    have hn : IsUnitText c.toNat _ := isUnitText_zeros (by omega)
    have hleading : isLeading c.toNat = false := by
      simp only [isLeading, Bool.and_eq_false_iff, decide_eq_false_iff_not]
      omega
    have htrailing : isTrailing c.toNat = false := by
      simp only [isTrailing, Bool.and_eq_false_iff, decide_eq_false_iff_not]
      omega
    simpa only [Char.ofNat_toNat] using Spells.number hn hleading htrailing
  · next hquote hbackslash _ _ _ _ _ hcontrol =>
    exact .plain hquote hbackslash (by simpa [isControl] using hcontrol)

/-! ## Whole texts -/

/-- The ways to write the characters of a text between its quotes: each has a
spelling of its own, also where it occurs again. -/
inductive SpellsText : List Char → List Char → Prop where
  | nil : SpellsText [] []
  | cons {c : Char} {cs w ws : List Char} (hc : Spells c w) (hcs : SpellsText cs ws) :
      SpellsText (c :: cs) (w ++ ws)

/-- By induction on the characters that are still to come: those already read are
kept last first. -/
theorem SpellsText.readStringFrom_append {cs ws : List Char} (h : SpellsText cs ws)
    (done rest : List Char) :
    readStringFrom done (ws ++ '"' :: rest) =
      .ok (String.ofList (done.reverse ++ cs), rest) := by
  induction h generalizing done with
  | nil => rw [List.nil_append, readStringFrom_quote, List.append_nil]
  | cons hc hcs ih =>
    rw [List.append_assoc, hc.readStringFrom_append, ih]
    simp

/-- The ways to write a text in quotes. -/
inductive IsQuoted : String → List Char → Prop where
  | mk {text : String} {ws : List Char} (h : SpellsText text.toList ws) :
      IsQuoted text ('"' :: (ws ++ ['"']))

/-- **A text**: after its opening quote, a text is read back up to its closing
quote, however it is spelt. -/
theorem IsQuoted.exists_cons {text : String} {q : List Char} (h : IsQuoted text q) :
    ∃ body, q = '"' :: body ∧ ∀ rest, readString (body ++ rest) = .ok (text, rest) := by
  obtain ⟨hspells⟩ := h
  refine ⟨_, rfl, ?_⟩
  intro rest
  rw [List.append_assoc, readString]
  show readStringFrom [] (_ ++ '"' :: rest) = _
  rw [hspells.readStringFrom_append]
  simp

/-! ## One spelling for every character -/

/-- A choice of one spelling for every character. -/
structure Spelling where
  write : Char → List Char
  spells : ∀ c, Spells c (write c)

namespace Spelling

/-- A text between quotes. -/
def quote (w : Spelling) (text : String) : List Char :=
  '"' :: text.toList.flatMap w.write ++ ['"']

/-- The spelling of the printer. -/
def printed : Spelling :=
  ⟨escape, spells_escape⟩

variable (w : Spelling)

theorem spellsText (cs : List Char) : SpellsText cs (cs.flatMap w.write) := by
  induction cs with
  | nil => exact .nil
  | cons c cs ih => exact .cons (w.spells c) ih

theorem isQuoted (text : String) : IsQuoted text (w.quote text) :=
  .mk (w.spellsText text.toList)

end Spelling

/-! ## Blanks in front -/

theorem skipBlanks_append (blanks : Run isBlank 0) (cs : List Char) :
    skipBlanks (blanks.chars ++ cs) = skipBlanks cs :=
  List.dropWhile_append_of_pos blanks.all_mem

/-- Nothing is left of blanks alone. -/
theorem skipBlanks_run (blanks : Run isBlank 0) : skipBlanks blanks.chars = [] := by
  rw [← List.append_nil blanks.chars, skipBlanks_append]
  rfl

/-- A character that is no blank stays in front. -/
theorem skipBlanks_cons {c : Char} (hc : isBlank c = false) (rest : List Char) :
    skipBlanks (c :: rest) = c :: rest := by
  rw [skipBlanks, List.dropWhile_cons_of_neg (by simp [hc])]

theorem readText_blanks (blanks : Run isBlank 0) (cs : List Char) :
    readText (blanks.chars ++ cs) = readText cs := by
  rw [readText, skipBlanks_append, readText]

theorem IsQuoted.readText_append {text : String} {q : List Char} (h : IsQuoted text q)
    (rest : List Char) : readText (q ++ rest) = .ok (text, rest) := by
  obtain ⟨body, rfl, hread⟩ := h.exists_cons
  rw [List.cons_append, readText, skipBlanks_cons (by decide)]
  exact hread rest

end ImportMaps.Json
