/-!
# ImportMaps — characters, lengths and words

A source text is handled as its list of characters; places in it are counted
in UTF-8 bytes. This module fixes the two character classes that every reader
shares and the byte length of a text.

* `isBlank` — the four blank characters that may stand between tokens.
* `isWord` — ASCII letters, digits and the underscore: a keyword must not
  follow one of these.
* `byteLength` — the number of bytes that a text takes in UTF-8, additive
  over concatenation (`byteLength_append`).
* `expect?` — takes a fixed word off the front of a text; it succeeds exactly
  on texts that start with the word (`expect?_eq_some_iff`).
* `occursIn` — a word stands somewhere in a text.
* `substitute` — every occurrence of a word replaced, from left to right; what was
  put in is not looked at again, and occurrences that overlap an earlier one do not
  count.
-/

namespace ImportMaps.Text

/-! ## Character classes -/

/-- A blank is a space, a tab, a carriage return or a line feed. No other
character counts as blank, in particular no Unicode space. -/
def isBlank (c : Char) : Bool :=
  c == ' ' || c == '\t' || c == '\r' || c == '\n'

/-- A word character is an ASCII letter, an ASCII digit or the underscore. -/
def isWord (c : Char) : Bool :=
  c.isAlphanum || c == '_'

/-! ## Byte length -/

/-- The number of UTF-8 bytes of a text. -/
def byteLength (cs : List Char) : Nat :=
  cs.foldr (fun c bytes => c.utf8Size + bytes) 0

@[simp] theorem byteLength_nil : byteLength [] = 0 := rfl

@[simp] theorem byteLength_cons (c : Char) (cs : List Char) :
    byteLength (c :: cs) = c.utf8Size + byteLength cs := rfl

@[simp] theorem byteLength_append (a b : List Char) :
    byteLength (a ++ b) = byteLength a + byteLength b := by
  induction a with
  | nil => simp
  | cons c a ih => simp [ih, Nat.add_assoc]

/-- No character is shorter than one byte. -/
theorem length_le_byteLength (cs : List Char) : cs.length ≤ byteLength cs := by
  induction cs with
  | nil => simp
  | cons c cs ih =>
    have : 0 < c.utf8Size := c.utf8Size_pos
    simp only [List.length_cons, byteLength_cons]
    omega

/-! ## Fixed words -/

/-- The text after the word, when the text starts with it. -/
def expect? : List Char → List Char → Option (List Char)
  | [], cs => some cs
  | _ :: _, [] => none
  | w :: ws, c :: cs => if w = c then expect? ws cs else none

theorem expect?_eq_some_iff {w cs rest : List Char} :
    expect? w cs = some rest ↔ cs = w ++ rest := by
  induction w generalizing cs with
  | nil => simp [expect?]
  | cons x w ih =>
    cases cs with
    | nil => simp [expect?]
    | cons c cs =>
      by_cases h : x = c
      · simp [expect?, h, ih]
      · simp [expect?, h, Ne.symm h]

@[simp] theorem expect?_append (w rest : List Char) : expect? w (w ++ rest) = some rest :=
  expect?_eq_some_iff.2 rfl

/-! ## Occurrences of a word -/

/-- Whether a word stands somewhere in a text. -/
def occursIn (word : List Char) : List Char → Bool
  | [] => word.isEmpty
  | c :: cs => word.isPrefixOf (c :: cs) || occursIn word cs

/-- Replaces occurrences, passing over the next `skip` characters, which belong
to an occurrence that has been replaced already. -/
def substituteFrom (word replacement : List Char) (skip : Nat) : List Char → List Char
  | [] => []
  | c :: cs =>
    if skip = 0 then
      if word.isPrefixOf (c :: cs) then
        replacement ++ substituteFrom word replacement (word.length - 1) cs
      else
        c :: substituteFrom word replacement 0 cs
    else
      substituteFrom word replacement (skip - 1) cs

/-- Replaces every occurrence of a word that is not empty. -/
def substitute (word replacement cs : List Char) : List Char :=
  substituteFrom word replacement 0 cs

end ImportMaps.Text
