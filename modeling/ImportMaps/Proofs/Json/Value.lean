import ImportMaps.Proofs.Json.Object

/-!
# ImportMaps — values of every type

Where a text is wanted, any other value may stand. `Value` has one constructor for each
of the six types of JSON, and `ValueText` is the relation between a value and all the
texts that stand for it; lists and objects may nest without limit, and blanks may stand
between any two tokens.

A text consists of characters: half of a surrogate pair stands for none, so nothing is
a spelling of it. A number is known by its numeral alone.

Main result:

* `ValueText.toOption_readText` — whatever its value, a place where a text is wanted is
  read when the value is a text, and is refused otherwise.
-/

namespace ImportMaps.Json

open Text

/-! ## Numerals -/

/-- The exponent of a number. -/
structure Exponent where
  /-- Whether its letter is a capital. -/
  isCapital : Bool
  /-- Its sign, if it has one: true for a minus. -/
  sign : Option Bool
  digits : Run Char.isDigit 1

/-- A number as it is written. -/
structure Numeral where
  isNegative : Bool
  whole : Run Char.isDigit 1
  /-- Only a zero that stands alone comes first in a whole part. -/
  whole_eq : whole.chars.head? = some '0' → whole.chars = ['0']
  /-- The digits after the point, if there is one. -/
  fraction : Option (Run Char.isDigit 1)
  exponent : Option Exponent

def Exponent.signChars (e : Exponent) : List Char :=
  match e.sign with
  | none => []
  | some true => ['-']
  | some false => ['+']

def Exponent.chars (e : Exponent) : List Char :=
  (if e.isCapital then 'E' else 'e') :: (e.signChars ++ e.digits.chars)

namespace Numeral

variable (n : Numeral)

/-- The numeral after its sign. -/
def unsigned : List Char :=
  n.whole.chars ++ ((n.fraction.map fun digits => '.' :: digits.chars).getD [] ++
    (n.exponent.map Exponent.chars).getD [])

def chars : List Char :=
  if n.isNegative then '-' :: n.unsigned else n.unsigned

end Numeral

/-! ## Values -/

inductive Value where
  | null
  | boolean (value : Bool)
  | number (numeral : Numeral)
  | text (value : String)
  | list (items : List Value)
  | object (members : List (String × Value))

/-- The text that a value is, if it is one. -/
def Value.text? : Value → Option String
  | text value => some value
  | _ => none

theorem Value.text?_eq_some_iff {x : Value} {value : String} :
    x.text? = some value ↔ x = .text value := by
  cases x <;> simp [text?]

/-- The word for a truth value. -/
def booleanWord : Bool → List Char
  | true => 't' :: trueTail
  | false => 'f' :: falseTail

section Lists

variable {α : Type} (Writes : α → List Char → Prop)

/-- The ways to write the elements that are left after one of them, up to the closing
bracket. -/
inductive ItemsText : List α → List Char → Prop where
  | closing (blanks : Run isBlank 0) : ItemsText [] (blanks.chars ++ [']'])
  | more {x : α} {xs : List α} {item items : List Char} (blanks before : Run isBlank 0)
      (hitem : Writes x item) (hitems : ItemsText xs items) :
      ItemsText (x :: xs) (blanks.chars ++ ',' :: (before.chars ++ (item ++ items)))

/-- The ways to write a list. -/
inductive ListText : List α → List Char → Prop where
  | empty (blanks : Run isBlank 0) : ListText [] ('[' :: (blanks.chars ++ [']']))
  | items {x : α} {xs : List α} {item items : List Char} (before : Run isBlank 0)
      (hitem : Writes x item) (hitems : ItemsText Writes xs items) :
      ListText (x :: xs) ('[' :: (before.chars ++ (item ++ items)))

end Lists

/-- The ways to write a value. -/
inductive ValueText : Value → List Char → Prop where
  | null : ValueText .null ('n' :: nullTail)
  | boolean (value : Bool) : ValueText (.boolean value) (booleanWord value)
  | number (numeral : Numeral) : ValueText (.number numeral) numeral.chars
  | text {value : String} {q : List Char} (h : IsQuoted value q) : ValueText (.text value) q
  | list {items : List Value} {cs : List Char} (h : ListText ValueText items cs) :
      ValueText (.list items) cs
  | object {members : List (String × Value)} {cs : List Char}
      (h : ObjectText ValueText members cs) : ValueText (.object members) cs

/-! ## A text where one is wanted -/

/-- A character that can begin a value, but not a text. -/
def StartsOther (c : Char) : Prop :=
  isBlank c = false ∧ c ≠ '"'

instance (c : Char) : Decidable (StartsOther c) :=
  inferInstanceAs (Decidable (_ ∧ _))

theorem startsOther_of_isDigit {c : Char} (h : c.isDigit = true) : StartsOther c := by
  constructor
  · rw [isBlank, Bool.or_eq_false_iff, Bool.or_eq_false_iff, Bool.or_eq_false_iff]
    simp only [beq_eq_false_iff_ne]
    refine ⟨⟨⟨?_, ?_⟩, ?_⟩, ?_⟩
    all_goals
      rintro rfl
      revert h
      decide
  · rintro rfl
    revert h
    decide

theorem Numeral.exists_cons (n : Numeral) : ∃ c cs, n.chars = c :: cs ∧ StartsOther c := by
  rw [chars]
  split
  · exact ⟨'-', n.unsigned, rfl, by decide⟩
  · rw [unsigned]
    cases hwhole : n.whole.chars with
    | nil =>
      have := n.whole.least_le
      rw [hwhole] at this
      simp at this
    | cons c cs =>
      exact ⟨c, _, rfl, startsOther_of_isDigit (n.whole.all_mem c (by simp [hwhole]))⟩

theorem toOption_readText_of_startsOther {c : Char} (h : StartsOther c) (rest : List Char) :
    (readText (c :: rest)).toOption = none := by
  rw [readText, skipBlanks_cons h.1]
  simp only [if_neg h.2]
  rfl

/-- **Where a text is wanted**: a text is read, whatever follows, and every other value
is refused for its first character. -/
theorem ValueText.toOption_readText {value : Value} {cs : List Char} (h : ValueText value cs)
    (rest : List Char) : (readText (cs ++ rest)).toOption = value.text?.map (·, rest) := by
  cases h with
  | null => exact toOption_readText_of_startsOther (by decide) _
  | boolean value => cases value <;> exact toOption_readText_of_startsOther (by decide) _
  | number numeral =>
    obtain ⟨c, cs, hchars, hc⟩ := numeral.exists_cons
    rw [hchars]
    exact toOption_readText_of_startsOther hc _
  | text hquoted =>
    rw [hquoted.readText_append]
    rfl
  | list hlist => cases hlist <;> exact toOption_readText_of_startsOther (by decide) _
  | object hobject => cases hobject <;> exact toOption_readText_of_startsOther (by decide) _

end ImportMaps.Json
