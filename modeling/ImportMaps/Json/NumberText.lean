import ImportMaps.Decimal.Shortest
import ImportMaps.Json.Fault

/-!
# ImportMaps — numbers in JSON

A number is read in two steps. `readNumber` splits its text into whole part,
fraction and exponent; this is all that is needed to pass over a number.
`NumberText.value?` then gives it a value.

Whole numbers that fit into 64 bits keep their value. All others become doubles:
the digits are gathered into a 64-bit significand for as long as they fit, the
digits of the whole part that do not fit scale it up, those of the fraction are
dropped, and the significand is scaled once by the power of ten that remains
(`Binary.scale?`). A number too large for a double has no value.

No number is wanted anywhere; its value only shows in the message that says so.
-/

namespace ImportMaps.Json

open Decimal

/-! ## The text of a number -/

/-- The digits of a number, without its sign. -/
structure NumberText where
  whole : List Char
  /-- The digits after the point; none when there is no point. -/
  fraction : List Char
  /-- Whether the exponent is negative, and its digits. -/
  exponent : Option (Bool × List Char)
  deriving DecidableEq, Repr

/-- The digits at the front of a text and what comes after them. -/
def spanDigits (cs : List Char) : List Char × List Char :=
  (cs.takeWhile Char.isDigit, cs.dropWhile Char.isDigit)

/-- The whole part: a zero on its own, or digits that do not start with one. -/
def readWhole (atEnd : Cause) (cs : List Char) : Except Fault (List Char × List Char) :=
  match cs with
  | [] => .error (.here [] atEnd)
  | c :: rest =>
    if c = '0' then
      if (rest.head?.map Char.isDigit).getD false then .error (.next rest .invalidNumber)
      else .ok (['0'], rest)
    else if c.isDigit then
      .ok (c :: (spanDigits rest).1, (spanDigits rest).2)
    else
      .error (.next cs .invalidNumber)

/-- The fraction after the whole part, when there is a point. A point without
digits is refused; `atEnd` is the cause when the text ends there. -/
def readFraction (atEnd : Cause) (cs : List Char) : Except Fault (List Char × List Char) :=
  match cs with
  | '.' :: rest =>
    match spanDigits rest with
    | ([], []) => .error (.here [] atEnd)
    | ([], rest) => .error (.next rest .invalidNumber)
    | (digits, rest) => .ok (digits, rest)
  | cs => .ok ([], cs)

/-- Takes a sign off the front of a text; true for a minus. -/
def readSign (cs : List Char) : Bool × List Char :=
  match cs with
  | '-' :: rest => (true, rest)
  | '+' :: rest => (false, rest)
  | cs => (false, cs)

/-- The digits of an exponent, at least one. -/
def readExponentDigits (atEnd : Cause) (cs : List Char) :
    Except Fault (List Char × List Char) :=
  match cs with
  | [] => .error (.here [] atEnd)
  | c :: rest =>
    if c.isDigit then .ok (c :: (spanDigits rest).1, (spanDigits rest).2)
    else .error (.next cs .invalidNumber)

/-- The exponent after the fraction, when there is one. -/
def readExponent (atEnd : Cause) (cs : List Char) :
    Except Fault (Option (Bool × List Char) × List Char) :=
  match cs with
  | [] => .ok (none, [])
  | c :: rest =>
    if c = 'e' || c = 'E' then
      match readExponentDigits atEnd (readSign rest).2 with
      | .error f => .error f
      | .ok (digits, rest') => .ok (some ((readSign rest).1, digits), rest')
    else
      .ok (none, cs)

/-- A number without its sign. `atEnd` is the cause when the text ends where a
digit must follow. -/
def readNumber (atEnd : Cause) (cs : List Char) : Except Fault (NumberText × List Char) :=
  match readWhole atEnd cs with
  | .error f => .error f
  | .ok (whole, cs) =>
    match readFraction atEnd cs with
    | .error f => .error f
    | .ok (fraction, cs) =>
      match readExponent atEnd cs with
      | .error f => .error f
      | .ok (exponent, cs) => .ok (⟨whole, fraction, exponent⟩, cs)

/-! ## A number leaves less text -/

theorem length_spanDigits_le (cs : List Char) : (spanDigits cs).2.length ≤ cs.length :=
  (List.dropWhile_sublist Char.isDigit).length_le

theorem length_of_readWhole {atEnd : Cause} {cs digits rest : List Char}
    (h : readWhole atEnd cs = .ok (digits, rest)) : rest.length < cs.length := by
  unfold readWhole at h
  split at h
  · simp at h
  · next c cs' =>
    have := length_spanDigits_le cs'
    split at h
    · split at h
      · simp at h
      · simp only [Except.ok.injEq, Prod.mk.injEq] at h
        simp [← h.2]
    · split at h
      · simp only [Except.ok.injEq, Prod.mk.injEq] at h
        simp only [← h.2, List.length_cons]
        omega
      · simp at h

theorem length_of_readFraction {atEnd : Cause} {cs digits rest : List Char}
    (h : readFraction atEnd cs = .ok (digits, rest)) : rest.length ≤ cs.length := by
  unfold readFraction at h
  split at h
  · next cs' =>
    have hspan := length_spanDigits_le cs'
    split at h
    · simp at h
    · simp at h
    · next hs =>
      simp only [Except.ok.injEq, Prod.mk.injEq] at h
      rw [hs] at hspan
      simp only [← h.2, List.length_cons]
      exact Nat.le_succ_of_le hspan
  · simp only [Except.ok.injEq, Prod.mk.injEq] at h
    simp [← h.2]

theorem length_readSign_le (cs : List Char) : (readSign cs).2.length ≤ cs.length := by
  unfold readSign
  split <;> simp

theorem length_of_readExponentDigits {atEnd : Cause} {cs digits rest : List Char}
    (h : readExponentDigits atEnd cs = .ok (digits, rest)) : rest.length ≤ cs.length := by
  unfold readExponentDigits at h
  split at h
  · simp at h
  · next c cs' =>
    have := length_spanDigits_le cs'
    split at h
    · simp only [Except.ok.injEq, Prod.mk.injEq] at h
      simp only [← h.2, List.length_cons]
      omega
    · simp at h

theorem length_of_readExponent {atEnd : Cause} {cs rest : List Char}
    {e : Option (Bool × List Char)} (h : readExponent atEnd cs = .ok (e, rest)) :
    rest.length ≤ cs.length := by
  unfold readExponent at h
  split at h
  · simp only [Except.ok.injEq, Prod.mk.injEq] at h
    simp [← h.2]
  · next c cs' =>
    have := length_readSign_le cs'
    split at h
    · split at h
      · simp at h
      · next hd =>
        have := length_of_readExponentDigits hd
        simp only [Except.ok.injEq, Prod.mk.injEq] at h
        simp only [← h.2, List.length_cons]
        omega
    · simp only [Except.ok.injEq, Prod.mk.injEq] at h
      simp [← h.2]

theorem length_of_readNumber {atEnd : Cause} {cs rest : List Char} {n : NumberText}
    (h : readNumber atEnd cs = .ok (n, rest)) : rest.length < cs.length := by
  unfold readNumber at h
  split at h
  · simp at h
  · next hw =>
    split at h
    · simp at h
    · next hf =>
      split at h
      · simp at h
      · next he =>
        simp only [Except.ok.injEq, Prod.mk.injEq] at h
        have := length_of_readWhole hw
        have := length_of_readFraction hf
        have := length_of_readExponent he
        rw [← h.2]
        omega

/-! ## The value of a number -/

/-- The value of a number as a message shows it. -/
inductive Number where
  | integer (value : Int)
  | float (negative : Bool) (magnitude : Binary)
  deriving DecidableEq, Repr

/-- Adds digits to a number for as long as it stays within the limit; returns it
with the digits that are left over. -/
def gather (limit n : Nat) : List Char → Nat × List Char
  | [] => (n, [])
  | d :: digits =>
    let next := n * 10 + (d.toNat - 48)
    if next ≤ limit then gather limit next digits else (n, d :: digits)

/-- The greatest significand that is gathered exactly. -/
def significandLimit : Nat := twoTo 64 - 1

/-- The greatest exponent that is gathered. -/
def exponentLimit : Nat := twoTo 31 - 1

namespace NumberText

/-- The whole number without fraction and exponent that a text gives, if it
fits into 64 bits, with its sign. There is no negative zero among these. -/
def integer? (negative : Bool) (t : NumberText) : Option Int :=
  let (n, surplus) := gather significandLimit 0 t.whole
  if t.fraction.isEmpty && t.exponent.isNone && surplus.isEmpty then
    -- A minus zero and what lies below the range of signed words are doubles.
    if negative then
      if n = 0 || twoTo 63 < n then none else some (-(n : Int))
    else
      some n
  else
    none

/-- The significand and the power of ten of a text without its exponent. -/
def scaled (t : NumberText) : Nat × Int :=
  let (n, surplus) := gather significandLimit 0 t.whole
  let (n, dropped) := gather significandLimit n t.fraction
  (n, (surplus.length : Int) - ((t.fraction.length - dropped.length : Nat) : Int))

/-- The double of a text. -/
def float? (t : NumberText) : Option Binary :=
  let (n, power) := t.scaled
  match t.exponent with
  | none => do (← Binary.ofRatio? n 1).scale? power
  | some (negative, digits) =>
    let (e, surplus) := gather exponentLimit 0 digits
    -- An exponent too long to gather makes every number but zero too large or nothing.
    if surplus.isEmpty then do
      (← Binary.ofRatio? n 1).scale? (if negative then power - e else power + e)
    else if n = 0 || negative then
      some .zero
    else
      none

/-- The value of a text with its sign; none when it is out of range. -/
def value? (negative : Bool) (t : NumberText) : Option Number :=
  match t.integer? negative with
  | some value => some (.integer value)
  | none => t.float?.map (.float negative)

/-- The digits of an exponent that stay unread when it is out of range already. -/
def unread (t : NumberText) : List Char :=
  match t.exponent with
  | none => []
  | some (_, digits) => (gather exponentLimit 0 digits).2.drop 1

end NumberText

/-- A number as a thing found. -/
def Number.found : Number → Found
  | integer value => .integer (toString value)
  | float negative magnitude =>
    .float (String.ofList (if negative then '-' :: magnitude.text else magnitude.text))

/-- A number with its value. -/
def readValuedNumber (negative : Bool) (cs : List Char) : Except Fault (Number × List Char) :=
  match readNumber .endInValue cs with
  | .error f => .error f
  | .ok (t, rest) =>
    match t.value? negative with
    | some n => .ok (n, rest)
    | none => .error (.here (t.unread ++ rest) .numberOutOfRange)

end ImportMaps.Json
