import ImportMaps.Json.Fault

/-!
# ImportMaps — quoted texts in JSON

Both readers here start after the opening quote and return the text after the
closing one.

* `readString` decodes: short escapes, code points given by their number, and
  pairs of surrogates, which must be complete.
* `skipString` only looks for the end. It checks that escapes are well formed,
  but does not pair surrogates.

They also differ in where a control character is reported: the first one right
after it, the second one right before it.

What is left is always shorter than what was there (`length_of_readString`,
`length_of_skipString`), which is why the readers of whole values end.
-/

namespace ImportMaps.Json

open Text

/-! ## Escapes -/

/-- The value of a hexadecimal digit, in either case. -/
def hexValue? (c : Char) : Option Nat :=
  if '0' ≤ c && c ≤ '9' then some (c.toNat - 48)
  else if 'a' ≤ c && c ≤ 'f' then some (c.toNat - 87)
  else if 'A' ≤ c && c ≤ 'F' then some (c.toNat - 55)
  else none

/-- The fault of an escape without four hexadecimal digits: four bytes are
consumed all the same, when there are four. -/
def unitFault (cs : List Char) : Fault :=
  if byteLength cs < 4 then ⟨.endInString, 0⟩ else ⟨.invalidEscape, byteLength cs - 4⟩

/-- The number that four hexadecimal digits give. -/
def readUnit (cs : List Char) : Except Fault (Nat × List Char) :=
  match cs with
  | a :: b :: c :: d :: rest =>
    match hexValue? a, hexValue? b, hexValue? c, hexValue? d with
    | some a, some b, some c, some d => .ok (((a * 16 + b) * 16 + c) * 16 + d, rest)
    | _, _, _, _ => .error (unitFault cs)
  | _ => .error (unitFault cs)

/-- The first half of a surrogate pair. -/
def isLeading (unit : Nat) : Bool := 0xD800 ≤ unit && unit ≤ 0xDBFF

/-- The second half of a surrogate pair. -/
def isTrailing (unit : Nat) : Bool := 0xDC00 ≤ unit && unit ≤ 0xDFFF

/-- The character of a surrogate pair. -/
def pairChar (leading trailing : Nat) : Char :=
  Char.ofNat (0x10000 + (leading - 0xD800) * 0x400 + (trailing - 0xDC00))

/-- The second half that must follow a first one. -/
def readTrailing (leading : Nat) (cs : List Char) : Except Fault (Char × List Char) :=
  match cs with
  | [] => .error (.here [] .endInString)
  | '\\' :: [] => .error (.here [] .endInString)
  | '\\' :: c :: rest =>
    if c = 'u' then
      match readUnit rest with
      | .error f => .error f
      | .ok (trailing, rest) =>
        if isTrailing trailing then .ok (pairChar leading trailing, rest)
        else .error (.here rest .loneSurrogate)
    else
      .error (.next (c :: rest) .hexEscapeEnded)
  | cs => .error (.next cs .hexEscapeEnded)

/-- A character given by its number, after the letter that announces it. -/
def readCodePoint (cs : List Char) : Except Fault (Char × List Char) :=
  match readUnit cs with
  | .error f => .error f
  | .ok (unit, rest) =>
    if isTrailing unit then .error (.here rest .loneSurrogate)
    else if isLeading unit then readTrailing unit rest
    else .ok (Char.ofNat unit, rest)

/-- The character that a letter after a backslash stands for. -/
def shortEscape? (c : Char) : Option Char :=
  if c = '"' then some '"'
  else if c = '\\' then some '\\'
  else if c = '/' then some '/'
  else if c = 'b' then some '\x08'
  else if c = 'f' then some '\x0c'
  else if c = 'n' then some '\n'
  else if c = 'r' then some '\r'
  else if c = 't' then some '\t'
  else none

/-- The character that an escape stands for, after its backslash. -/
def readEscape (cs : List Char) : Except Fault (Char × List Char) :=
  match cs with
  | [] => .error (.here [] .endInString)
  | c :: rest =>
    if c = 'u' then
      readCodePoint rest
    else
      match shortEscape? c with
      | some x => .ok (x, rest)
      | none => .error (.next cs .invalidEscape)

/-- Passes over an escape, after its backslash. -/
def skipEscape (cs : List Char) : Except Fault (List Char) :=
  match cs with
  | [] => .error (.here [] .endInString)
  | c :: rest =>
    if c = 'u' then
      match readUnit rest with
      | .error f => .error f
      | .ok (_, rest) => .ok rest
    else if (shortEscape? c).isSome then
      .ok rest
    else
      .error (.next cs .invalidEscape)

/-! ## Escapes leave less text -/

theorem length_of_readUnit {cs rest : List Char} {n : Nat} (h : readUnit cs = .ok (n, rest)) :
    rest.length < cs.length := by
  unfold readUnit at h
  split at h
  · split at h
    · simp only [Except.ok.injEq, Prod.mk.injEq] at h
      simp only [← h.2, List.length_cons]
      omega
    · simp at h
  · simp at h

theorem length_of_readTrailing {cs rest : List Char} {n : Nat} {c : Char}
    (h : readTrailing n cs = .ok (c, rest)) : rest.length < cs.length := by
  unfold readTrailing at h
  split at h
  · simp at h
  · simp at h
  · split at h
    · split at h
      · simp at h
      · next hu =>
        have := length_of_readUnit hu
        split at h
        · simp only [Except.ok.injEq, Prod.mk.injEq] at h
          simp only [← h.2, List.length_cons]
          omega
        · simp at h
    · simp at h
  · simp at h

theorem length_of_readCodePoint {cs rest : List Char} {c : Char}
    (h : readCodePoint cs = .ok (c, rest)) : rest.length < cs.length := by
  unfold readCodePoint at h
  split at h
  · simp at h
  · next hu =>
    have hunit := length_of_readUnit hu
    split at h
    · simp at h
    · split at h
      · have := length_of_readTrailing h
        omega
      · simp only [Except.ok.injEq, Prod.mk.injEq] at h
        rw [← h.2]
        exact hunit

theorem length_of_readEscape {cs rest : List Char} {c : Char}
    (h : readEscape cs = .ok (c, rest)) : rest.length < cs.length := by
  unfold readEscape at h
  split at h
  · simp at h
  · split at h
    · have := length_of_readCodePoint h
      simp only [List.length_cons]
      omega
    · split at h
      · simp only [Except.ok.injEq, Prod.mk.injEq] at h
        simp [← h.2]
      · simp at h

theorem length_of_skipEscape {cs rest : List Char} (h : skipEscape cs = .ok rest) :
    rest.length < cs.length := by
  unfold skipEscape at h
  split at h
  · simp at h
  · split at h
    · split at h
      · simp at h
      · next hu =>
        have := length_of_readUnit hu
        simp only [Except.ok.injEq] at h
        simp only [← h, List.length_cons]
        omega
    · split at h
      · simp only [Except.ok.injEq] at h
        simp [← h]
      · simp at h

/-! ## Texts -/

/-- Whether a character may not stand unescaped in a quoted text. -/
def isControl (c : Char) : Bool := c.toNat < 0x20

/-- The characters up to the closing quote, after those already read, which are
kept last first. -/
def readStringFrom (done : List Char) (cs : List Char) : Except Fault (String × List Char) :=
  match cs with
  | [] => .error (.here [] .endInString)
  | c :: rest =>
    if c = '"' then
      .ok (String.ofList done.reverse, rest)
    else if c = '\\' then
      match h : readEscape rest with
      | .error f => .error f
      | .ok (x, rest') =>
        have := length_of_readEscape h
        readStringFrom (x :: done) rest'
    else if isControl c then
      .error (.here rest .controlCharacter)
    else
      readStringFrom (c :: done) rest
  termination_by cs.length

/-- A quoted text, after its opening quote. -/
def readString (cs : List Char) : Except Fault (String × List Char) :=
  readStringFrom [] cs

/-- Passes over a quoted text, after its opening quote. -/
def skipString (cs : List Char) : Except Fault (List Char) :=
  match cs with
  | [] => .error (.here [] .endInString)
  | c :: rest =>
    if c = '"' then
      .ok rest
    else if c = '\\' then
      match h : skipEscape rest with
      | .error f => .error f
      | .ok rest' =>
        have := length_of_skipEscape h
        skipString rest'
    else if isControl c then
      .error (.here cs .controlCharacter)
    else
      skipString rest
  termination_by cs.length

theorem length_of_readStringFrom {done cs rest : List Char} {s : String}
    (h : readStringFrom done cs = .ok (s, rest)) : rest.length < cs.length := by
  fun_induction readStringFrom done cs with
  | case1 => simp at h
  | case2 done cs' =>
    simp only [Except.ok.injEq, Prod.mk.injEq] at h
    simp [← h.2]
  | case3 => simp at h
  | case4 done cs' _ x rest' hesc this ih =>
    have := ih h
    simp only [List.length_cons]
    omega
  | case5 => simp at h
  | case6 done c cs' _ _ _ ih =>
    have := ih h
    simp only [List.length_cons]
    omega

theorem length_of_readString {cs rest : List Char} {s : String}
    (h : readString cs = .ok (s, rest)) : rest.length < cs.length :=
  length_of_readStringFrom h

theorem length_of_skipString {cs rest : List Char} (h : skipString cs = .ok rest) :
    rest.length < cs.length := by
  fun_induction skipString cs with
  | case1 => simp at h
  | case2 =>
    simp only [Except.ok.injEq] at h
    simp [← h]
  | case3 => simp at h
  | case4 cs' _ rest' hesc this ih =>
    have := ih h
    simp only [List.length_cons]
    omega
  | case5 => simp at h
  | case6 c cs' _ _ _ ih =>
    have := ih h
    simp only [List.length_cons]
    omega

end ImportMaps.Json
