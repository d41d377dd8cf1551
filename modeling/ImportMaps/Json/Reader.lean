import ImportMaps.Json.NumberText
import ImportMaps.Json.StringText

/-!
# ImportMaps — reading JSON step by step

A reader of a record walks through the text once and refuses it at the first
thing that is wrong, be it the syntax or the contents. These are its steps:

* `readText` — a text where one is wanted.
* `nextKey`, `readColon` — the next member of an object, up to its value.
* `readMembers` — a whole object, member by member.
* `nextElement`, `endList` — the next element of a list, and its end.
* `wrongTypeFault` — the fault of a value of another type: the value is read as
  far as it takes to name what was found.
* `readDocument` — a whole text that holds one value.

A step returns the text that is left.
-/

namespace ImportMaps.Json

open Text

/-! ## Blanks and fixed words -/

/-- The text after the blanks at its front. -/
def skipBlanks (cs : List Char) : List Char :=
  cs.dropWhile isBlank

theorem length_skipBlanks_le (cs : List Char) : (skipBlanks cs).length ≤ cs.length :=
  (List.dropWhile_sublist isBlank).length_le

theorem length_of_skipBlanks {cs rest : List Char} {c : Char} (h : skipBlanks cs = c :: rest) :
    rest.length + 1 ≤ cs.length := by
  have := length_skipBlanks_le cs
  rwa [h, List.length_cons] at this

/-- The rest of a fixed word whose first letter has been read. -/
def readWord : List Char → List Char → Except Fault (List Char)
  | [], cs => .ok cs
  | _ :: _, [] => .error (.here [] .endInValue)
  | w :: ws, c :: cs => if c = w then readWord ws cs else .error (.next (c :: cs) .identExpected)

theorem length_of_readWord {w cs rest : List Char} (h : readWord w cs = .ok rest) :
    rest.length ≤ cs.length := by
  induction w generalizing cs with
  | nil =>
    simp only [readWord, Except.ok.injEq] at h
    simp [h]
  | cons x w ih =>
    cases cs with
    | nil => simp [readWord] at h
    | cons c cs =>
      rw [readWord] at h
      split at h
      · have := ih h
        simp only [List.length_cons]
        omega
      · simp at h

/-- What follows the first letter of `null`. -/
def nullTail : List Char := ['u', 'l', 'l']

/-- What follows the first letter of `true`. -/
def trueTail : List Char := ['r', 'u', 'e']

/-- What follows the first letter of `false`. -/
def falseTail : List Char := ['a', 'l', 's', 'e']

/-! ## Values of the wrong type -/

/-- Reads what stands at the front of a text far enough to name it. Lists and
objects are not entered. -/
def readFound (cs : List Char) : Except Fault (Found × List Char) :=
  match cs with
  | [] => .error (.next [] .valueExpected)
  | c :: rest =>
    if c = 'n' then (readWord nullTail rest).map (Found.null, ·)
    else if c = 't' then (readWord trueTail rest).map (Found.boolean true, ·)
    else if c = 'f' then (readWord falseTail rest).map (Found.boolean false, ·)
    else if c = '-' then (readValuedNumber true rest).map fun (n, rest) => (n.found, rest)
    else if c.isDigit then (readValuedNumber false cs).map fun (n, rest) => (n.found, rest)
    else if c = '"' then (readString rest).map fun (s, rest) => (.text s, rest)
    else if c = '[' then .ok (.list, cs)
    else if c = '{' then .ok (.object, cs)
    else .error (.next cs .valueExpected)

/-- The fault of a value that is not of the wanted type. -/
def wrongTypeFault (wanted : Wanted) (cs : List Char) : Fault :=
  match readFound cs with
  | .error f => f
  | .ok (found, rest) => .here rest (.wrongType found wanted)

/-- A text where one is wanted. -/
def readText (cs : List Char) : Except Fault (String × List Char) :=
  match skipBlanks cs with
  | [] => .error (.next [] .endInValue)
  | c :: rest =>
    if c = '"' then readString rest else .error (wrongTypeFault .text (c :: rest))

theorem length_of_readText {cs rest : List Char} {s : String}
    (h : readText cs = .ok (s, rest)) : rest.length < cs.length := by
  have hblank := length_skipBlanks_le cs
  unfold readText at h
  split at h
  · simp at h
  · next heq =>
    split at h
    · have := length_of_readString h
      rw [heq, List.length_cons] at hblank
      omega
    · simp at h

/-! ## Objects -/

/-- What comes next in an object. -/
inductive KeyStep where
  /-- The object has ended; the text after it is left. -/
  | ended (rest : List Char)
  /-- A member with this name follows; the text after the name is left. -/
  | key (name : String) (rest : List Char)

/-- A member's name, at its opening quote. -/
def readKey (cs : List Char) : Except Fault KeyStep :=
  match cs with
  | [] => .error (.next [] .endInValue)
  | c :: rest =>
    if c = '"' then (readString rest).map fun (name, rest) => .key name rest
    else .error (.next cs .keyNotString)

/-- A member's name after a comma. -/
def readKeyAfterComma (cs : List Char) : Except Fault KeyStep :=
  match skipBlanks cs with
  | '}' :: rest => .error (.next ('}' :: rest) .trailingComma)
  | cs => readKey cs

/-- The end of an object or the name of its next member. The first member needs
no comma before it. -/
def nextKey (first : Bool) (cs : List Char) : Except Fault KeyStep :=
  match skipBlanks cs with
  | [] => .error (.next [] .endInObject)
  | c :: rest =>
    if c = '}' then .ok (.ended rest)
    else if first then readKey (c :: rest)
    else if c = ',' then readKeyAfterComma rest
    else .error (.next (c :: rest) .objectCommaOrEndExpected)

/-- The colon between a member's name and its value. -/
def readColon (cs : List Char) : Except Fault (List Char) :=
  match skipBlanks cs with
  | [] => .error (.next [] .endInObject)
  | c :: rest => if c = ':' then .ok rest else .error (.next (c :: rest) .colonExpected)

/-- The text after the closing brace, when this comes next but for blanks. A
fault of the contents of an object is placed there. -/
def afterClosing (cs : List Char) : List Char :=
  match skipBlanks cs with
  | '}' :: rest => rest
  | cs => cs

theorem length_of_readKey {cs rest : List Char} {name : String}
    (h : readKey cs = .ok (.key name rest)) : rest.length < cs.length := by
  unfold readKey at h
  split at h
  · simp at h
  · next c cs' =>
    split at h
    · cases hs : readString cs' with
      | error f => simp [hs, Except.map] at h
      | ok p =>
        obtain ⟨text, left⟩ := p
        simp only [hs, Except.map, Except.ok.injEq, KeyStep.key.injEq] at h
        have := length_of_readString hs
        simp only [← h.2, List.length_cons]
        omega
    · simp at h

theorem readKey_ne_ended {cs rest : List Char} : readKey cs ≠ .ok (.ended rest) := by
  intro h
  unfold readKey at h
  split at h
  · simp at h
  · next c cs' =>
    split at h
    · cases hs : readString cs' <;> simp [hs, Except.map] at h
    · simp at h

theorem readKeyAfterComma_ne_ended {cs rest : List Char} :
    readKeyAfterComma cs ≠ .ok (.ended rest) := by
  intro h
  unfold readKeyAfterComma at h
  split at h
  · simp at h
  · exact absurd h readKey_ne_ended

theorem length_of_readKeyAfterComma {cs rest : List Char} {name : String}
    (h : readKeyAfterComma cs = .ok (.key name rest)) : rest.length < cs.length := by
  have hblank := length_skipBlanks_le cs
  unfold readKeyAfterComma at h
  split at h
  · simp at h
  · have := length_of_readKey h
    omega

theorem length_of_nextKey {first : Bool} {cs rest : List Char} {name : String}
    (h : nextKey first cs = .ok (.key name rest)) : rest.length < cs.length := by
  have hblank := length_skipBlanks_le cs
  unfold nextKey at h
  split at h
  · simp at h
  · next heq =>
    rw [heq, List.length_cons] at hblank
    split at h
    · simp at h
    · split at h
      · have := length_of_readKey h
        simp only [List.length_cons] at this
        omega
      · split at h
        · have := length_of_readKeyAfterComma h
          omega
        · simp at h

theorem length_of_nextKey_ended {first : Bool} {cs rest : List Char}
    (h : nextKey first cs = .ok (.ended rest)) : rest.length < cs.length := by
  unfold nextKey at h
  split at h
  · simp at h
  · next heq =>
    split at h
    · simp only [Except.ok.injEq, KeyStep.ended.injEq] at h
      have := length_of_skipBlanks heq
      rw [← h]
      omega
    · split at h
      · exact absurd h readKey_ne_ended
      · split at h
        · exact absurd h readKeyAfterComma_ne_ended
        · simp at h

theorem length_of_readColon {cs rest : List Char} (h : readColon cs = .ok rest) :
    rest.length < cs.length := by
  have hblank := length_skipBlanks_le cs
  unfold readColon at h
  split at h
  · simp at h
  · next heq =>
    rw [heq, List.length_cons] at hblank
    split at h
    · simp only [Except.ok.injEq] at h
      rw [← h]
      omega
    · simp at h

/-! ## Objects member by member -/

/-- How the members of an object are read. A step takes what has been gathered so
far, the member's name and the text after it, up to the end of the value. -/
structure MemberReader (σ : Type) where
  read : σ → String → List Char → Except Fault (σ × List Char)
  length_le : ∀ {s s' : σ} {name : String} {cs rest : List Char},
    read s name cs = .ok (s', rest) → rest.length ≤ cs.length

/-- Reads an object from its next member on, and returns what has been gathered
at its end. -/
def readMembers {σ : Type} (m : MemberReader σ) (s : σ) (first : Bool) (cs : List Char) :
    Except Fault (σ × List Char) :=
  match hkey : nextKey first cs with
  | .error f => .error f
  | .ok (.ended rest) => .ok (s, rest)
  | .ok (.key name rest) =>
    match hread : m.read s name rest with
    | .error f => .error f
    | .ok (s', rest') =>
      have := length_of_nextKey hkey
      have := m.length_le hread
      readMembers m s' false rest'
  termination_by cs.length

section Members

variable {σ : Type} {m : MemberReader σ} {s s' : σ} {first : Bool} {name : String}
variable {cs rest rest' : List Char} {f : Fault}

theorem readMembers_of_fault (h : nextKey first cs = .error f) :
    readMembers m s first cs = .error f := by
  rw [readMembers]
  split <;> simp_all

theorem readMembers_of_ended (h : nextKey first cs = .ok (.ended rest)) :
    readMembers m s first cs = .ok (s, rest) := by
  rw [readMembers]
  split <;> simp_all

theorem readMembers_of_memberFault (h : nextKey first cs = .ok (.key name rest))
    (hread : m.read s name rest = .error f) : readMembers m s first cs = .error f := by
  rw [readMembers]
  split
  · simp_all
  · simp_all
  · next heq =>
    rw [h] at heq
    cases heq
    split <;> simp_all

theorem readMembers_of_member (h : nextKey first cs = .ok (.key name rest))
    (hread : m.read s name rest = .ok (s', rest')) :
    readMembers m s first cs = readMembers m s' false rest' := by
  rw [readMembers]
  split
  · simp_all
  · simp_all
  · next heq =>
    rw [h] at heq
    cases heq
    split <;> simp_all

theorem length_of_readMembers (h : readMembers m s first cs = .ok (s', rest)) :
    rest.length < cs.length := by
  fun_induction readMembers m s first cs with
  | case1 => simp at h
  | case2 s first cs after hkey =>
    simp only [Except.ok.injEq, Prod.mk.injEq] at h
    rw [← h.2]
    exact length_of_nextKey_ended hkey
  | case3 => simp at h
  | case4 s first cs name value hkey next after hread hk hr ih =>
    have := ih h
    omega

end Members

/-! ## Lists -/

/-- What comes next in a list. -/
inductive ElementStep where
  /-- The list has ended; the text after it is left. -/
  | ended (rest : List Char)
  /-- An element follows, at the front of the text that is left. -/
  | element (rest : List Char)

/-- The end of a list or its next element. The first element needs no comma
before it. -/
def nextElement (first : Bool) (cs : List Char) : Except Fault ElementStep :=
  match skipBlanks cs with
  | [] => .error (.next [] .endInList)
  | c :: rest =>
    if c = ']' then .ok (.ended rest)
    else if first then .ok (.element (c :: rest))
    else if c = ',' then
      match skipBlanks rest with
      | [] => .error (.next [] .endInValue)
      | c :: rest =>
        if c = ']' then .error (.next (c :: rest) .trailingComma)
        else .ok (.element (c :: rest))
    else .error (.next (c :: rest) .listCommaOrEndExpected)

/-- The end of a list that must have no further elements. -/
def endList (cs : List Char) : Except Fault (List Char) :=
  match skipBlanks cs with
  | [] => .error (.next [] .endInList)
  | c :: rest =>
    if c = ']' then .ok rest
    else if c = ',' then
      match skipBlanks rest with
      | ']' :: rest => .error (.next (']' :: rest) .trailingComma)
      | rest => .error (.next rest .trailingCharacters)
    else .error (.next (c :: rest) .trailingCharacters)

/-! ## Documents -/

/-- A value of a record type, which may be written as an object or as a list of
its fields. -/
def readRecord {α : Type} (name : String)
    (object list : List Char → Except Fault (α × List Char)) (cs : List Char) :
    Except Fault (α × List Char) :=
  match skipBlanks cs with
  | [] => .error (.next [] .endInValue)
  | c :: rest =>
    if c = '{' then object rest
    else if c = '[' then list rest
    else .error (wrongTypeFault (.record name) (c :: rest))

/-- A text that holds one value and nothing but blanks around it. -/
def readDocument {α : Type} (read : List Char → Except Fault (α × List Char))
    (text : List Char) : Except Error α :=
  match read text with
  | .error f => .error (f.locate text)
  | .ok (value, rest) =>
    match skipBlanks rest with
    | [] => .ok value
    | rest => .error ((Fault.next rest .trailingCharacters).locate text)

end ImportMaps.Json
