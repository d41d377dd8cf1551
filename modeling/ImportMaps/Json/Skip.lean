import ImportMaps.Json.Reader

/-!
# ImportMaps — passing over a JSON value

The value of a member that nobody asked for must still be well formed. `skipValue`
goes through it, keeping only the brackets that are open. There is no limit to
how deep they are nested.
-/

namespace ImportMaps.Json

open Text

inductive Bracket where
  | list
  | object
  deriving DecidableEq, Repr

namespace Bracket

def closing : Bracket → Char
  | list => ']'
  | object => '}'

/-- The cause when the text ends inside it. -/
def endCause : Bracket → Cause
  | list => .endInList
  | object => .endInObject

/-- The cause when neither a comma nor its end follows a value. -/
def commaCause : Bracket → Cause
  | list => .listCommaOrEndExpected
  | object => .objectCommaOrEndExpected

end Bracket

/-- What is due while values are passed over. -/
inductive Due where
  /-- A value. -/
  | value
  /-- The end of the innermost bracket or its first value. -/
  | first
  /-- The end of the innermost bracket or a comma. -/
  | more
  deriving DecidableEq, Repr

/-- Passes over a number, a fixed word or a text. -/
def skipScalar (cs : List Char) : Except Fault (List Char) :=
  match cs with
  | [] => .error (.next [] .endInValue)
  | c :: rest =>
    if c = 'n' then readWord nullTail rest
    else if c = 't' then readWord trueTail rest
    else if c = 'f' then readWord falseTail rest
    else if c = '-' then (readNumber .invalidNumber rest).map Prod.snd
    else if c.isDigit then (readNumber .invalidNumber cs).map Prod.snd
    else if c = '"' then skipString rest
    else .error (.next cs .valueExpected)

/-- Passes over a member's name and the colon after it; in a list there is
nothing to pass over. -/
def skipKey (b : Bracket) (cs : List Char) : Except Fault (List Char) :=
  match b with
  | .list => .ok cs
  | .object =>
    match skipBlanks cs with
    | [] => .error (.next [] .endInObject)
    | c :: rest =>
      if c = '"' then
        match skipString rest with
        | .error f => .error f
        | .ok rest => readColon rest
      else
        .error (.next (c :: rest) .keyNotString)

theorem length_of_map_snd {α : Type} {x : Except Fault (α × List Char)} {rest : List Char}
    (h : x.map Prod.snd = .ok rest) : ∃ a, x = .ok (a, rest) := by
  cases x with
  | error f => simp [Except.map] at h
  | ok p =>
    simp only [Except.map, Except.ok.injEq] at h
    exact ⟨p.1, by rw [← h]⟩

theorem length_of_skipScalar {cs rest : List Char} (h : skipScalar cs = .ok rest) :
    rest.length < cs.length := by
  unfold skipScalar at h
  split at h
  · simp at h
  · next c cs' =>
    rw [List.length_cons]
    -- three words, a number with or without its sign, and a text
    split at h
    · have := length_of_readWord h
      omega
    · split at h
      · have := length_of_readWord h
        omega
      · split at h
        · have := length_of_readWord h
          omega
        · split at h
          · obtain ⟨n, hn⟩ := length_of_map_snd h
            have := length_of_readNumber hn
            omega
          · split at h
            · obtain ⟨n, hn⟩ := length_of_map_snd h
              have := length_of_readNumber hn
              simpa using this
            · split at h
              · have := length_of_skipString h
                omega
              · simp at h

theorem length_of_skipKey {b : Bracket} {cs rest : List Char} (h : skipKey b cs = .ok rest) :
    rest.length ≤ cs.length := by
  have hblank := length_skipBlanks_le cs
  unfold skipKey at h
  split at h
  · simp only [Except.ok.injEq] at h
    simp [h]
  · split at h
    · simp at h
    · next heq =>
      rw [heq, List.length_cons] at hblank
      split at h
      · split at h
        · simp at h
        · next hs =>
          have := length_of_skipString hs
          have := length_of_readColon h
          omega
      · simp at h

/-- A place where a bracket may close counts for one more than one where a value
is due: the step to the first value of a list takes no character. -/
def Due.weight : Due → Nat
  | .value => 0
  | .first => 1
  | .more => 1

/-- Passes over what is due inside the open brackets, the innermost first. -/
def skipFrom (due : Due) (openBrackets : List Bracket) (cs : List Char) :
    Except Fault (List Char) :=
  match due, openBrackets with
  -- A value opens a bracket or is over at once.
  | .value, openBrackets =>
    match hblank : skipBlanks cs with
    | [] => .error (.next [] .endInValue)
    | c :: rest =>
      have := length_of_skipBlanks hblank
      if c = '[' then skipFrom .first (.list :: openBrackets) rest
      else if c = '{' then skipFrom .first (.object :: openBrackets) rest
      else
        match hscalar : skipScalar (c :: rest) with
        | .error f => .error f
        | .ok rest' =>
          have := length_of_skipScalar hscalar
          skipFrom .more openBrackets rest'
  -- No bracket is open any more: the value is complete.
  | _, [] => .ok cs
  -- Inside a bracket: its end, or a further value.
  | due, b :: outer =>
    match hblank : skipBlanks cs with
    | [] => .error (.next [] b.endCause)
    | c :: rest =>
      have := length_of_skipBlanks hblank
      if c = b.closing then
        skipFrom .more outer rest
      else if due = .first then
        match hkey : skipKey b (c :: rest) with
        | .error f => .error f
        | .ok rest' =>
          have := length_of_skipKey hkey
          skipFrom .value (b :: outer) rest'
      else if c = ',' then
        match hkey : skipKey b rest with
        | .error f => .error f
        | .ok rest' =>
          have := length_of_skipKey hkey
          skipFrom .value (b :: outer) rest'
      else
        .error (.next (c :: rest) b.commaCause)
  termination_by 2 * cs.length + due.weight
  decreasing_by all_goals (simp_all +arith only [Due.weight, List.length_cons]; omega)

theorem length_of_skipFrom {due : Due} {openBrackets : List Bracket} {cs rest : List Char}
    (h : skipFrom due openBrackets cs = .ok rest) :
    rest.length ≤ cs.length ∧ (due = .value → rest.length < cs.length) := by
  fun_induction skipFrom due openBrackets cs with
  | case1 | case4 | case7 | case9 | case11 | case13 => simp at h
  | case2 | case3 | case5 | case6 | case8 | case10 | case12 => grind

def skipValue (cs : List Char) : Except Fault (List Char) :=
  skipFrom .value [] cs

theorem length_of_skipValue {cs rest : List Char} (h : skipValue cs = .ok rest) :
    rest.length < cs.length :=
  (length_of_skipFrom h).2 rfl

end ImportMaps.Json
