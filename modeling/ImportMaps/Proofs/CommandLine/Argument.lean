import ImportMaps.CommandLine.Switch
import Mathlib.Data.List.TakeWhile

/-!
# ImportMaps — how arguments look

An argument is looked at character by character: two dashes alone end all switches, two
dashes in front of something begin a switch's name, one dash in front of something else
begins a cluster of letters, and all other texts are plain. `Looks` says this as a relation,
and its cases exclude each other (`Looks.unique`).

A switch's name has no equals sign in it, so the name and a value behind it come apart at
the first one. No two switches share a name or a letter, so a switch is found by either.

Main results:

* `ofString_eq_iff` — the look of an argument is what the reader goes by.
* `Looks.eq_of_long` — an argument with a switch's name in it is written for that switch,
  with a value behind an equals sign or without one.
-/

namespace ImportMaps.CommandLine

/-! ## The looks of an argument -/

/-- A text that is no switch: a dash alone, or one that does not begin with a dash. -/
def IsPlain (text : String) : Prop :=
  text = "-" ∨ text.toList.head? ≠ some '-'

theorem splitValue_of_notMem {name : List Char} (h : '=' ∉ name) :
    splitValue name = (name, none) := by
  have hrest : name.dropWhile (· != '=') = [] := by
    rw [List.dropWhile_eq_nil_iff]
    intro c hc
    exact bne_iff_ne.2 fun heq => h (heq ▸ hc)
  rw [splitValue, hrest]

theorem splitValue_append {name : List Char} (h : '=' ∉ name) (value : List Char) :
    splitValue (name ++ '=' :: value) = (name, some value) := by
  have hname : ∀ c ∈ name, (c != '=') = true := by
    intro c hc
    exact bne_iff_ne.2 fun heq => h (heq ▸ hc)
  rw [splitValue, List.dropWhile_append_of_pos hname, List.takeWhile_append_of_pos hname]
  simp

/-- A text is put together again from its two sides. -/
theorem eq_of_splitValue (cs : List Char) :
    (splitValue cs).2 = none ∧ (splitValue cs).1 = cs ∨
      ∃ value, (splitValue cs).2 = some value ∧ cs = (splitValue cs).1 ++ '=' :: value := by
  have hcut := List.takeWhile_append_dropWhile (p := (· != '=')) (l := cs)
  cases hrest : cs.dropWhile (· != '=') with
  | nil => exact .inl (by simp [splitValue, hrest])
  | cons c value =>
    have hmark : c = '=' := by
      simpa [hrest] using List.head?_dropWhile_not (· != '=') cs
    refine .inr ⟨value, by simp [splitValue, hrest], ?_⟩
    rw [hrest, hmark] at hcut
    simp [splitValue, hrest, hcut]

/-- How a text looks as an argument, by its first characters. -/
inductive Looks : String → Argument → Prop where
  | endOfSwitches : Looks "--" .endOfSwitches
  | long {text : String} {cs : List Char} (htext : text.toList = '-' :: '-' :: cs)
      (hcs : cs ≠ []) : Looks text (.long (splitValue cs).1 (splitValue cs).2)
  | short {text : String} {c : Char} {cs : List Char} (htext : text.toList = '-' :: c :: cs)
      (hc : c ≠ '-') : Looks text (.short (c :: cs))
  | plain {text : String} (hplain : IsPlain text) : Looks text (.plain text)

theorem looks_ofString (text : String) : Looks text (Argument.ofString text) := by
  unfold Argument.ofString
  split
  · next h =>
    obtain rfl : text = "--" := String.toList_inj.1 h
    exact .endOfSwitches
  · next cs hend h =>
    refine .long h ?_
    rintro rfl
    exact hend rfl
  · next h => exact .plain (.inl (String.toList_inj.1 h))
  · next letters hend hlong hdash h =>
    cases letters with
    | nil => exact absurd rfl hdash
    | cons c cs =>
      refine .short h ?_
      rintro rfl
      exact hlong cs rfl
  · next hend hlong hdash hshort =>
    refine .plain (.inr fun hhead => ?_)
    obtain ⟨cs, hcs⟩ := List.head?_eq_some_iff.1 hhead
    exact hshort cs hcs

/-- A plain text has neither a switch's name nor letters. -/
theorem IsPlain.toList_ne {text : String} (h : IsPlain text) (c : Char) (cs : List Char) :
    text.toList ≠ '-' :: c :: cs := by
  intro htext
  rcases h with rfl | hhead
  · cases htext
  · rw [htext] at hhead
    exact hhead rfl

/-- What a text looks like is what the reader takes it for. -/
theorem Looks.ofString_eq {text : String} {arg : Argument} (h : Looks text arg) :
    Argument.ofString text = arg := by
  unfold Argument.ofString
  cases h with
  | endOfSwitches => rfl
  | @long _ cs htext hcs =>
    rw [htext]
    cases cs with
    | nil => exact absurd rfl hcs
    | cons c cs => rfl
  | @short _ c cs htext hc =>
    rw [htext]
    split
    · next h => exact absurd (List.cons.inj (List.cons.inj h).2).1 hc
    · next h => exact absurd (List.cons.inj (List.cons.inj h).2).1 hc
    · next h => cases h
    · next h => rw [(List.cons.inj h).2]
    · next h => exact absurd rfl (h _)
  | plain hplain =>
    split
    · next h => exact absurd h (hplain.toList_ne _ _)
    · next h => exact absurd h (hplain.toList_ne _ _)
    · rfl
    · next letters _ _ hdash h =>
      cases letters with
      | nil => exact absurd rfl hdash
      | cons c cs => exact absurd h (hplain.toList_ne _ _)
    · rfl

/-- **The look of an argument** is what the reader goes by. -/
theorem ofString_eq_iff {text : String} {arg : Argument} :
    Argument.ofString text = arg ↔ Looks text arg := by
  constructor
  · rintro rfl
    exact looks_ofString text
  · exact Looks.ofString_eq

/-- No text looks in two ways. -/
theorem Looks.unique {text : String} {arg arg' : Argument} (h : Looks text arg)
    (h' : Looks text arg') : arg = arg' :=
  h.ofString_eq.symm.trans h'.ofString_eq

theorem canBeValue_iff {text : String} : canBeValue text = true ↔ IsPlain text := by
  rw [canBeValue]
  constructor
  · intro h
    cases hlook : Argument.ofString text with
    | plain _ => cases ofString_eq_iff.1 hlook with | plain hplain => exact hplain
    | _ => rw [hlook] at h; cases h
  · intro h
    rw [ofString_eq_iff.2 (.plain h)]

/-! ## Switches by their names -/

namespace Switch

theorem eq_of_name_eq {s s' : Switch} (h : s.name.toList = s'.name.toList) : s = s' := by
  revert h
  cases s <;> cases s' <;> decide

theorem eq_of_letter?_eq {s s' : Switch} {c : Char} (h : s.letter? = some c)
    (h' : s'.letter? = some c) : s = s' := by
  cases s <;> cases h <;> cases s' <;> first | rfl | exact absurd h' (by decide)

theorem name_ne_nil (s : Switch) : s.name.toList ≠ [] := by
  cases s <;> decide

theorem notMem_name (s : Switch) : '=' ∉ s.name.toList := by
  cases s <;> decide

theorem letter?_ne_dash (s : Switch) : s.letter? ≠ some '-' := by
  cases s <;> decide

variable {allowed : List Switch} {s : Switch}

/-- A switch is found by its name where it is allowed, as no other one has that name. -/
theorem find?_name_eq_some_iff {name : List Char} :
    allowed.find? (·.name.toList = name) = some s ↔ s ∈ allowed ∧ s.name.toList = name := by
  constructor
  · intro h
    exact ⟨List.mem_of_find?_eq_some h, by simpa using List.find?_some h⟩
  · rintro ⟨hs, rfl⟩
    cases hfound : allowed.find? (·.name.toList = s.name.toList) with
    | none =>
      have hnone := List.find?_eq_none.1 hfound s hs
      simp at hnone
    | some s' =>
      have hname : s'.name.toList = s.name.toList := by simpa using List.find?_some hfound
      rw [eq_of_name_eq hname]

theorem find?_letter_eq_some_iff {c : Char} :
    allowed.find? (·.letter? = some c) = some s ↔ s ∈ allowed ∧ s.letter? = some c := by
  constructor
  · intro h
    exact ⟨List.mem_of_find?_eq_some h, by simpa using List.find?_some h⟩
  · rintro ⟨hs, hletter⟩
    cases hfound : allowed.find? (·.letter? = some c) with
    | none =>
      have hnone := List.find?_eq_none.1 hfound s hs
      simp [hletter] at hnone
    | some s' =>
      have hletter' : s'.letter? = some c := by simpa using List.find?_some hfound
      rw [eq_of_letter?_eq hletter hletter']

end Switch

/-! ## Switches as they are written -/

theorem looks_flag (s : Switch) : Looks ("--" ++ s.name) (.long s.name.toList none) := by
  have htext : ("--" ++ s.name).toList = '-' :: '-' :: s.name.toList := String.toList_append
  have hlook := Looks.long htext s.name_ne_nil
  rwa [splitValue_of_notMem s.notMem_name] at hlook

theorem looks_joined (s : Switch) (value : String) :
    Looks ("--" ++ s.name ++ "=" ++ value) (.long s.name.toList (some value.toList)) := by
  have htext : ("--" ++ s.name ++ "=" ++ value).toList =
      '-' :: '-' :: (s.name.toList ++ '=' :: value.toList) := by
    simp [String.toList_append]
  have hlook := Looks.long htext (by simp)
  rwa [splitValue_append s.notMem_name] at hlook

/-- An argument that looks like a switch of this name is written for it, with a value or
without one. -/
theorem Looks.eq_of_long {arg : String} {s : Switch} {value : Option (List Char)}
    (h : Looks arg (.long s.name.toList value)) :
    value = none ∧ arg = "--" ++ s.name ∨
      ∃ text, value = some text ∧ arg = "--" ++ s.name ++ "=" ++ String.ofList text := by
  generalize hname : s.name.toList = name at h
  cases h with
  | @long _ cs htext _ =>
    rcases eq_of_splitValue cs with ⟨hnone, hall⟩ | ⟨text, hsome, hall⟩
    · refine .inl ⟨hnone, String.toList_inj.1 ?_⟩
      rw [htext, String.toList_append, hname, hall]
      rfl
    · refine .inr ⟨text, hsome, String.toList_inj.1 ?_⟩
      rw [htext, hall, ← hname]
      simp [String.toList_append]

end ImportMaps.CommandLine
