import ImportMaps.Proofs.Json.Text

/-!
# ImportMaps — objects are read back

JSON leaves open how an object is written: each text in it can be spelt in many ways,
and blanks may stand between any two tokens. `ObjectText` is the relation between the
members of an object and all the texts that stand for it; how a value may be written
is left to a relation of its own, which may be `ObjectText` again.

Blanks in front of a token change nothing for any reader (`readMembers_blanks`), so
the step is one member without them: what a reader of members gathers from it depends
only on the reader (`MemberText.readMembers_append`). A reader may also refuse a member,
for its name, its value or what came before; its step is then a partial function
(`MemberReader.GoesBy`). By induction on the text, a whole object folds the reader's
step over its members.

The printers write an object in two layouts, and a page wants its texts spelt in yet
another way. All of these are one text with parameters (`Spelling.object`): how a
character is spelt, and which blanks stand where (`Spacing`).

Main results:

* `ObjectText.exists_cons_toOption` — an object is read member by member, up to its
  closing brace, whatever comes after it, or refused with the first member that is not
  taken. `ObjectText.exists_cons` is the case of a reader that takes them all.
* `ObjectDocument.toOption_readDocument` — so is a whole text with an object in it.
* `Spelling.objectText`, `compactObject_eq`, `indentedObject_eq` — the layouts of the
  printers are texts of objects.
-/

namespace ImportMaps.Json

open Text

/-! ## The ways to write an object -/

section Grammar

variable {α : Type} (Writes : α → List Char → Prop)

/-- The ways to write a member: its name, a colon and its value, with blanks in front
of each of them. -/
inductive MemberText : String × α → List Char → Prop where
  | mk {name : String} {x : α} {q v : List Char} (before between gap : Run isBlank 0)
      (hname : IsQuoted name q) (hvalue : Writes x v) :
      MemberText (name, x)
        (before.chars ++ (q ++ (between.chars ++ ':' :: (gap.chars ++ v))))

/-- The ways to write the members that are left after one of them, up to the closing
brace. -/
inductive MembersText : List (String × α) → List Char → Prop where
  | closing (blanks : Run isBlank 0) : MembersText [] (blanks.chars ++ ['}'])
  | more {member : String × α} {members : List (String × α)} {item items : List Char}
      (blanks : Run isBlank 0) (hitem : MemberText Writes member item)
      (hitems : MembersText members items) :
      MembersText (member :: members) (blanks.chars ++ ',' :: (item ++ items))

/-- The ways to write an object. -/
inductive ObjectText : List (String × α) → List Char → Prop where
  | empty (blanks : Run isBlank 0) : ObjectText [] ('{' :: (blanks.chars ++ ['}']))
  | members {member : String × α} {members : List (String × α)} {item items : List Char}
      (hitem : MemberText Writes member item) (hitems : MembersText Writes members items) :
      ObjectText (member :: members) ('{' :: (item ++ items))

end Grammar

section Map

variable {α β : Type} {Writes : α → List Char → Prop} {Writes' : β → List Char → Prop}
variable {f : α → β} (hf : ∀ x cs, Writes x cs → Writes' (f x) cs)

include hf

/-- A value may be taken for another one that is written the same. -/
theorem MemberText.map {member : String × α} {item : List Char}
    (h : MemberText Writes member item) : MemberText Writes' (member.1, f member.2) item := by
  obtain ⟨before, between, gap, hname, hvalue⟩ := h
  exact .mk before between gap hname (hf _ _ hvalue)

theorem MembersText.map {members : List (String × α)} {cs : List Char}
    (h : MembersText Writes members cs) :
    MembersText Writes' (members.map fun member => (member.1, f member.2)) cs := by
  induction h with
  | closing blanks => exact .closing blanks
  | more blanks hitem hitems ih => exact .more blanks (hitem.map hf) ih

theorem ObjectText.map {members : List (String × α)} {cs : List Char}
    (h : ObjectText Writes members cs) :
    ObjectText Writes' (members.map fun member => (member.1, f member.2)) cs := by
  cases h with
  | empty blanks => exact .empty blanks
  | members hitem hitems => exact .members (hitem.map hf) (hitems.map hf)

end Map

/-! ## Layouts -/

/-- Where an object has blanks. -/
structure Spacing where
  /-- In front of every member. -/
  before : Run isBlank 0
  /-- After every colon. -/
  gap : Run isBlank 0
  /-- In front of the closing brace. -/
  after : Run isBlank 0

/-- No blanks at all. -/
def noBlanks : Run isBlank 0 :=
  .lit [] rfl

namespace Spelling

variable (w : Spelling) (sp : Spacing)

/-- A member: its name and its written value. -/
def member (member : String × List Char) : List Char :=
  sp.before.chars ++ w.quote member.1 ++ ':' :: (sp.gap.chars ++ member.2)

/-- An object after its opening brace. -/
def members (members : List (String × List Char)) : List Char :=
  commaSeparated (members.map (w.member sp)) ++ sp.after.chars ++ ['}']

/-- An object with its names spelt and its blanks placed in the given way. -/
def object (members : List (String × List Char)) : List Char :=
  '{' :: w.members sp members

end Spelling

theorem commaSeparated_cons (item : List Char) (items : List (List Char)) :
    commaSeparated (item :: items) = item ++ items.flatMap (',' :: ·) := by
  induction items generalizing item with
  | nil => simp [commaSeparated]
  | cons next items ih => rw [commaSeparated, ih, List.flatMap_cons, List.cons_append]

namespace Spelling

variable (w : Spelling) (sp : Spacing)
variable {α : Type} {Writes : α → List Char → Prop} {written : α → List Char}
variable (hwritten : ∀ x, Writes x (written x))

include hwritten

theorem memberText (m : String × α) :
    MemberText Writes m (w.member sp (m.1, written m.2)) := by
  have h := MemberText.mk sp.before noBlanks sp.gap (w.isQuoted m.1) (hwritten m.2)
  rwa [← List.append_assoc] at h

theorem membersText (ms : List (String × α)) :
    MembersText Writes ms
      ((ms.map fun m => w.member sp (m.1, written m.2)).flatMap (',' :: ·) ++
        (sp.after.chars ++ ['}'])) := by
  induction ms with
  | nil => exact .closing sp.after
  | cons m ms ih =>
    have h := MembersText.more noBlanks (w.memberText sp hwritten m) ih
    rw [List.map_cons, List.flatMap_cons, List.append_assoc]
    exact h

/-- An object in a layout is one of the ways to write its members. -/
theorem objectText (ms : List (String × α)) :
    ObjectText Writes ms (w.object sp (ms.map fun m => (m.1, written m.2))) := by
  cases ms with
  | nil => exact .empty sp.after
  | cons m ms =>
    have h := ObjectText.members (w.memberText sp hwritten m) (w.membersText sp hwritten ms)
    rw [← List.append_assoc, ← List.append_assoc, ← commaSeparated_cons] at h
    rw [object, members, List.map_map]
    exact h

end Spelling

/-! ## The layouts of the printers -/

def Spacing.compact : Spacing :=
  ⟨noBlanks, noBlanks, noBlanks⟩

theorem compactObject_eq (members : List (String × List Char)) :
    compactObject members = Spelling.printed.object .compact members := by
  show '{' :: commaSeparated (members.map fun m => quote m.1 ++ ':' :: m.2) ++ ['}'] =
    '{' :: (commaSeparated (members.map (Spelling.printed.member .compact)) ++ [] ++ ['}'])
  rw [List.append_nil]
  rfl

theorem isBlank_of_mem_newLine {depth : Nat} {c : Char} (h : c ∈ newLine depth) :
    isBlank c = true := by
  rw [newLine, List.mem_cons] at h
  rcases h with rfl | h
  · rfl
  · rw [List.eq_of_mem_replicate h]
    rfl

/-- The start of a line at a depth. -/
def lineStart (depth : Nat) : Run isBlank 0 :=
  ⟨newLine depth, fun _ => isBlank_of_mem_newLine, Nat.zero_le _⟩

/-- What stands after a colon in the indented layout. -/
def oneSpace : Run isBlank 0 :=
  ⟨[' '], fun _ hc => List.mem_singleton.1 hc ▸ rfl, Nat.zero_le _⟩

/-- The indented layout. The closing brace of an empty object has no line of its
own. -/
def Spacing.indented (depth : Nat) (isEmpty : Bool) : Spacing where
  before := lineStart (depth + 1)
  gap := oneSpace
  after := if isEmpty then noBlanks else lineStart depth

theorem indentedObject_eq (depth : Nat) (members : List (String × List Char)) :
    indentedObject depth members =
      Spelling.printed.object (.indented depth members.isEmpty) members := by
  cases members with
  | nil => rfl
  | cons m members =>
    -- both sides are the same text, only bracketed differently
    show '{' :: commaSeparated ((m :: members).map fun m =>
        newLine (depth + 1) ++ quote m.1 ++ ':' :: ' ' :: m.2) ++ newLine depth ++ ['}'] = _
    rw [List.append_assoc]
    show _ = '{' :: (commaSeparated _ ++ newLine depth ++ ['}'])
    rw [List.append_assoc]
    rfl

/-! ## Blanks in front -/

theorem readColon_blanks (blanks : Run isBlank 0) (cs : List Char) :
    readColon (blanks.chars ++ cs) = readColon cs := by
  rw [readColon, skipBlanks_append, readColon]

theorem readColon_cons (rest : List Char) : readColon (':' :: rest) = .ok rest := rfl

theorem nextKey_blanks (first : Bool) (blanks : Run isBlank 0) (cs : List Char) :
    nextKey first (blanks.chars ++ cs) = nextKey first cs := by
  rw [nextKey, skipBlanks_append, nextKey]

section Steps

variable {σ : Type} {m : MemberReader σ} {s s' : σ} {rest : List Char}

theorem readMembers_blanks (first : Bool) (blanks : Run isBlank 0) (cs : List Char) :
    readMembers m s first (blanks.chars ++ cs) = readMembers m s first cs := by
  have hkey := nextKey_blanks first blanks cs
  cases hnext : nextKey first cs with
  | error f => rw [readMembers_of_fault (hkey.trans hnext), readMembers_of_fault hnext]
  | ok step =>
    cases step with
    | ended left => rw [readMembers_of_ended (hkey.trans hnext), readMembers_of_ended hnext]
    | key name value =>
      -- from the name on, both readers are at the same place
      cases hread : m.read s name value with
      | error f =>
        rw [readMembers_of_memberFault (hkey.trans hnext) hread,
          readMembers_of_memberFault hnext hread]
      | ok gathered =>
        rw [readMembers_of_member (hkey.trans hnext) hread, readMembers_of_member hnext hread]

/-! ## One step -/

/-- The end of an object. -/
theorem readMembers_closing (first : Bool) : readMembers m s first ('}' :: rest) = .ok (s, rest) :=
  readMembers_of_ended rfl

/-- What stands in front of a member: a comma, unless it is the first. -/
def separator (first : Bool) : List Char :=
  if first then [] else [',']

theorem IsQuoted.readKey_append {name : String} {q : List Char} (h : IsQuoted name q)
    (rest : List Char) : readKey (q ++ rest) = .ok (.key name rest) := by
  obtain ⟨body, rfl, hread⟩ := h.exists_cons
  rw [List.cons_append, readKey, if_pos rfl, hread]
  rfl

theorem IsQuoted.nextKey_append {name : String} {q : List Char} (h : IsQuoted name q)
    (first : Bool) (blanks : Run isBlank 0) (rest : List Char) :
    nextKey first (separator first ++ (blanks.chars ++ (q ++ rest))) = .ok (.key name rest) := by
  have hkey := h.readKey_append rest
  -- the opening quote is what the reader looks for: neither a blank nor a closing brace
  obtain ⟨body, rfl, -⟩ := h.exists_cons
  rw [List.cons_append] at hkey ⊢
  cases first with
  | true =>
    show nextKey true (blanks.chars ++ '"' :: (body ++ rest)) = _
    rw [nextKey_blanks]
    exact hkey
  | false =>
    show readKeyAfterComma (blanks.chars ++ '"' :: (body ++ rest)) = _
    rw [readKeyAfterComma, skipBlanks_append]
    exact hkey

section Members

variable {α : Type} {Writes : α → List Char → Prop}

/-- A reader goes from `s` to `s'` by a member, in whatever way its value is written and
whatever follows. -/
def MemberReader.Takes (m : MemberReader σ) (Writes : α → List Char → Prop) (s : σ)
    (member : String × α) (s' : σ) : Prop :=
  ∀ (v rest : List Char) (between gap : Run isBlank 0), Writes member.2 v →
    m.read s member.1 (between.chars ++ ':' :: (gap.chars ++ (v ++ rest))) = .ok (s', rest)

/-- **One member**: the reader goes on with what its step has gathered from it. -/
theorem MemberText.readMembers_append {member : String × α} {item : List Char}
    (h : MemberText Writes member item) (htakes : m.Takes Writes s member s') (first : Bool)
    (rest : List Char) :
    readMembers m s first (separator first ++ (item ++ rest)) = readMembers m s' false rest := by
  obtain ⟨before, between, gap, hname, hvalue⟩ := h
  rw [List.append_assoc, List.append_assoc, List.append_assoc, List.cons_append,
    List.append_assoc]
  exact readMembers_of_member (hname.nextKey_append first before _)
    (htakes _ _ between gap hvalue)

/-! ## Whole objects -/

/-- After its name, a member is up to the step of the reader. -/
theorem toOption_readMembers_of_key {first : Bool} {name : String} {cs value : List Char}
    (h : nextKey first cs = .ok (.key name value)) :
    (readMembers m s first cs).toOption =
      (m.read s name value).toOption.bind fun gathered =>
        (readMembers m gathered.1 false gathered.2).toOption := by
  cases hread : m.read s name value with
  | error f =>
    rw [readMembers_of_memberFault h hread]
    rfl
  | ok gathered =>
    rw [readMembers_of_member h hread]
    rfl

/-- A reader goes by `next`: it takes the members that `next` has a result for, in
whatever way their values are written and whatever follows, and refuses the others. -/
def MemberReader.GoesBy (m : MemberReader σ) (Writes : α → List Char → Prop)
    (next : σ → String × α → Option σ) : Prop :=
  ∀ (s : σ) (member : String × α) (v rest : List Char) (between gap : Run isBlank 0),
    Writes member.2 v →
    (m.read s member.1 (between.chars ++ ':' :: (gap.chars ++ (v ++ rest)))).toOption =
      (next s member).map (·, rest)

section Fold

variable {next : σ → String × α → Option σ} (hgoes : m.GoesBy Writes next)

include hgoes

/-- **One member, taken or refused**: the reader goes on only when it is taken. -/
theorem MemberText.toOption_readMembers {member : String × α} {item : List Char}
    (h : MemberText Writes member item) (s : σ) (first : Bool) (rest : List Char) :
    (readMembers m s first (separator first ++ (item ++ rest))).toOption =
      (next s member).bind fun s' => (readMembers m s' false rest).toOption := by
  cases h with
  | @mk name x q v before between gap hname hvalue =>
    have hstep : (m.read s name (between.chars ++ ':' :: (gap.chars ++ (v ++ rest)))).toOption =
        (next s (name, x)).map (·, rest) := hgoes s (name, x) v rest between gap hvalue
    rw [List.append_assoc, List.append_assoc, List.append_assoc, List.cons_append,
      List.append_assoc, toOption_readMembers_of_key (hname.nextKey_append first before _),
      hstep, Option.bind_map]
    rfl

/-- By induction on the members that are still to come. -/
theorem MembersText.toOption_readMembers {members : List (String × α)} {cs : List Char}
    (h : MembersText Writes members cs) (s : σ) (rest : List Char) :
    (readMembers m s false (cs ++ rest)).toOption = (members.foldlM next s).map (·, rest) := by
  induction h generalizing s with
  | closing blanks =>
    rw [List.append_assoc, readMembers_blanks]
    exact congrArg Except.toOption (readMembers_closing false)
  | @more member members item items blanks hitem hitems ih =>
    rw [List.append_assoc, readMembers_blanks, List.cons_append, List.append_assoc]
    have hstep := hitem.toOption_readMembers hgoes s false (items ++ rest)
    simp only [ih] at hstep
    rw [List.foldlM_cons, Option.bind_eq_bind, Option.map_bind]
    exact hstep

/-- **A whole object**: a reader of members folds its step over them, and refuses the
object at the first member that it does not take. -/
theorem ObjectText.exists_cons_toOption {members : List (String × α)} {cs : List Char}
    (h : ObjectText Writes members cs) :
    ∃ body, cs = '{' :: body ∧ ∀ s rest,
      (readMembers m s true (body ++ rest)).toOption = (members.foldlM next s).map (·, rest) := by
  cases h with
  | empty blanks =>
    refine ⟨_, rfl, ?_⟩
    intro s rest
    rw [List.append_assoc, readMembers_blanks]
    exact congrArg Except.toOption (readMembers_closing true)
  | @members member members item items hitem hitems =>
    refine ⟨_, rfl, ?_⟩
    intro s rest
    have hstep := hitem.toOption_readMembers hgoes s true (items ++ rest)
    simp only [hitems.toOption_readMembers hgoes] at hstep
    rw [List.append_assoc, List.foldlM_cons, Option.bind_eq_bind, Option.map_bind]
    exact hstep

end Fold

/-- A reader that takes every member never refuses an object. -/
theorem ObjectText.exists_cons {next : σ → String × α → σ}
    (htakes : ∀ s member, m.Takes Writes s member (next s member))
    {members : List (String × α)} {cs : List Char} (h : ObjectText Writes members cs) :
    ∃ body, cs = '{' :: body ∧
      ∀ s rest, readMembers m s true (body ++ rest) = .ok (members.foldl next s, rest) := by
  have hgoes : m.GoesBy Writes fun s member => some (next s member) := by
    intro s member v rest between gap hv
    rw [htakes s member v rest between gap hv]
    rfl
  obtain ⟨body, rfl, hread⟩ := h.exists_cons_toOption hgoes
  refine ⟨body, rfl, ?_⟩
  intro s rest
  -- a step that always has a result folds without one ever missing
  have hfold := hread s rest
  rw [show members.foldlM (fun s member => some (next s member)) s = some (members.foldl next s)
    from List.foldlM_pure] at hfold
  cases hresult : readMembers m s true (body ++ rest) with
  | error f =>
    rw [hresult] at hfold
    cases hfold
  | ok gathered =>
    rw [hresult] at hfold
    exact congrArg Except.ok (Option.some.inj hfold)

end Members

end Steps

/-! ## Documents -/

/-- The ways to write an object that is a text of its own, with blanks around it. -/
inductive ObjectDocument {α : Type} (Writes : α → List Char → Prop)
    (members : List (String × α)) : List Char → Prop where
  | mk {cs : List Char} (before after : Run isBlank 0) (h : ObjectText Writes members cs) :
      ObjectDocument Writes members (before.chars ++ (cs ++ after.chars))

theorem ObjectText.document {α : Type} {Writes : α → List Char → Prop}
    {members : List (String × α)} {cs : List Char} (h : ObjectText Writes members cs) :
    ObjectDocument Writes members cs := by
  have hdocument := ObjectDocument.mk noBlanks noBlanks h
  rwa [show noBlanks.chars = [] from rfl, List.append_nil, List.nil_append] at hdocument

theorem readRecord_blanks {α : Type} (name : String)
    (object list : List Char → Except Fault (α × List Char)) (blanks : Run isBlank 0)
    (cs : List Char) :
    readRecord name object list (blanks.chars ++ cs) = readRecord name object list cs := by
  rw [readRecord, skipBlanks_append, readRecord]

/-- **A whole text**: a record that is read by its members gathers those of an object
that stands alone, or refuses it. -/
theorem ObjectDocument.toOption_readDocument {σ α : Type} {m : MemberReader σ}
    {Writes : α → List Char → Prop} {next : σ → String × α → Option σ}
    (hgoes : m.GoesBy Writes next) {members : List (String × α)} {cs : List Char}
    (h : ObjectDocument Writes members cs) (name : String) (s : σ)
    (list : List Char → Except Fault (σ × List Char)) :
    (readDocument (readRecord name (readMembers m s true) list) cs).toOption =
      members.foldlM next s := by
  obtain ⟨before, after, hobject⟩ := h
  obtain ⟨body, rfl, hread⟩ := hobject.exists_cons_toOption hgoes
  have hbody : readRecord name (readMembers m s true) list (('{' :: body) ++ after.chars) =
      readMembers m s true (body ++ after.chars) := by
    rw [List.cons_append, readRecord, skipBlanks_cons (by decide)]
    rfl
  -- behind the closing brace there are only blanks, which nothing refuses
  have hfold := hread s after.chars
  rw [readDocument, readRecord_blanks, hbody]
  cases hresult : readMembers m s true (body ++ after.chars) with
  | error f =>
    rw [hresult] at hfold
    exact (Option.map_eq_none_iff.1 hfold.symm).symm
  | ok gathered =>
    rw [hresult] at hfold
    obtain ⟨s', hs', rfl⟩ := Option.map_eq_some_iff.1 hfold.symm
    simp only [skipBlanks_run]
    exact hs'.symm

end ImportMaps.Json
