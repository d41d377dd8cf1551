import ImportMaps.Json.Printer
import ImportMaps.Json.Skip
import ImportMaps.Map.Basic

/-!
# ImportMaps — import maps as JSON

A browser reads an import map as an object with one member, `imports`, whose
members are the entries in order. It can be written without blanks
(`ImportMap.toJson`), indented (`ImportMap.toJsonIndented`), or inside the
element that a page holds it in (`ImportMap.toScriptTag`). In the last form
every `<` is escaped, so that no URL can close the element early.

Reading (`ImportMap.ofJson`) inserts the entries in the order of the text: a
specifier that is repeated keeps its first place and its last URL. Other members
beside `imports` are passed over. The record may also be written as a list with
the entries as its only element.
-/

namespace ImportMaps

namespace ImportMap

open Json

/-! ## Writing -/

/-- The name of the member that holds the entries. -/
def entriesName : String := "imports"

/-- The entries as members with written values. -/
def writtenEntries (m : ImportMap) : List (String × List Char) :=
  m.entries.map fun entry => (entry.1, quote entry.2)

/-- The compact form, as characters. -/
def compactText (m : ImportMap) : List Char :=
  compactObject [(entriesName, compactObject m.writtenEntries)]

/-- The indented form, as characters. -/
def indentedText (m : ImportMap) : List Char :=
  indentedObject 0 [(entriesName, indentedObject 1 m.writtenEntries)]

/-- A `<` as an escape, every other character as it is. -/
def escapeOpening (c : Char) : List Char :=
  if c = '<' then ['\\', 'u', '0', '0', '3', 'c'] else [c]

def toJson (m : ImportMap) : String :=
  String.ofList m.compactText

def toJsonIndented (m : ImportMap) : String :=
  String.ofList m.indentedText

/-- What the script element holds: the indented form without any `<`. -/
def scriptBody (m : ImportMap) : List Char :=
  m.indentedText.flatMap escapeOpening

def toScriptTag (m : ImportMap) : String :=
  "<script type=\"importmap\">\n" ++ String.ofList m.scriptBody ++ "\n</script>"

/-! ## Reading -/

/-- Inserts an entry: a colon and a text follow the specifier. -/
def readEntry (m : ImportMap) (specifier : String) (cs : List Char) :
    Except Fault (ImportMap × List Char) :=
  match readColon cs with
  | .error f => .error f
  | .ok value =>
    match readText value with
    | .error f => .error f
    | .ok (url, rest) => .ok (m.insert specifier url, rest)

theorem length_of_readEntry {m m' : ImportMap} {specifier : String} {cs rest : List Char}
    (h : readEntry m specifier cs = .ok (m', rest)) : rest.length ≤ cs.length := by
  unfold readEntry at h
  split at h
  · simp at h
  · next hcolon =>
    split at h
    · simp at h
    · next htext =>
      simp only [Except.ok.injEq, Prod.mk.injEq] at h
      have := length_of_readColon hcolon
      have := length_of_readText htext
      rw [← h.2]
      omega

/-- Gathers the entries of an object into a map. -/
def entryReader : MemberReader ImportMap :=
  ⟨readEntry, length_of_readEntry⟩

/-- The object of entries where one is wanted. -/
def readEntriesObject (cs : List Char) : Except Fault (ImportMap × List Char) :=
  match skipBlanks cs with
  | [] => .error (.next [] .endInValue)
  | c :: rest =>
    if c = '{' then readMembers entryReader empty true rest
    else .error (wrongTypeFault .object (c :: rest))

theorem length_of_readEntriesObject {m : ImportMap} {cs rest : List Char}
    (h : readEntriesObject cs = .ok (m, rest)) : rest.length < cs.length := by
  unfold readEntriesObject at h
  split at h
  · simp at h
  · next heq =>
    split at h
    · have := length_of_readMembers h
      have := length_of_skipBlanks heq
      omega
    · simp at h

def recordName : String := "ImportMap"

/-- Reads a member of the record. `found` holds the entries once their member has
been read; it must not come again. -/
def readMember (found : Option ImportMap) (name : String) (cs : List Char) :
    Except Fault (Option ImportMap × List Char) :=
  if name = entriesName then
    if found.isSome then
      .error (.here (afterClosing cs) (.duplicateField entriesName))
    else
      match readColon cs with
      | .error f => .error f
      | .ok value =>
        match readEntriesObject value with
        | .error f => .error f
        | .ok (m, rest) => .ok (some m, rest)
  else
    match readColon cs with
    | .error f => .error f
    | .ok value =>
      match skipValue value with
      | .error f => .error f
      | .ok rest => .ok (found, rest)

theorem length_of_readMember {found found' : Option ImportMap} {name : String}
    {cs rest : List Char} (h : readMember found name cs = .ok (found', rest)) :
    rest.length ≤ cs.length := by
  unfold readMember at h
  split at h
  · split at h
    · simp at h
    · split at h
      · simp at h
      · next hcolon =>
        split at h
        · simp at h
        · next hentries =>
          simp only [Except.ok.injEq, Prod.mk.injEq] at h
          have := length_of_readColon hcolon
          have := length_of_readEntriesObject hentries
          rw [← h.2]
          omega
  · split at h
    · simp at h
    · next hcolon =>
      split at h
      · simp at h
      · next hskip =>
        simp only [Except.ok.injEq, Prod.mk.injEq] at h
        have := length_of_readColon hcolon
        have := length_of_skipValue hskip
        rw [← h.2]
        omega

/-- Looks for the entries among the members of the record. -/
def recordReader : MemberReader (Option ImportMap) :=
  ⟨readMember, length_of_readMember⟩

/-- The record written as an object, after its opening brace. -/
def readObject (cs : List Char) : Except Fault (ImportMap × List Char) :=
  match readMembers recordReader none true cs with
  | .error f => .error f
  | .ok (some m, rest) => .ok (m, rest)
  | .ok (none, rest) => .error (.here rest (.missingField entriesName))

/-- The record written as a list, after its opening bracket. -/
def readList (cs : List Char) : Except Fault (ImportMap × List Char) :=
  match nextElement true cs with
  | .error f => .error f
  | .ok (.ended rest) => .error (.here rest (.emptyRecordList recordName))
  | .ok (.element rest) =>
    match readEntriesObject rest with
    | .error f => .error f
    | .ok (m, rest) => (endList rest).map (m, ·)

def ofJson (text : String) : Except Json.Error ImportMap :=
  readDocument (readRecord recordName readObject readList) text.toList

end ImportMap

end ImportMaps
