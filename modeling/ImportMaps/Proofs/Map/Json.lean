import ImportMaps.Map.Json
import ImportMaps.Proofs.Json.Object
import ImportMaps.Proofs.Map.History

/-!
# ImportMaps — import maps are read back from JSON

The texts of a history of pairs are the texts of an object with one member, whose
value is the object with the pairs as members (`IsHistoryText`). However its texts are
spelt and wherever it has blanks, reading such a text inserts the pairs one after the
other.

All forms in which a map is written are texts of its entries in some spelling and
spacing (`historyText`): here the two layouts of the printers.

Main results:

* `ofJson_of_isHistoryText` — every text of a history is read as the map that the
  history leaves behind.
* `ofJson_reads_back` — maps are read back from both layouts, and what the map of a
  history is.
-/

namespace ImportMaps.ImportMap

open Json Text

/-! ## Texts of histories -/

/-- The ways to write a history of pairs: an object with the one member that holds the
entries, whose value is the object with the pairs, and blanks around it all. -/
inductive IsHistoryText (pairs : List (String × String)) : List Char → Prop where
  | mk {record : List Char} (before after : Run isBlank 0)
      (h : ObjectText (ObjectText IsQuoted) [(entriesName, pairs)] record) :
      IsHistoryText pairs (before.chars ++ (record ++ after.chars))

section Layouts

variable (w : Spelling) (outer inner : Spacing)

/-- A pair as a member. -/
def pairMember (pair : String × String) : String × List Char :=
  (pair.1, w.quote pair.2)

/-- The object of the pairs. -/
def pairsText (pairs : List (String × String)) : List Char :=
  w.object inner (pairs.map (pairMember w))

/-- A history of pairs in the form in which a map is written. -/
def historyText (pairs : List (String × String)) : List Char :=
  w.object outer [(entriesName, pairsText w inner pairs)]

theorem objectText_pairsText (pairs : List (String × String)) :
    ObjectText IsQuoted pairs (pairsText w inner pairs) :=
  w.objectText inner w.isQuoted pairs

theorem isHistoryText_historyText (pairs : List (String × String)) :
    IsHistoryText pairs (historyText w outer inner pairs) := by
  have hrecord : ObjectText (ObjectText IsQuoted) [(entriesName, pairs)]
      (historyText w outer inner pairs) :=
    w.objectText outer (objectText_pairsText w inner) [(entriesName, pairs)]
  have h := IsHistoryText.mk noBlanks noBlanks hrecord
  rwa [show noBlanks.chars = [] from rfl, List.append_nil, List.nil_append] at h

end Layouts

theorem compactText_eq (m : ImportMap) :
    m.compactText = historyText .printed .compact .compact m.entries := by
  show compactObject [(entriesName, compactObject m.writtenEntries)] = _
  rw [compactObject_eq, compactObject_eq]
  rfl

theorem indentedText_eq (m : ImportMap) :
    m.indentedText =
      historyText .printed (.indented 0 false) (.indented 1 m.isEmpty) m.entries := by
  have hempty : m.writtenEntries.isEmpty = m.isEmpty := List.isEmpty_map
  show indentedObject 0 [(entriesName, indentedObject 1 m.writtenEntries)] = _
  rw [indentedObject_eq, indentedObject_eq, hempty]
  rfl

/-! ## Reading -/

/-- One pair is inserted. -/
theorem takes_entryReader (m : ImportMap) (pair : String × String) :
    entryReader.Takes IsQuoted m pair (m.insert pair.1 pair.2) := by
  intro url rest between gap hurl
  show readEntry m pair.1 _ = _
  rw [readEntry, readColon_blanks, readColon_cons]
  simp only [readText_blanks, hurl.readText_append]

theorem readEntriesObject_blanks (blanks : Run isBlank 0) (cs : List Char) :
    readEntriesObject (blanks.chars ++ cs) = readEntriesObject cs := by
  rw [readEntriesObject, skipBlanks_append, readEntriesObject]

/-- The object of the pairs is read as their history. -/
theorem readEntriesObject_append {pairs : List (String × String)} {cs : List Char}
    (h : ObjectText IsQuoted pairs cs) (rest : List Char) :
    readEntriesObject (cs ++ rest) = .ok (ofHistory pairs, rest) := by
  obtain ⟨body, rfl, hread⟩ := h.exists_cons takes_entryReader
  rw [List.cons_append, readEntriesObject, skipBlanks_cons (by decide)]
  exact hread empty rest

/-- The member with the entries is taken while none has been met. -/
theorem takes_recordReader (pairs : List (String × String)) :
    recordReader.Takes (ObjectText IsQuoted) none (entriesName, pairs)
      (some (ofHistory pairs)) := by
  intro entries rest between gap hentries
  show readMember none entriesName _ = _
  rw [readMember, if_pos rfl, if_neg (by decide), readColon_blanks, readColon_cons]
  simp only [readEntriesObject_blanks, readEntriesObject_append hentries]

/-- The record is read to its closing brace. -/
theorem readRecord_append {pairs : List (String × String)} {record : List Char}
    (h : ObjectText (ObjectText IsQuoted) [(entriesName, pairs)] record) (rest : List Char) :
    readRecord recordName readObject readList (record ++ rest) = .ok (ofHistory pairs, rest) := by
  cases h with
  | members hitem hitems =>
    -- after the one member there is only the closing brace
    cases hitems with
    | closing blanks =>
      rw [List.cons_append, readRecord, skipBlanks_cons (by decide)]
      show readObject _ = _
      rw [readObject, List.append_assoc, List.append_assoc]
      have hread := hitem.readMembers_append (takes_recordReader pairs) true
        (blanks.chars ++ '}' :: rest)
      rw [readMembers_blanks, readMembers_closing] at hread
      simp only [separator, if_pos, List.nil_append] at hread
      rw [List.singleton_append, hread]

/-- **Reading**: a text of a history is read as the map that the history leaves
behind. -/
theorem ofJson_of_isHistoryText {pairs : List (String × String)} {text : String}
    (h : IsHistoryText pairs text.toList) : ofJson text = .ok (ofHistory pairs) := by
  generalize hcs : text.toList = cs at h
  obtain ⟨before, after, hrecord⟩ := h
  -- the record begins behind the blanks in front, and the blanks after it are all that is left
  rw [ofJson, readDocument, hcs, readRecord_blanks, readRecord_append hrecord]
  simp only [skipBlanks_run]

/-! ## Reading back -/

theorem ofJson_historyText (w : Spelling) (outer inner : Spacing)
    (pairs : List (String × String)) :
    ofJson (String.ofList (historyText w outer inner pairs)) = .ok (ofHistory pairs) := by
  apply ofJson_of_isHistoryText
  rw [String.toList_ofList]
  exact isHistoryText_historyText w outer inner pairs

theorem ofJson_toJson (m : ImportMap) : ofJson m.toJson = .ok m := by
  rw [toJson, compactText_eq, ofJson_historyText, ofHistory_entries]

theorem ofJson_toJsonIndented (m : ImportMap) : ofJson m.toJsonIndented = .ok m := by
  rw [toJsonIndented, indentedText_eq, ofJson_historyText, ofHistory_entries]

/-- **Round trip**: a map is read back from both layouts, every entry in its place. And
every text of a list of pairs is read as the map that inserting them in their order
leaves behind: a specifier that is repeated stands where it first came and has the URL
that came last. -/
theorem ofJson_reads_back :
    (∀ m : ImportMap, ofJson m.toJson = .ok m ∧ ofJson m.toJsonIndented = .ok m) ∧
    ∀ (pairs : List (String × String)) (text : String), IsHistoryText pairs text.toList →
      ∃ m : ImportMap, ofJson text = .ok m ∧ m = ofHistory pairs ∧
        m.specifiers = (pairs.map Prod.fst).eraseDups ∧
        ∀ specifier, m.get? specifier = pairs.reverse.lookup specifier := by
  refine ⟨?_, ?_⟩
  · intro m
    exact ⟨m.ofJson_toJson, m.ofJson_toJsonIndented⟩
  · intro pairs text htext
    refine ⟨ofHistory pairs, ofJson_of_isHistoryText htext, rfl,
      specifiers_insertAll empty pairs, ?_⟩
    intro specifier
    rw [ofHistory, get?_insertAll]
    exact Option.or_none

/-- Blanks stand between the tokens, and a specifier comes again in another spelling. -/
theorem isHistoryText_repeated :
    IsHistoryText [("a", "1"), ("b", "2"), ("a", "<")]
      (" \x7b\"imports\" : \x7b\"a\":\"1\",\n\"b\":\"2\"" ++
        " ,\"\\u0061\":\"\\u003C\"\x7d\x7d\n").toList := by
  have hunit : IsUnitText 0x61 ['0', '0', '6', '1'] :=
    ⟨_, _, _, _, _, _, _, _, rfl, rfl, rfl, rfl, rfl, rfl⟩
  have hspells : SpellsText "a".toList ['\\', 'u', '0', '0', '6', '1'] :=
    .cons (.number hunit rfl rfl) .nil
  have hunit' : IsUnitText 0x3c ['0', '0', '3', 'C'] :=
    ⟨_, _, _, _, _, _, _, _, rfl, rfl, rfl, rfl, rfl, rfl⟩
  have hspells' : SpellsText "<".toList ['\\', 'u', '0', '0', '3', 'C'] :=
    .cons (.number hunit' rfl rfl) .nil
  -- the third pair is spelt by numbers, everything else as the printer does
  have quoted := Spelling.printed.isQuoted
  have hpairs := ObjectText.members (.mk noBlanks noBlanks noBlanks (quoted "a") (quoted "1"))
    (.more noBlanks (.mk (lineStart 0) noBlanks noBlanks (quoted "b") (quoted "2"))
      (.more oneSpace (.mk noBlanks noBlanks noBlanks (.mk hspells) (.mk hspells'))
        (.closing noBlanks)))
  exact .mk oneSpace (lineStart 0)
    (.members (.mk noBlanks oneSpace oneSpace (quoted entriesName) hpairs) (.closing noBlanks))

theorem ofJson_repeated :
    ∃ m, ofJson (" \x7b\"imports\" : \x7b\"a\":\"1\",\n\"b\":\"2\"" ++
        " ,\"\\u0061\":\"\\u003C\"\x7d\x7d\n") = .ok m ∧
      m.entries = [("a", "<"), ("b", "2")] := by
  obtain ⟨m, hread, rfl, -⟩ := ofJson_reads_back.2 _ _ isHistoryText_repeated
  exact ⟨_, hread, rfl⟩

end ImportMaps.ImportMap
