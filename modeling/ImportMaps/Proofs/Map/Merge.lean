import ImportMaps.Proofs.Map.History

/-!
# ImportMaps — merging maps

A merge takes over the entries of another map. Two descriptions of what it leaves do
without following the insertions one by one:

* by entries: those of the first map in their places, with the URL of the other map
  where that has one, and behind them the entries of the other map that are new
  (`entries_merge`);
* by histories: what both histories leave when they are gone through one after the other
  (`merge_eq_ofHistory`). A map that has been built in several steps need not have been
  built at once, so the laws of merging are those of concatenation.

Main result:

* `merge_concatenates_histories` — merging and histories, and the laws that follow.
-/

namespace ImportMaps

namespace ImportMap

/-! ## Entries and look-ups -/

theorem get?_of_mem_entries (m : ImportMap) {entry : String × String} (h : entry ∈ m.entries) :
    m.get? entry.1 = some entry.2 := by
  obtain ⟨before, after, hentries⟩ := List.append_of_mem h
  refine List.lookup_eq_some_iff.2 ⟨before, after, hentries, ?_⟩
  intro earlier hearlier
  -- an earlier entry has another specifier, as no specifier occurs twice
  have hnodup := m.nodup
  rw [hentries, List.map_append, List.map_cons, List.nodup_append] at hnodup
  rw [bne_iff_ne]
  exact Ne.symm (hnodup.2.2 _ (List.mem_map_of_mem hearlier) _ List.mem_cons_self)

theorem follows_get? (m : ImportMap) : Follows (fun k => (m.get? k).getD "") m := by
  intro entry h
  show entry.2 = (m.get? entry.1).getD ""
  rw [m.get?_of_mem_entries h, Option.getD_some]

/-- The specifiers and what is found under them say it all. -/
theorem entries_eq_map_specifiers (m : ImportMap) :
    m.entries = m.specifiers.map fun k => (k, (m.get? k).getD "") :=
  m.follows_get?.entries_eq

/-! ## What a merge leaves -/

variable (m other : ImportMap)

theorem get?_eq_lookup_reverse (k : String) : m.get? k = m.entries.reverse.lookup k := by
  have hhistory := get?_insertAll empty m.entries k
  rwa [show empty.insertAll m.entries = m from m.ofHistory_entries,
    show empty.get? k = none from rfl, Option.or_none] at hhistory

theorem get?_merge (k : String) : (m.merge other).get? k = (other.get? k).or (m.get? k) := by
  rw [merge, get?_insertAll, ← get?_eq_lookup_reverse]

theorem specifiers_merge :
    (m.merge other).specifiers =
      m.specifiers ++ other.specifiers.filter (· ∉ m.specifiers) := by
  have hnew : other.specifiers.removeAll m.specifiers =
      other.specifiers.filter (· ∉ m.specifiers) := by
    simp [List.removeAll]
  have hdups : m.specifiers.eraseDups = m.specifiers := eraseDups_of_nodup m.nodup
  have hnodup : (other.specifiers.filter (· ∉ m.specifiers)).Nodup := other.nodup.filter _
  rw [merge, specifiers_insertAll, List.eraseDups_append, hdups]
  show m.specifiers ++ (other.specifiers.removeAll m.specifiers).eraseDups = _
  rw [hnew, eraseDups_of_nodup hnodup]

/-- **A merge, entry by entry.** -/
theorem entries_merge :
    (m.merge other).entries =
      m.entries.map (fun entry => (entry.1, (other.get? entry.1).getD entry.2)) ++
        other.entries.filter fun entry => entry.1 ∉ m.specifiers := by
  rw [entries_eq_map_specifiers, specifiers_merge, List.map_append]
  congr 1
  · show (m.entries.map Prod.fst).map _ = _
    rw [List.map_map]
    refine List.map_congr_left fun entry hentry => ?_
    rw [Function.comp_apply, get?_merge, m.get?_of_mem_entries hentry]
    cases other.get? entry.1 <;> rfl
  · -- a new entry of the other map keeps its URL
    show ((other.entries.map Prod.fst).filter _).map _ = _
    rw [List.filter_map, List.map_map]
    refine (List.map_congr_left fun entry hentry => ?_).trans (List.map_id _)
    have hmem := (List.mem_filter.1 hentry).1
    rw [Function.comp_apply, get?_merge, other.get?_of_mem_entries hmem, Option.some_or,
      Option.getD_some, id]

/-! ## Merging is going through histories one after the other -/

theorem ofHistory_append (first second : List (String × String)) :
    ofHistory (first ++ second) = (ofHistory first).merge (ofHistory second) := by
  rw [merge_ofHistory, ofHistory, insertAll_append, ← ofHistory]

/-- The entries of two maps are a history of their merge. -/
theorem merge_eq_ofHistory : m.merge other = ofHistory (m.entries ++ other.entries) := by
  rw [ofHistory_append, ofHistory_entries, ofHistory_entries]

theorem merge_assoc (a b c : ImportMap) : (a.merge b).merge c = a.merge (b.merge c) := by
  calc (a.merge b).merge c
      = (ofHistory (a.entries ++ b.entries)).merge (ofHistory c.entries) := by
        rw [← merge_eq_ofHistory, ofHistory_entries]
    _ = ofHistory (a.entries ++ (b.entries ++ c.entries)) := by
        rw [← ofHistory_append, List.append_assoc]
    _ = a.merge (ofHistory (b.entries ++ c.entries)) := by
        rw [ofHistory_append, ofHistory_entries]
    _ = a.merge (b.merge c) := by
        rw [← merge_eq_ofHistory]

theorem merge_self : m.merge m = m := by
  refine m.follows_get?.insertAll_eq_self ?_ ?_
  · exact m.follows_get?
  · intro entry hentry
    exact List.mem_map_of_mem hentry

/-- **Merging concatenates histories.** What one history has left, merged with what
another has left, is what they leave one after the other: the specifiers in the order of
their first insertion in both, each with the URL of its last one. So merging is
associative, the empty map changes nothing on either side, and neither does merging a map
into itself. -/
theorem merge_concatenates_histories :
    (∀ first second : List (String × String),
      (ofHistory first).merge (ofHistory second) = ofHistory (first ++ second) ∧
      (ofHistory (first ++ second)).specifiers =
        ((first ++ second).map Prod.fst).eraseDups ∧
      ∀ k, (ofHistory (first ++ second)).get? k = (first ++ second).reverse.lookup k) ∧
    (∀ a b c : ImportMap, (a.merge b).merge c = a.merge (b.merge c)) ∧
    ∀ m : ImportMap, empty.merge m = m ∧ m.merge empty = m ∧ m.merge m = m := by
  refine ⟨?_, merge_assoc, ?_⟩
  · intro first second
    refine ⟨(ofHistory_append first second).symm, ?_, ?_⟩
    · exact specifiers_insertAll empty (first ++ second)
    · intro k
      rw [ofHistory, get?_insertAll]
      exact Option.or_none
  · intro m
    exact ⟨m.ofHistory_entries, rfl, m.merge_self⟩

/-- Later insertions of two histories win, at the places of the earlier ones. -/
example : ((ofHistory [("a", "1"), ("b", "2"), ("a", "3")]).merge
    (ofHistory [("c", "4"), ("b", "5"), ("c", "6")])).entries =
      [("a", "3"), ("b", "5"), ("c", "6")] := by
  decide

end ImportMap

end ImportMaps
