import ImportMaps.Map.Basic
import Mathlib.Data.List.Basic

/-!
# ImportMaps — what insertions leave behind

An insertion replaces the URL of a specifier in place, or appends a new entry. So
the order of a map and its URLs can be looked at apart:

* the specifiers are those of all insertions in the order of their first one
  (`specifiers_insertAll`), whatever the URLs are;
* a specifier has the URL of its last insertion (`get?_insertAll`), wherever it stands;
* when every URL that was inserted comes from one function of the specifier, this
  is so for every entry (`Follows.insertAll`), whatever the order is.

Together they give the entries of such a map outright (`Follows.entries_eq`).

Insertions of new specifiers only append (`entries_insertAll_of_nodup`). In
particular the entries of a map, inserted in order, give the map back
(`ofHistory_entries`).

A map forgets most of its history, but merging does not need it: to merge what a
history leaves behind is to insert the history itself (`merge_ofHistory`).
-/

namespace ImportMaps

/-! ## One entry -/

/-- A new specifier goes to the end. -/
theorem putEntry_of_not_mem {s u : String} {entries : List (String × String)}
    (h : s ∉ entries.map Prod.fst) : putEntry s u entries = entries ++ [(s, u)] := by
  induction entries with
  | nil => rfl
  | cons entry rest ih =>
    rw [List.map_cons, List.mem_cons, not_or] at h
    rw [putEntry, if_neg (Ne.symm h.1), ih h.2, List.cons_append]

/-- A specifier that is there keeps its place. -/
theorem keys_putEntry_of_mem {s u : String} {entries : List (String × String)}
    (h : s ∈ entries.map Prod.fst) :
    (putEntry s u entries).map Prod.fst = entries.map Prod.fst := by
  induction entries with
  | nil => simp at h
  | cons entry rest ih =>
    rw [putEntry]
    split
    · next hs => rw [List.map_cons, List.map_cons, hs]
    · next hs =>
      rw [List.map_cons, List.mem_cons] at h
      rw [List.map_cons, List.map_cons, ih (h.resolve_left (Ne.symm hs))]

theorem mem_of_mem_putEntry {s u : String} {entry : String × String}
    {entries : List (String × String)} (h : entry ∈ putEntry s u entries) :
    entry = (s, u) ∨ entry ∈ entries := by
  induction entries with
  | nil => exact .inl (List.mem_singleton.1 h)
  | cons first rest ih =>
    rw [putEntry] at h
    split at h
    · rcases List.mem_cons.1 h with h | h
      · exact .inl h
      · exact .inr (List.mem_cons_of_mem _ h)
    · rcases List.mem_cons.1 h with h | h
      · exact .inr (h ▸ List.mem_cons_self)
      · exact (ih h).imp_right (List.mem_cons_of_mem _)

/-- The later URL wins. -/
theorem putEntry_putEntry_self (s u v : String) (entries : List (String × String)) :
    putEntry s u (putEntry s v entries) = putEntry s u entries := by
  induction entries with
  | nil => simp [putEntry]
  | cons entry rest ih =>
    by_cases h : entry.1 = s
    · simp [putEntry, h]
    · simp [putEntry, h, ih]

/-- Insertions of two specifiers can be exchanged when one of them is there already:
only then does neither decide the other's place. -/
theorem putEntry_comm {s k : String} (u v : String) {entries : List (String × String)}
    (hne : k ≠ s) (hs : s ∈ entries.map Prod.fst) :
    putEntry s u (putEntry k v entries) = putEntry k v (putEntry s u entries) := by
  induction entries with
  | nil => simp at hs
  | cons entry rest ih =>
    by_cases hentry : entry.1 = s
    · simp [putEntry, hentry, hne.symm]
    · have hrest : s ∈ rest.map Prod.fst := by
        rw [List.map_cons, List.mem_cons] at hs
        exact hs.resolve_left (Ne.symm hentry)
      by_cases hk : entry.1 = k
      · simp [putEntry, hk, hne]
      · simp [putEntry, hentry, hk, ih hrest]

/-! ## First occurrences -/

theorem eraseDups_of_nodup {xs : List String} (h : xs.Nodup) : xs.eraseDups = xs := by
  induction xs with
  | nil => rfl
  | cons x xs ih =>
    rw [List.nodup_cons] at h
    have hkeep : xs.filter (fun y => !y == x) = xs := by
      rw [List.filter_eq_self]
      intro y hy
      have hne : y ≠ x := by
        rintro rfl
        exact h.1 hy
      simp [hne]
    rw [List.eraseDups_cons, hkeep, ih h.2]

/-- What has occurred before does not count again. -/
theorem eraseDups_append_cons_of_mem {x : String} {xs ys : List String} (h : x ∈ xs) :
    (xs ++ x :: ys).eraseDups = (xs ++ ys).eraseDups := by
  have hdrop : (x :: ys).removeAll xs = ys.removeAll xs := by
    simp [List.removeAll, h]
  rw [List.eraseDups_append, List.eraseDups_append, hdrop]

/-- First occurrences can be looked for before or after a choice. -/
theorem filter_eraseDups (p : String → Bool) :
    ∀ xs : List String, xs.eraseDups.filter p = (xs.filter p).eraseDups
  | [] => rfl
  | x :: xs => by
    -- what is left of the list without `x` is shorter, not its tail
    have hlength : (xs.filter (!· == x)).length < (x :: xs).length :=
      Nat.lt_succ_of_le (List.length_filter_le _ xs)
    have ih := filter_eraseDups p (xs.filter (!· == x))
    by_cases hx : p x = true
    · rw [List.eraseDups_cons, List.filter_cons_of_pos hx, ih, List.filter_cons_of_pos hx,
        List.eraseDups_cons, List.filter_filter, List.filter_filter]
      simp only [Bool.and_comm]
    · have hdrop : (xs.filter (!· == x)).filter p = xs.filter p := by
        rw [List.filter_filter]
        refine List.filter_congr fun y _ => ?_
        by_cases hy : y = x
        · simp [hy, hx]
        · simp [hy]
      rw [List.eraseDups_cons, List.filter_cons_of_neg hx, ih, hdrop, List.filter_cons_of_neg hx]
termination_by xs => xs.length
decreasing_by exact hlength

namespace ImportMap

/-! ## Specifiers -/

theorem specifiers_insert_of_mem {m : ImportMap} {s : String} (u : String)
    (h : s ∈ m.specifiers) : (m.insert s u).specifiers = m.specifiers :=
  keys_putEntry_of_mem h

theorem specifiers_insert_of_not_mem {m : ImportMap} {s : String} (u : String)
    (h : s ∉ m.specifiers) : (m.insert s u).specifiers = m.specifiers ++ [s] := by
  show (putEntry s u m.entries).map Prod.fst = _
  rw [putEntry_of_not_mem h, List.map_append]
  rfl

/-- **Order**: after a history of insertions, the specifiers are those that were
there and those of the history, in the order of their first occurrence. -/
theorem specifiers_insertAll (m : ImportMap) (pairs : List (String × String)) :
    (m.insertAll pairs).specifiers =
      (m.specifiers ++ pairs.map Prod.fst).eraseDups := by
  induction pairs generalizing m with
  | nil =>
    rw [insertAll_nil, List.map_nil, List.append_nil]
    exact (eraseDups_of_nodup m.nodup).symm
  | cons pair pairs ih =>
    rw [insertAll_cons, ih, List.map_cons]
    by_cases h : pair.1 ∈ m.specifiers
    -- a specifier that is there is no first occurrence; a new one is, and goes to the end
    · rw [specifiers_insert_of_mem pair.2 h, eraseDups_append_cons_of_mem h]
    · rw [specifiers_insert_of_not_mem pair.2 h, List.append_assoc]
      rfl

/-! ## URLs -/

theorem lookup_putEntry (s u k : String) (entries : List (String × String)) :
    (putEntry s u entries).lookup k = if k = s then some u else entries.lookup k := by
  induction entries with
  | nil =>
    by_cases h : k = s
    · rw [if_pos h, h]
      exact List.lookup_cons_self
    · rw [if_neg h, putEntry, List.lookup_cons, beq_false_of_ne h]
  | cons entry rest ih =>
    obtain ⟨t, v⟩ := entry
    rw [putEntry]
    by_cases ht : t = s
    · -- the entry is replaced: below it nothing changes
      subst ht
      rw [if_pos rfl]
      by_cases h : k = t
      · rw [if_pos h, h]
        exact List.lookup_cons_self
      · rw [if_neg h, List.lookup_cons, List.lookup_cons, beq_false_of_ne h]
    · rw [if_neg ht, List.lookup_cons, List.lookup_cons, ih]
      by_cases h : k = t
      · subst h
        rw [beq_self_eq_true, if_neg ht, if_neg ht]
      · rw [beq_false_of_ne h]

theorem get?_insert (m : ImportMap) (s u k : String) :
    (m.insert s u).get? k = if k = s then some u else m.get? k :=
  lookup_putEntry s u k m.entries

/-- **URLs**: after a history of insertions, a specifier has the URL of its last one. -/
theorem get?_insertAll (m : ImportMap) (pairs : List (String × String)) (k : String) :
    (m.insertAll pairs).get? k = (pairs.reverse.lookup k).or (m.get? k) := by
  induction pairs generalizing m with
  | nil => rfl
  | cons pair pairs ih =>
    have hpair : (m.insert pair.1 pair.2).get? k = ([pair].lookup k).or (m.get? k) := by
      rw [get?_insert]
      by_cases h : k = pair.1
      · rw [if_pos h, h, List.lookup_cons, beq_self_eq_true]
        rfl
      · rw [if_neg h, List.lookup_cons, beq_false_of_ne h, List.lookup_nil, Option.none_or]
    rw [insertAll_cons, ih, hpair, List.reverse_cons, List.lookup_append, Option.or_assoc]

/-! ## Insertions of new specifiers -/

theorem entries_insertAll_of_nodup {m : ImportMap} {pairs : List (String × String)}
    (h : ((m.entries ++ pairs).map Prod.fst).Nodup) :
    (m.insertAll pairs).entries = m.entries ++ pairs := by
  induction pairs generalizing m with
  | nil => simp
  | cons pair pairs ih =>
    have hnew : pair.1 ∉ m.entries.map Prod.fst := by
      intro hmem
      rw [List.map_append, List.nodup_append] at h
      exact h.2.2 _ hmem _ (List.mem_map_of_mem List.mem_cons_self) rfl
    have hinsert : (m.insert pair.1 pair.2).entries = m.entries ++ [pair] :=
      putEntry_of_not_mem hnew
    have hrest : (((m.insert pair.1 pair.2).entries ++ pairs).map Prod.fst).Nodup := by
      rw [hinsert, List.append_assoc]
      exact h
    rw [insertAll_cons, ih hrest, hinsert, List.append_assoc]
    rfl

/-- The entries of a map are a history that leaves it behind. -/
theorem ofHistory_entries (m : ImportMap) : ofHistory m.entries = m :=
  ext_entries (entries_insertAll_of_nodup (m := empty) m.nodup)

/-! ## Merging histories -/

theorem insert_insert_self (m : ImportMap) (s u v : String) :
    (m.insert s v).insert s u = m.insert s u :=
  ext_entries (putEntry_putEntry_self s u v m.entries)

/-- An insertion can be made before others when the specifier is there already and
they do not touch it. -/
theorem insertAll_insert_of_mem {m : ImportMap} {s : String} (u : String)
    {pairs : List (String × String)} (hs : s ∈ m.specifiers)
    (hnot : s ∉ pairs.map Prod.fst) :
    (m.insertAll pairs).insert s u = (m.insert s u).insertAll pairs := by
  induction pairs generalizing m with
  | nil => rfl
  | cons pair pairs ih =>
    rw [List.map_cons, List.mem_cons, not_or] at hnot
    have hstill : s ∈ (m.insert pair.1 pair.2).specifiers :=
      mem_keys_putEntry.2 (.inr hs)
    have hcomm : (m.insert pair.1 pair.2).insert s u = (m.insert s u).insert pair.1 pair.2 :=
      ext_entries (putEntry_comm u pair.2 (Ne.symm hnot.1) hs)
    rw [insertAll_cons, insertAll_cons, ih hstill hnot.2, hcomm]

/-- To insert the entries that one more insertion leaves behind is to make one more
insertion at the end. -/
theorem insertAll_putEntry (m : ImportMap) (s u : String) {entries : List (String × String)}
    (h : (entries.map Prod.fst).Nodup) :
    m.insertAll (putEntry s u entries) = (m.insertAll entries).insert s u := by
  induction entries generalizing m with
  | nil => rfl
  | cons entry rest ih =>
    rw [List.map_cons, List.nodup_cons] at h
    rw [putEntry]
    split
    · next hs =>
      -- The entry is replaced where it stands; its new URL moves past the rest.
      subst hs
      have hmem : entry.1 ∈ (m.insert entry.1 entry.2).specifiers :=
        mem_keys_putEntry.2 (.inl rfl)
      rw [insertAll_cons, insertAll_cons, insertAll_insert_of_mem u hmem h.1,
        insert_insert_self]
    · rw [insertAll_cons, insertAll_cons, ih _ h.2]

/-- **Merging**: to merge what a history leaves behind is to insert the history. -/
theorem merge_ofHistory (m : ImportMap) (pairs : List (String × String)) :
    m.merge (ofHistory pairs) = m.insertAll pairs := by
  -- By induction on the history, with the map that it starts from generalized.
  suffices h : ∀ start : ImportMap, m.insertAll (start.insertAll pairs).entries =
      (m.insertAll start.entries).insertAll pairs from h empty
  intro start
  induction pairs generalizing start with
  | nil => rfl
  | cons pair pairs ih =>
    rw [insertAll_cons, insertAll_cons, ih, entries_insert, insertAll_putEntry _ _ _ start.nodup]

/-! ## URLs that follow from the specifiers -/

/-- Every entry has the URL that `f` gives its specifier. -/
def Follows (f : String → String) (m : ImportMap) : Prop :=
  ∀ entry ∈ m.entries, entry.2 = f entry.1

namespace Follows

variable {f : String → String} {m other : ImportMap}

theorem empty : Follows f .empty := by
  intro entry h
  cases h

theorem insert (hm : Follows f m) {s u : String} (hu : u = f s) :
    Follows f (m.insert s u) := by
  intro entry h
  rcases mem_of_mem_putEntry h with rfl | h
  · exact hu
  · exact hm entry h

theorem insertAll (hm : Follows f m) {pairs : List (String × String)}
    (hpairs : ∀ pair ∈ pairs, pair.2 = f pair.1) : Follows f (m.insertAll pairs) := by
  induction pairs generalizing m with
  | nil => exact hm
  | cons pair pairs ih =>
    exact ih (hm.insert (hpairs pair List.mem_cons_self))
      fun p hp => hpairs p (List.mem_cons_of_mem _ hp)

/-- The specifiers and the function say it all. -/
theorem entries_eq (hm : Follows f m) :
    m.entries = m.specifiers.map fun specifier => (specifier, f specifier) := by
  have hself : ∀ entry ∈ m.entries, (entry.1, f entry.1) = entry := by
    intro entry h
    rw [← hm entry h]
  calc m.entries = m.entries.map fun entry => (entry.1, f entry.1) := by
        rw [List.map_congr_left hself, List.map_id']
    _ = m.specifiers.map fun specifier => (specifier, f specifier) := by
        rw [specifiers, List.map_map]
        rfl

/-- A specifier of the map has the URL of the function. -/
theorem get?_of_mem (hm : Follows f m) {k : String} (hk : k ∈ m.specifiers) :
    m.get? k = some (f k) := by
  rw [get?, hm.entries_eq]
  exact List.lookup_graph f hk

theorem eq_of_get? (hm : Follows f m) {k url : String} (hk : m.get? k = some url) :
    url = f k := by
  obtain ⟨before, after, hentries, -⟩ := List.lookup_eq_some_iff.1 hk
  have hmem : (k, url) ∈ m.entries := by
    rw [hentries]
    exact List.mem_append_right _ List.mem_cons_self
  exact hm (k, url) hmem

theorem eq_of_specifiers_eq (hm : Follows f m) (hother : Follows f other)
    (h : m.specifiers = other.specifiers) : m = other := by
  apply ext_entries
  rw [hm.entries_eq, hother.entries_eq, h]

/-- Nothing changes when specifiers that are there are inserted again. -/
theorem insertAll_eq_self (hm : Follows f m) {pairs : List (String × String)}
    (hpairs : ∀ pair ∈ pairs, pair.2 = f pair.1) (hmem : ∀ pair ∈ pairs, pair.1 ∈ m.specifiers) :
    m.insertAll pairs = m := by
  induction pairs with
  | nil => rfl
  | cons pair pairs ih =>
    have hinsert : m.insert pair.1 pair.2 = m :=
      (hm.insert (hpairs pair List.mem_cons_self)).eq_of_specifiers_eq hm
        (specifiers_insert_of_mem pair.2 (hmem pair List.mem_cons_self))
    rw [insertAll_cons, hinsert]
    exact ih (fun p hp => hpairs p (List.mem_cons_of_mem _ hp))
      fun p hp => hmem p (List.mem_cons_of_mem _ hp)

end Follows

end ImportMap

end ImportMaps
