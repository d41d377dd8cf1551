/-!
# ImportMaps — import maps

An import map gives a URL to each of its specifiers. The order of its entries
matters, because it is the order in which they are written: an entry stands
where its specifier was first inserted, and has the URL that was inserted last.

* `ImportMap` — entries in order, no specifier twice; the second fact is part
  of the type.
* `insert`, `merge`, `ofHistory` — one entry, another map's entries, or a
  history of pairs put in one after the other.
* `get?`, `contains`, `size`, `specifiers` — what a map holds.
* `sameEntries` — equality without regard to order.

The view of a map is its list of entries: `entries_insert` says what an
insertion does to it, and everything else is built from insertions.
-/

namespace ImportMaps

/-! ## Entries -/

/-- Puts a pair into a list of entries: in the place of the entry with this
specifier, or at the end when there is none. -/
def putEntry (specifier url : String) : List (String × String) → List (String × String)
  | [] => [(specifier, url)]
  | entry :: rest =>
    if entry.1 = specifier then (specifier, url) :: rest
    else entry :: putEntry specifier url rest

theorem mem_keys_putEntry {k s u : String} {entries : List (String × String)} :
    k ∈ (putEntry s u entries).map Prod.fst ↔ k = s ∨ k ∈ entries.map Prod.fst := by
  induction entries with
  | nil => simp [putEntry]
  | cons entry rest ih =>
    rw [putEntry]
    split
    · next h => simp [h]
    · simp only [List.map_cons, List.mem_cons, ih]
      constructor
      · rintro (h | h | h)
        · exact .inr (.inl h)
        · exact .inl h
        · exact .inr (.inr h)
      · rintro (h | h | h)
        · exact .inr (.inl h)
        · exact .inl h
        · exact .inr (.inr h)

theorem nodup_keys_putEntry (s u : String) {entries : List (String × String)}
    (h : (entries.map Prod.fst).Nodup) : ((putEntry s u entries).map Prod.fst).Nodup := by
  induction entries with
  | nil => simp [putEntry]
  | cons entry rest ih =>
    rw [List.map_cons, List.nodup_cons] at h
    rw [putEntry]
    split
    · next hs => simpa [← hs] using h
    · next hs =>
      rw [List.map_cons, List.nodup_cons, mem_keys_putEntry]
      refine ⟨?_, ih h.2⟩
      rintro (he | he)
      · exact hs he
      · exact h.1 he

/-! ## Maps -/

/-- An import map: pairs of a specifier and its URL, each specifier once. -/
structure ImportMap where
  entries : List (String × String)
  nodup : (entries.map Prod.fst).Nodup

namespace ImportMap

theorem ext_entries {a b : ImportMap} (h : a.entries = b.entries) : a = b := by
  cases a
  cases b
  simpa using h

def empty : ImportMap :=
  ⟨[], List.nodup_nil⟩

/-- Gives a specifier a URL. A specifier that the map has already keeps its
place. -/
def insert (m : ImportMap) (specifier url : String) : ImportMap :=
  ⟨putEntry specifier url m.entries, nodup_keys_putEntry specifier url m.nodup⟩

/-- Inserts pairs one after the other. -/
def insertAll (m : ImportMap) (pairs : List (String × String)) : ImportMap :=
  pairs.foldl (fun m pair => m.insert pair.1 pair.2) m

/-- The map that a history of insertions leaves behind. -/
def ofHistory (pairs : List (String × String)) : ImportMap :=
  empty.insertAll pairs

/-- Takes over the entries of another map, whose URLs win. -/
def merge (m other : ImportMap) : ImportMap :=
  m.insertAll other.entries

def get? (m : ImportMap) (specifier : String) : Option String :=
  m.entries.lookup specifier

def contains (m : ImportMap) (specifier : String) : Bool :=
  (m.get? specifier).isSome

def size (m : ImportMap) : Nat :=
  m.entries.length

def isEmpty (m : ImportMap) : Bool :=
  m.entries.isEmpty

/-- The specifiers in the order of their first insertion. -/
def specifiers (m : ImportMap) : List String :=
  m.entries.map Prod.fst

/-- Two maps hold the same entries when they are of one size and every entry of
the first is one of the second; the order does not matter. -/
def sameEntries (a b : ImportMap) : Bool :=
  a.size == b.size && a.entries.all fun entry => b.get? entry.1 == some entry.2

@[simp] theorem entries_empty : empty.entries = [] := rfl

@[simp] theorem entries_insert (m : ImportMap) (s u : String) :
    (m.insert s u).entries = putEntry s u m.entries := rfl

@[simp] theorem insertAll_nil (m : ImportMap) : m.insertAll [] = m := rfl

@[simp] theorem insertAll_cons (m : ImportMap) (pair : String × String)
    (pairs : List (String × String)) :
    m.insertAll (pair :: pairs) = (m.insert pair.1 pair.2).insertAll pairs := rfl

theorem insertAll_append (m : ImportMap) (first second : List (String × String)) :
    m.insertAll (first ++ second) = (m.insertAll first).insertAll second := by
  simp [insertAll]

end ImportMap

end ImportMaps
