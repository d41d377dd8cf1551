import ImportMaps.Proofs.Map.History
import ImportMaps.Resolver

/-!
# ImportMaps — the maps of scans

The seed and the pinned URLs are two tables, and a scan writes from both: the seed
first, then what its imports resolve to. They agree (`lookup_seedPins`), so every
entry of a scanned map has the URL that its specifier resolves to
(`follows_mapOf`), and such a map is known from its order alone (`entries_mapOf`).

This is why scans can be merged without a trace: each brings the seed along again,
which changes nothing, and then its own imports (`merge_scan`).
-/

namespace ImportMaps

/-- The specifiers of a source, in the order of their imports. -/
def Source.specifiers (source : String) : List String :=
  (Source.imports source).map (·.specifier)

namespace Resolver

open ImportMap

variable (r : Resolver)

/-! ## The seed -/

/-- Every entry of the seed is pinned to the same template. -/
theorem lookup_seedPins : ∀ pin ∈ seedPins, pins.lookup pin.1 = some pin.2 := by
  decide

/-- The history of the seed. -/
def seedHistory : List (String × String) :=
  seedPins.map fun pin => (pin.1, pin.2.render r)

theorem resolve_of_mem_seedHistory {pair : String × String} (h : pair ∈ r.seedHistory) :
    pair.2 = r.resolve pair.1 := by
  obtain ⟨pin, hpin, rfl⟩ := List.mem_map.1 h
  simp [resolve, pinned?, lookup_seedPins pin hpin]

theorem mem_specifiers_seed {pair : String × String} (h : pair ∈ r.seedHistory) :
    pair.1 ∈ r.seed.specifiers := by
  have hseed : r.seed.specifiers = ([] ++ r.seedHistory.map Prod.fst).eraseDups :=
    specifiers_insertAll empty r.seedHistory
  rw [hseed, List.mem_eraseDups]
  exact List.mem_map_of_mem h

theorem follows_seed : Follows r.resolve r.seed :=
  Follows.empty.insertAll fun _ => r.resolve_of_mem_seedHistory

/-! ## Imports -/

/-- The history of some imports. -/
def importHistory (imports : List ScannedImport) : List (String × String) :=
  imports.map fun i => (i.specifier, r.resolve i.specifier)

theorem resolve_of_mem_importHistory {imports : List ScannedImport} {pair : String × String}
    (h : pair ∈ r.importHistory imports) : pair.2 = r.resolve pair.1 := by
  obtain ⟨i, -, rfl⟩ := List.mem_map.1 h
  rfl

theorem follows_mapOf (imports : List ScannedImport) :
    Follows r.resolve (r.mapOf imports) :=
  r.follows_seed.insertAll fun _ => r.resolve_of_mem_importHistory

/-- The specifiers of a seed with imports: first occurrences, those of the seed in
front. -/
theorem specifiers_mapOf (imports : List ScannedImport) :
    (r.mapOf imports).specifiers =
      (r.seed.specifiers ++ imports.map (·.specifier)).eraseDups := by
  show (r.seed.insertAll (r.importHistory imports)).specifiers = _
  rw [specifiers_insertAll, importHistory, List.map_map]
  rfl

/-- **The map of some imports**, outright. -/
theorem entries_mapOf (imports : List ScannedImport) :
    (r.mapOf imports).entries =
      (r.seed.specifiers ++ imports.map (·.specifier)).eraseDups.map
        fun specifier => (specifier, r.resolve specifier) := by
  rw [(r.follows_mapOf imports).entries_eq, specifiers_mapOf]

theorem entries_mapOf_sources (sources : List String) :
    (r.mapOf (sources.flatMap Source.imports)).entries =
      (r.seed.specifiers ++ sources.flatMap Source.specifiers).eraseDups.map
        fun specifier => (specifier, r.resolve specifier) := by
  rw [entries_mapOf, List.map_flatMap]
  rfl

/-! ## Merging scans -/

theorem mapOf_append (first second : List ScannedImport) :
    r.mapOf (first ++ second) = (r.mapOf first).insertAll (r.importHistory second) := by
  show r.seed.insertAll (List.map _ (first ++ second)) = _
  rw [List.map_append, insertAll_append]
  rfl

/-- The seed is in every map of imports already. -/
theorem insertAll_seedHistory (imports : List ScannedImport) :
    (r.mapOf imports).insertAll r.seedHistory = r.mapOf imports := by
  apply (r.follows_mapOf imports).insertAll_eq_self
  · exact fun pair => r.resolve_of_mem_seedHistory
  · intro pair hpair
    rw [specifiers_mapOf, List.mem_eraseDups]
    exact List.mem_append_left _ (r.mem_specifiers_seed hpair)

/-- **One more scan**: merging the map of a source into the map of earlier imports
gives the map of all of them. -/
theorem merge_scan (imports : List ScannedImport) (source : String) :
    (r.mapOf imports).merge (r.scan source) = r.mapOf (imports ++ Source.imports source) := by
  have hscan : r.scan source =
      ofHistory (r.seedHistory ++ r.importHistory (Source.imports source)) :=
    (insertAll_append empty _ _).symm
  -- the history of the scan: the seed once more, and then its own imports
  rw [hscan, merge_ofHistory, insertAll_append, insertAll_seedHistory, mapOf_append]

end Resolver

end ImportMaps
