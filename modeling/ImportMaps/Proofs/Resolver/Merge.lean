import ImportMaps.Proofs.Map.Merge
import ImportMaps.Proofs.Resolver.Scan

/-!
# ImportMaps — a scan merged into any map

A scanned map can be merged into a map that knows nothing of the resolver: one that
another resolver has made, or that was read from a file. Three lists of specifiers meet
there, in any arrangement: those of the old map, those of the seed, and those of the
source with their repetitions. What comes out is known entry by entry.

The scan gives a URL to the specifiers of the seed and of the source (`scanned`), and to
no others (`get?_scan`); which of its entries are new to the old map, and in what order,
is a matter of first occurrences (`filter_eraseDups_scanned`).

Main result:

* `entries_merge_scan` — the entries after the merge, outright.
-/

namespace ImportMaps

namespace Resolver

open ImportMap

variable (r : Resolver) (source : String)

/-! ## What a scan gives a URL -/

/-- The specifiers that a scan gives a URL, repetitions included: those of the seed in
front of those of the source. -/
def scanned : List String :=
  r.seed.specifiers ++ Source.specifiers source

theorem entries_scan :
    (r.scan source).entries =
      (r.scanned source).eraseDups.map fun k => (k, r.resolve k) :=
  r.entries_mapOf (Source.imports source)

theorem get?_scan (k : String) :
    (r.scan source).get? k = if k ∈ r.scanned source then some (r.resolve k) else none := by
  rw [get?, entries_scan]
  split
  · next h =>
    rw [← List.mem_eraseDups] at h
    exact List.lookup_graph r.resolve h
  · next h =>
    rw [List.lookup_eq_none_iff]
    intro entry hentry
    obtain ⟨found, hfound, rfl⟩ := List.mem_map.1 hentry
    rw [bne_iff_ne]
    rintro rfl
    exact h (List.mem_eraseDups.1 hfound)

/-! ## What is new to a map -/

/-- Of the scanned specifiers that a map lacks, those of the seed come first and keep
their order; those of the source follow in the order of their first occurrence. -/
theorem filter_eraseDups_scanned (known : List String) :
    (r.scanned source).eraseDups.filter (· ∉ known) =
      r.seed.specifiers.filter (· ∉ known) ++
        ((Source.specifiers source).filter
          fun k => k ∉ known ∧ k ∉ r.seed.specifiers).eraseDups := by
  have hseed : (r.seed.specifiers.filter (· ∉ known)).Nodup := r.seed.nodup.filter _
  -- behind the seed's specifiers only those count that the seed lacks as well
  have hsource : ((Source.specifiers source).filter (· ∉ known)).removeAll
      (r.seed.specifiers.filter (· ∉ known)) =
        (Source.specifiers source).filter fun k => k ∉ known ∧ k ∉ r.seed.specifiers := by
    rw [List.removeAll, List.filter_filter]
    refine List.filter_congr fun k _ => ?_
    by_cases hk : k ∈ known <;> simp [hk]
  rw [scanned, filter_eraseDups, List.filter_append, List.eraseDups_append,
    eraseDups_of_nodup hseed, hsource]

/-- **A scan merged into any map.** The specifiers of the map stay where they are; those
that the scan has too get the URLs that they resolve to, and the entries of all others
are as before. Behind them come the specifiers that are new to the map, with the URLs
that they resolve to: what the map lacked of the seed, and then what is new in the source,
each once and in the order of its first appearance. -/
theorem entries_merge_scan (m : ImportMap) :
    (m.merge (r.scan source)).entries =
        m.entries.map (fun entry =>
          if entry.1 ∈ r.seed.specifiers ++ Source.specifiers source then
            (entry.1, r.resolve entry.1)
          else entry) ++
        (r.seed.specifiers.filter (· ∉ m.specifiers) ++
          ((Source.specifiers source).filter
            fun k => k ∉ m.specifiers ∧ k ∉ r.seed.specifiers).eraseDups).map
          (fun k => (k, r.resolve k)) ∧
      m.specifiers <+: (m.merge (r.scan source)).specifiers ∧
      ∀ k, (m.merge (r.scan source)).get? k =
        if k ∈ r.seed.specifiers ++ Source.specifiers source then some (r.resolve k)
        else m.get? k := by
  refine ⟨?_, ?_, ?_⟩
  · rw [entries_merge]
    congr 1
    -- what the map had keeps its place; what is new comes in the order of the scan
    · refine List.map_congr_left fun entry _ => ?_
      rw [get?_scan, ← scanned]
      split <;> rfl
    · rw [entries_scan, List.filter_map, ← filter_eraseDups_scanned]
      rfl
  · rw [specifiers_merge]
    exact List.prefix_append _ _
  · intro k
    rw [get?_merge, get?_scan, ← scanned]
    split
    · rw [Option.some_or]
    · rw [Option.none_or]

/-- A map of foreign URLs, with one specifier of the seed, one of the source and one of
neither. -/
example : ((ofHistory [("z", "old"), ("react", "old"), ("y", "old")]).merge
    (scan ⟨"h", "19"⟩ "import 'x'; import 'z'; import 'x'")).entries =
      [("z", "h/z"), ("react", "h/react@19"), ("y", "old"),
        ("react-dom/", "h/react-dom@19/"),
        ("react-error-boundary", "h/react-error-boundary/?deps=react@19"), ("x", "h/x")] := by
  decide +kernel

end Resolver

end ImportMaps
