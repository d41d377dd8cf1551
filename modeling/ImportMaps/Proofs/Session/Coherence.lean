import ImportMaps.Proofs.Map.Json
import ImportMaps.Proofs.Resolver.Scan
import ImportMaps.Session

/-!
# ImportMaps — every URL in a session is the resolved one

A session can put any URL into its map. Some steps only ever put resolved ones there:
the seed, scans, merged scans and single resolved specifiers, clearing the map, and
reading the map back from its own JSON (`Session.Resolving`). A run of such steps, in
any order and from an empty map, keeps one invariant: every entry of the map has the
URL that its specifier resolves to.

The step (`Resolving.follows`) rests on two facts: the seed is written from a table
of its own, which agrees with the pinned URLs (`Resolver.follows_seed`), and the JSON
of a map is read back as that map (`ImportMap.ofJson_toJson`). The run is by induction
on its steps.

Main result:

* `Reachable.urls_resolved` — what holds in every state of such a run, and that no step
  of it changes the URL that a specifier has.
-/

namespace ImportMaps

namespace Session

open ImportMap

/-! ## The steps -/

/-- The steps that put nothing but resolved URLs into the map. -/
inductive Resolving (s : Session) : Step → Prop where
  | seed : Resolving s .seed
  | scan (source : String) : Resolving s (.scan source)
  | mergeScan (source : String) : Resolving s (.mergeScan source)
  | insertResolved (specifier : String) : Resolving s (.insertResolved specifier)
  | clear : Resolving s .clear
  /-- The map is replaced by what its own JSON is read as. -/
  | readBack : Resolving s (.readJson s.map.toJson)

variable {s : Session} {step : Step}

theorem perform_readBack (s : Session) : (s.perform (.readJson s.map.toJson)).1 = s := by
  rw [perform, ofJson_toJson]
  rfl

theorem Resolving.config_perform (h : s.Resolving step) :
    (s.perform step).1.config = s.config := by
  cases h with
  | readBack => rw [perform_readBack]
  | _ => rfl

/-- **One step**: the URLs in the map stay those that its specifiers resolve to. -/
theorem Resolving.follows (h : s.Resolving step) (hs : Follows s.resolver.resolve s.map) :
    Follows s.resolver.resolve (s.perform step).1.map := by
  cases h with
  | seed => exact s.resolver.follows_seed
  | scan source => exact s.resolver.follows_mapOf _
  | mergeScan source =>
    -- the other map's entries are inserted, and they follow the same resolver
    exact hs.insertAll (s.resolver.follows_mapOf (Source.imports source))
  | insertResolved specifier => exact hs.insert rfl
  | clear => exact Follows.empty
  | readBack =>
    rw [perform_readBack]
    exact hs

/-! ## Runs -/

/-- The states of the runs that take such steps, from an empty map on. -/
inductive Reachable (config : Config) : Session → Prop where
  | start : Reachable config (.start config)
  | step {s : Session} {step : Step} (hs : Reachable config s) (hstep : s.Resolving step) :
      Reachable config (s.perform step).1

variable {config : Config}

theorem Reachable.config_eq (h : Reachable config s) : s.config = config := by
  induction h with
  | start => rfl
  | step _ hstep ih => rw [hstep.config_perform, ih]

/-- **The run**: by induction on its steps. -/
theorem Reachable.follows (h : Reachable config s) :
    Follows (Resolver.ofConfig config).resolve s.map := by
  induction h with
  | start => exact Follows.empty
  | @step s step hs hstep ih =>
    rw [← hs.config_eq] at ih ⊢
    exact hstep.follows ih

/-- A specifier keeps its URL as long as it is in the map. -/
theorem Reachable.eq_of_get? {s' : Session} {k url url' : String} (h : Reachable config s)
    (h' : Reachable config s') (hk : s.map.get? k = some url) (hk' : s'.map.get? k = some url') :
    url' = url := by
  rw [h.follows.eq_of_get? hk, h'.follows.eq_of_get? hk']

/-- Merging a scan drops no specifier. -/
theorem Reachable.get?_mergeScan {k url : String} (h : Reachable config s)
    (hk : s.map.get? k = some url) (source : String) :
    (s.perform (.mergeScan source)).1.map.get? k = some url := by
  have hmerged : (s.map.merge (s.resolver.scan source)).get? k =
      ((s.resolver.scan source).entries.reverse.lookup k).or (some url) := by
    rw [merge, get?_insertAll, hk]
  show (s.map.merge (s.resolver.scan source)).get? k = some url
  cases hscan : (s.resolver.scan source).entries.reverse.lookup k with
  | none => rw [hmerged, hscan, Option.none_or]
  | some found =>
    -- the scan has the specifier too, and then with the same URL
    rw [hscan, Option.some_or] at hmerged
    rw [hmerged, h.eq_of_get? (h.step (.mergeScan source)) hk hmerged]

/-- **Coherence**: in every state of a run the settings are those of its start, no
specifier occurs twice, and every entry has the URL that its specifier resolves to. So a
specifier has the same URL in all states that have it, and merging a scan keeps every
entry as it is. -/
theorem Reachable.urls_resolved (h : Reachable config s) :
    s.config = config ∧
    s.map.specifiers.Nodup ∧
    (∀ entry ∈ s.map.entries, entry.2 = (Resolver.ofConfig config).resolve entry.1) ∧
    (∀ s', Reachable config s' → ∀ k url url', s.map.get? k = some url →
      s'.map.get? k = some url' → url' = url) ∧
    (∀ source k url, s.map.get? k = some url →
      (s.perform (.mergeScan source)).1.map.get? k = some url) := by
  refine ⟨h.config_eq, s.map.nodup, h.follows, ?_, ?_⟩
  · intro s' h' k url url' hk hk'
    exact h.eq_of_get? h' hk hk'
  · intro source k url hk
    exact h.get?_mergeScan hk source

/-- A run that merges a scan into the empty map, inserts a specifier and reads the map
back; from then on no scan changes the URL that was inserted. -/
theorem Reachable.urls_resolved_readBack :
    ∃ s, Reachable ⟨"h/", "19"⟩ s ∧
      s.map.specifiers =
        ["react", "react-dom/", "react-error-boundary", "z", "preact"] ∧
      s.map.get? "preact" = some "h/preact?deps=react@19" ∧
      ∀ source, (s.perform (.mergeScan source)).1.map.get? "preact" =
        some "h/preact?deps=react@19" := by
  have hstart : Reachable ⟨"h/", "19"⟩ (Session.start ⟨"h/", "19"⟩) := .start
  have hrun := (hstart.step (.mergeScan "import 'z'")).step (.insertResolved "preact")
  have hback := hrun.step .readBack
  rw [perform_readBack] at hback
  have hget : (((Session.start ⟨"h/", "19"⟩).perform (.mergeScan "import 'z'")).1.perform
      (.insertResolved "preact")).1.map.get? "preact" = some "h/preact?deps=react@19" := by
    decide +kernel
  refine ⟨_, hback, ?_, hget, ?_⟩
  · decide +kernel
  · intro source
    exact hback.urls_resolved.2.2.2.2 source _ _ hget

end Session

end ImportMaps
