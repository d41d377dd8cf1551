import ImportMaps.Proofs.Resolver.Merge
import ImportMaps.Proofs.Resolver.Rendering

/-!
# ImportMaps — what a resolver shows of its settings

A root may be given with slashes at its end, as many as one likes. A resolver drops them
before it makes any URL, so they cannot be seen in what it does; everything else that is
in the settings can. Even one source is enough for that (`probe`): the URL of a package
that has nothing to do with React shows the root, and that of one that mentions React
shows the version behind it. Neither is pinned, so host and version are in these URLs as
they are (`resolve_of_notMem`), which cannot be said of the pinned ones.

Main results:

* `Config.host_eq_host_iff` — two roots are the same but for slashes at their ends exactly
  when they come to the same host.
* `Resolver.indistinguishable_iff` — which settings no use of a resolver tells apart.
-/

namespace ImportMaps

open Text

/-! ## Slashes at the end -/

namespace Config

/-- So many slashes. -/
def slashes (n : Nat) : String :=
  String.ofList (List.replicate n '/')

theorem trimSlashes_append_replicate (cs : List Char) (n : Nat) :
    trimSlashes (cs ++ List.replicate n '/') = trimSlashes cs := by
  have hslashes : ∀ c ∈ List.replicate n '/', (c == '/') = true := by
    intro c hc
    rw [List.eq_of_mem_replicate hc]
    rfl
  rw [trimSlashes, List.reverse_append, List.reverse_replicate,
    List.dropWhile_append_of_pos hslashes, trimSlashes]

/-- What is dropped are slashes. -/
theorem exists_eq_trimSlashes_append (cs : List Char) :
    ∃ n, cs = trimSlashes cs ++ List.replicate n '/' := by
  refine ⟨(cs.reverse.takeWhile (· == '/')).length, ?_⟩
  have hslashes : cs.reverse.takeWhile (· == '/') =
      List.replicate (cs.reverse.takeWhile (· == '/')).length '/' := by
    refine List.eq_replicate_of_mem ?_
    intro c hc
    exact eq_of_beq (List.all_eq_true.1 List.all_takeWhile c hc)
  rw [← List.reverse_replicate, ← hslashes, trimSlashes, ← List.reverse_append,
    List.takeWhile_append_dropWhile, List.reverse_reverse]

variable {c c' : Config}

/-- **Two roots have the same host** exactly when they differ in nothing but the number of
slashes at their ends. -/
theorem host_eq_host_iff :
    c.host = c'.host ↔ ∃ (root : String) (n m : Nat),
      c.resolutionHost = root ++ slashes n ∧ c'.resolutionHost = root ++ slashes m := by
  constructor
  · intro h
    obtain ⟨n, hn⟩ := exists_eq_trimSlashes_append c.resolutionHost.toList
    obtain ⟨m, hm⟩ := exists_eq_trimSlashes_append c'.resolutionHost.toList
    -- the host itself is such a root
    refine ⟨c.host, n, m, ?_, ?_⟩
    · rw [host, slashes, ← String.ofList_append, ← hn, String.ofList_toList]
    · rw [h, host, slashes, ← String.ofList_append, ← hm, String.ofList_toList]
  · rintro ⟨root, n, m, hn, hm⟩
    rw [host, host, hn, hm, String.toList_append, String.toList_append, slashes, slashes,
      String.toList_ofList, String.toList_ofList, trimSlashes_append_replicate,
      trimSlashes_append_replicate]

-- a second slash is dropped as well, and one inside the root is not
example : host ⟨"https://cdn//", "18.2.0"⟩ = "https://cdn" ∧
    host ⟨"https://cdn/v1/", "18.2.0"⟩ = "https://cdn/v1" := by
  decide

end Config

/-! ## What a resolver shows -/

namespace Resolver

/-- Two resolvers that nothing they do tells apart. -/
structure Indistinguishable (r r' : Resolver) : Prop where
  resolve : ∀ specifier, r.resolve specifier = r'.resolve specifier
  pinned? : ∀ specifier, r.pinned? specifier = r'.pinned? specifier
  seed    : r.seed.entries = r'.seed.entries
  scan    : ∀ source, (r.scan source).entries = (r'.scan source).entries

variable {r r' : Resolver}

theorem resolve_plain (r : Resolver) : r.resolve "x" = r.host ++ "/" ++ "x" :=
  (r.resolve_of_notMem (by decide)).2 (by decide)

theorem resolve_asking (r : Resolver) :
    r.resolve "preact" = r.host ++ "/" ++ "preact" ++ "?deps=react@" ++ r.reactVersion :=
  (r.resolve_of_notMem (by decide)).1 (by decide)

/-- Two URLs show host and version: the first one the host, and the second one, when the
host is known, the version. -/
theorem eq_of_resolve_eq (hplain : r.resolve "x" = r'.resolve "x")
    (hasking : r.resolve "preact" = r'.resolve "preact") : r = r' := by
  rw [resolve_plain, resolve_plain, String.append_left_inj, String.append_left_inj] at hplain
  rw [resolve_asking, resolve_asking, hplain, String.append_right_inj] at hasking
  obtain ⟨host, version⟩ := r
  obtain ⟨host', version'⟩ := r'
  cases hplain
  cases hasking
  rfl

/-- A source with two packages, of which one mentions React. -/
def probe : String :=
  "import 'x'; import 'preact'"

theorem specifiers_probe : Source.specifiers probe = ["x", "preact"] := by
  decide +kernel

theorem get?_scan_probe (r : Resolver) {specifier : String}
    (h : specifier ∈ Source.specifiers probe) :
    (r.scan probe).get? specifier = some (r.resolve specifier) := by
  rw [get?_scan, scanned, if_pos (List.mem_append_right _ h)]

/-- **One source tells resolvers apart.** -/
theorem eq_of_scan_probe (h : (r.scan probe).entries = (r'.scan probe).entries) : r = r' := by
  have hmaps : r.scan probe = r'.scan probe := ImportMap.ext_entries h
  have hurl : ∀ specifier ∈ Source.specifiers probe,
      r.resolve specifier = r'.resolve specifier := by
    intro specifier hspecifier
    have hget := r.get?_scan_probe hspecifier
    rw [hmaps, r'.get?_scan_probe hspecifier] at hget
    exact (Option.some.inj hget).symm
  rw [specifiers_probe] at hurl
  exact eq_of_resolve_eq (hurl "x" (by decide)) (hurl "preact" (by decide))

theorem ofConfig_eq_ofConfig_iff {c c' : Config} :
    ofConfig c = ofConfig c' ↔ c.host = c'.host ∧ c.reactVersion = c'.reactVersion := by
  rw [ofConfig, ofConfig, Resolver.mk.injEq]

theorem Indistinguishable.refl (r : Resolver) : Indistinguishable r r :=
  ⟨fun _ => rfl, fun _ => rfl, rfl, fun _ => rfl⟩

/-- **Slashes at the end of the root never show, and everything else does.** Nothing that
resolvers do tells them apart if and only if they have the same host and the same version
of React, which is to say that they have the same version and their roots differ in
nothing but the number of slashes at the end. Every other difference shows already in the
map of a single source. -/
theorem indistinguishable_iff (c c' : Config) :
    (Indistinguishable (ofConfig c) (ofConfig c') ↔
      c.host = c'.host ∧ c.reactVersion = c'.reactVersion) ∧
    (Indistinguishable (ofConfig c) (ofConfig c') ↔
      (∃ (root : String) (n m : Nat), c.resolutionHost = root ++ Config.slashes n ∧
        c'.resolutionHost = root ++ Config.slashes m) ∧ c.reactVersion = c'.reactVersion) ∧
    (Indistinguishable (ofConfig c) (ofConfig c') ↔
      ((ofConfig c).scan probe).entries = ((ofConfig c').scan probe).entries) := by
  have hshows : Indistinguishable (ofConfig c) (ofConfig c') ↔
      c.host = c'.host ∧ c.reactVersion = c'.reactVersion := by
    rw [← ofConfig_eq_ofConfig_iff]
    constructor
    · intro h
      exact eq_of_scan_probe (h.scan probe)
    · intro h
      rw [h]
      exact .refl _
  refine ⟨hshows, ?_, ?_⟩
  · rw [hshows, Config.host_eq_host_iff]
  · constructor
    · intro h
      exact h.scan probe
    · intro h
      rw [eq_of_scan_probe h]
      exact .refl _

end Resolver

end ImportMaps
