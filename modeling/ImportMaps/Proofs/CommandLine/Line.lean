import ImportMaps.Proofs.CommandLine.Place

/-!
# ImportMaps — the command lines of a scan

A command line asks for a scan by its name, with switches in front of it, and with switches
and paths behind it (`ScanLine`). What it asks for is said here without a reader
(`ScanLine.Asks`): how it is written at both places, and what must not be given.

What is asked for is the request (`ScanLine.request`). The paths are the sources, in
order. The settings file is the one named behind the command's name, or else in front of it,
or else in the environment. The layout is that of the switch for it.

Main results:

* `ofArguments_eq_ok_iff` — exactly these command lines are read as a scan, and each of
  them with the request that it asks for.
* `ScanLine.Asks.unique` — a command line asks for one scan only.
-/

namespace ImportMaps.CommandLine

/-- A scan as it is asked for: the switches in front of the command's name and those behind
it, with their values, and the paths. -/
structure ScanLine where
  outer : List (Switch × String)
  inner : List (Switch × String)
  files : List String
  deriving DecidableEq, Repr

namespace ScanLine

/-- A switch is given behind the command's name. -/
def gives (l : ScanLine) (s : Switch) : Prop :=
  s ∈ l.inner.map Prod.fst

instance (l : ScanLine) (s : Switch) : Decidable (l.gives s) :=
  inferInstanceAs (Decidable (s ∈ l.inner.map Prod.fst))

/-- The path of the settings file: behind the command's name, or in front of it, or in the
environment. -/
def config (l : ScanLine) (environment : Option String) : Option String :=
  l.inner.lookup .config <|> l.outer.lookup .config <|> environment

/-- The layout of the switch that is given for it. -/
def layout (l : ScanLine) : Layout :=
  if l.gives .html then .scriptTag else if l.gives .pretty then .indented else .compact

/-- What a line asks for. -/
def request (l : ScanLine) (environment : Option String) : ScanRequest where
  files := l.files
  config := l.config environment
  host := l.inner.lookup .host
  reactVersion := l.inner.lookup .reactVersion
  layout := l.layout

/-- How often more detail is asked for: behind the command's name, or else in front of it. -/
def verbosity (l : ScanLine) : Nat :=
  if l.gives .verbose then (l.inner.map Prod.fst).count .verbose
  else (l.outer.map Prod.fst).count .verbose

/-- Whether JSON is asked for, at either place. -/
def json (l : ScanLine) : Bool :=
  decide (.json ∈ (l.outer ++ l.inner).map Prod.fst)

/-- The invocation that a line asks for. -/
def invocation (l : ScanLine) (environment : Option String) : Invocation :=
  ⟨l.verbosity, l.json, .scan (l.request environment)⟩

/-- Arguments that are written for this line, around the command's name. -/
def Written (l : ScanLine) (args : List String) : Prop :=
  ∃ front behind, args = front ++ "scan" :: behind ∧
    Writes Switch.outer .command front l.outer [] ∧
    Writes Switch.ofScan .files behind l.inner l.files

/-- A command line, with the path that the environment holds, asks for this scan. -/
structure Asks (l : ScanLine) (environment : Option String) (args : List String) : Prop where
  written : l.Written args
  outer   : Admits l.outer []
  inner   : Admits l.inner l.files
  /-- There is one layout. -/
  layout  : ¬ (l.gives .html ∧ l.gives .pretty)
  /-- An empty path in the environment is passed over only if both places name a file. -/
  environment : environment = some "" → l.gives .config ∧ .config ∈ l.outer.map Prod.fst

end ScanLine

/-! ## What has been noted at a place -/

section Noted

variable {switches : List (Switch × String)} {paths : List String} {s : Switch}

/-- The value of a switch that is given once does not depend on the order. -/
theorem lookup_reverse (h : (switches.map Prod.fst).count s ≤ 1) :
    switches.reverse.lookup s = switches.lookup s := by
  induction switches with
  | nil => rfl
  | cons given switches ih =>
    obtain ⟨t, value⟩ := given
    rw [List.map_cons, List.count_cons] at h
    rw [List.reverse_cons, List.lookup_append, List.lookup_cons, List.lookup_cons]
    by_cases hs : s = t
    · -- the switch is not given again
      subst hs
      have hcount : (switches.map Prod.fst).count s = 0 := by
        rw [beq_self_eq_true, if_pos rfl] at h
        omega
      have hrest : switches.reverse.lookup s = none := by
        refine List.lookup_eq_none_iff.2 fun p hp => ?_
        refine bne_iff_ne.2 fun heq => List.count_eq_zero.1 hcount ?_
        exact heq ▸ List.mem_map_of_mem (List.mem_reverse.1 hp)
      rw [hrest, beq_self_eq_true]
      rfl
    · rw [ih (Nat.le_trans (Nat.le_add_right _ _) h), beq_false_of_ne hs]
      exact Option.or_none

theorem value?_noted (h : Admits switches paths) (hs : s.repeatable = false) :
    Given.value? ⟨switches.reverse, paths.reverse⟩ s = switches.lookup s :=
  lookup_reverse (nodup_filter_repeatable_iff.1 h.once s hs)

theorem has_noted (switches : List (Switch × String)) (paths : List String) {s : Switch} :
    Given.has ⟨switches.reverse, paths.reverse⟩ s = true ↔ s ∈ switches.map Prod.fst := by
  rw [Given.has_iff, List.map_reverse, List.mem_reverse]

theorem count_noted (switches : List (Switch × String)) (paths : List String) {s : Switch} :
    Given.count ⟨switches.reverse, paths.reverse⟩ s = (switches.map Prod.fst).count s := by
  rw [Given.count, List.filter_reverse, List.length_reverse, List.count, List.countP_map,
    List.countP_eq_length_filter]
  rfl

end Noted

/-- In front of a command's name no path is written. -/
theorem Writes.paths_eq_nil {allowed : List Switch} {args paths : List String}
    {switches : List (Switch × String)} (h : Writes allowed .command args switches paths) :
    paths = [] := by
  generalize hroom : Room.command = room at h
  induction h with
  | nil => rfl
  | flag _ _ _ _ ih | cluster _ _ _ _ ih | joined _ _ _ _ ih | apart _ _ _ _ _ ih => exact ih hroom
  | path | paths => cases hroom

/-- Nothing that is written in front of a command's name could be a name itself. -/
theorem Writes.not_isPlain {allowed : List Switch} {arg : String} {args paths : List String}
    {switches : List (Switch × String)}
    (h : Writes allowed .command (arg :: args) switches paths) : ¬ IsPlain arg := by
  intro hplain
  cases h with
  | flag harg | apart harg =>
    rw [harg] at hplain
    cases (looks_flag _).unique (.plain hplain)
  | joined harg =>
    rw [harg] at hplain
    cases (looks_joined _ _).unique (.plain hplain)
  | cluster harg hletters hnamed =>
    cases (looks_cluster harg hletters hnamed).unique (.plain hplain)

/-! ## The invocation -/

namespace ScanLine

variable {l l' : ScanLine} {environment : Option String} {args : List String}

/-- What the reader has noted in front of the command's name. -/
def outerNoted (l : ScanLine) : Given :=
  ⟨l.outer.reverse, []⟩

/-- What the reader has noted behind it. -/
def innerNoted (l : ScanLine) : Given :=
  ⟨l.inner.reverse, l.files.reverse⟩

theorem has_outerNoted {s : Switch} :
    l.outerNoted.has s = true ↔ s ∈ l.outer.map Prod.fst :=
  has_noted l.outer []

theorem has_innerNoted {s : Switch} : l.innerNoted.has s = true ↔ l.gives s :=
  has_noted l.inner l.files

theorem configPath_eq_ok_iff (houter : Admits l.outer []) (hinner : Admits l.inner l.files)
    {config : Option String} :
    configPath environment l.outerNoted l.innerNoted = .ok config ↔
      (environment = some "" → l.gives .config ∧ .config ∈ l.outer.map Prod.fst) ∧
        l.config environment = config := by
  have hvalue : l.innerNoted.value? .config = l.inner.lookup .config := value?_noted hinner rfl
  have hvalue' : l.outerNoted.value? .config = l.outer.lookup .config := value?_noted houter rfl
  have hpath : l.config environment =
      ((l.inner.lookup .config <|> l.outer.lookup .config) <|> environment) := by
    rw [ScanLine.config]
    cases l.inner.lookup .config <;> rfl
  rw [configPath, hvalue, hvalue', ← hpath, ← has_innerNoted, ← has_outerNoted, ← Bool.and_eq_true]
  split
  · next hrefused =>
    rw [Bool.and_eq_true, decide_eq_true_eq, Bool.not_eq_true'] at hrefused
    simp [hrefused]
  · next hempty =>
    rw [Bool.and_eq_true, decide_eq_true_eq, Bool.not_eq_true', not_and, Bool.not_eq_false]
      at hempty
    simp only [Except.ok.injEq]
    exact ⟨fun h => ⟨hempty, h⟩, fun h => h.2⟩

theorem layoutOf_eq_ok_iff {layout : Layout} :
    layoutOf l.innerNoted = .ok layout ↔
      ¬ (l.gives .html ∧ l.gives .pretty) ∧ l.layout = layout := by
  simp only [layoutOf, ScanLine.layout, Bool.and_eq_true, has_innerNoted]
  by_cases hhtml : l.gives .html
  · by_cases hpretty : l.gives .pretty <;> simp [hhtml, hpretty]
  · by_cases hpretty : l.gives .pretty <;> simp [hhtml, hpretty]

theorem scanRequest_eq_ok_iff (hinner : Admits l.inner l.files) {request : ScanRequest} :
    scanRequest (l.config environment) l.innerNoted = .ok request ↔
      ¬ (l.gives .html ∧ l.gives .pretty) ∧ l.request environment = request := by
  have hhost : l.innerNoted.value? .host = l.inner.lookup .host := value?_noted hinner rfl
  have hreact : l.innerNoted.value? .reactVersion = l.inner.lookup .reactVersion :=
    value?_noted hinner rfl
  have hfiles : l.innerNoted.plain.reverse = l.files := List.reverse_reverse _
  rw [scanRequest, hhost, hreact, hfiles]
  cases hlayout : layoutOf l.innerNoted with
  | error stop =>
    have hnone : ¬ (¬ (l.gives .html ∧ l.gives .pretty) ∧ l.layout = l.layout) := by
      rw [← layoutOf_eq_ok_iff, hlayout]
      nofun
    simp only [and_true] at hnone
    simp [Except.map, hnone]
  | ok layout =>
    obtain ⟨hone, rfl⟩ := layoutOf_eq_ok_iff.1 hlayout
    simp [Except.map, hone, ScanLine.request]

/-- **The invocation**: what has been noted at both places makes it exactly when there is one
layout and no path in the environment is in the way. -/
theorem build_eq_ok_iff (houter : Admits l.outer []) (hinner : Admits l.inner l.files)
    {i : Invocation} :
    (Invocation.build environment l.outerNoted l.innerNoted fun config =>
        (scanRequest config l.innerNoted).map .scan) = .ok i ↔
      ¬ (l.gives .html ∧ l.gives .pretty) ∧
        (environment = some "" → l.gives .config ∧ .config ∈ l.outer.map Prod.fst) ∧
        l.invocation environment = i := by
  have hverbosity : verbosityOf l.outerNoted l.innerNoted = l.verbosity := by
    have houterCount : l.outerNoted.count .verbose = (l.outer.map Prod.fst).count .verbose :=
      count_noted l.outer []
    have hinnerCount : l.innerNoted.count .verbose = (l.inner.map Prod.fst).count .verbose :=
      count_noted l.inner l.files
    simp only [verbosityOf, ScanLine.verbosity, has_innerNoted, houterCount, hinnerCount]
  have hjson : (l.innerNoted.has .json || l.outerNoted.has .json) = l.json := by
    rw [Bool.eq_iff_iff, Bool.or_eq_true, has_outerNoted, has_innerNoted, ScanLine.json,
      decide_eq_true_eq, List.map_append, List.mem_append, or_comm]
    rfl
  rw [Invocation.build]
  cases hconfig : configPath environment l.outerNoted l.innerNoted with
  | error stop =>
    constructor
    · nofun
    · rintro ⟨-, hempty, -⟩
      cases hconfig.symm.trans ((configPath_eq_ok_iff houter hinner).2 ⟨hempty, rfl⟩)
  | ok config =>
    obtain ⟨hempty, rfl⟩ := (configPath_eq_ok_iff houter hinner).1 hconfig
    dsimp only
    cases hrequest : scanRequest (l.config environment) l.innerNoted with
    | error stop =>
      constructor
      · nofun
      · rintro ⟨hone, -, -⟩
        cases hrequest.symm.trans ((scanRequest_eq_ok_iff hinner).2 ⟨hone, rfl⟩)
    | ok request =>
      obtain ⟨hone, rfl⟩ := (scanRequest_eq_ok_iff hinner).1 hrequest
      rw [hverbosity, hjson]
      exact ⟨fun h => ⟨hone, hempty, Except.ok.inj h⟩, fun h => congrArg _ h.2.2⟩

/-- When the command's name comes first, everything is written behind it. -/
theorem Written.of_cons {rest : List String} (h : l.Written ("scan" :: rest)) :
    l.outer = [] ∧ Writes Switch.ofScan .files rest l.inner l.files := by
  obtain ⟨outer, inner, files⟩ := l
  obtain ⟨front, behind, hargs, hfront, hbehind⟩ := h
  cases front with
  | nil =>
    obtain rfl := (List.cons.inj hargs).2
    cases hfront
    exact ⟨rfl, hbehind⟩
  | cons arg front =>
    obtain rfl : "scan" = arg := (List.cons.inj hargs).1
    exact absurd (.inr (by decide)) hfront.not_isPlain

/-- What is noted at both places when a command line asks for a scan. -/
theorem Asks.noted (h : l.Asks environment args) :
    ∃ behind, readPlace Switch.outer .command {} args = .ok (l.outerNoted, "scan" :: behind) ∧
      readPlace Switch.ofScan .files {} behind = .ok (l.innerNoted, []) := by
  obtain ⟨front, behind, rfl, hfront, hbehind⟩ := h.written
  have hname : Ends .command ("scan" :: behind) := .inr ⟨rfl, "scan", behind, rfl, .inr (by decide)⟩
  refine ⟨behind, ?_, ?_⟩
  · exact (readPlace_eq_ok_iff (by decide)).2 ⟨front, l.outer, [], rfl, hname, hfront, h.outer, rfl⟩
  · exact (readPlace_eq_ok_iff (by decide)).2
      ⟨behind, l.inner, l.files, (List.append_nil _).symm, .inl rfl, hbehind, h.inner, rfl⟩

/-- **A command line that asks for a scan is read as this scan.** -/
theorem Asks.ofArguments (h : l.Asks environment args) :
    Invocation.ofArguments environment args = .ok (l.invocation environment) := by
  obtain ⟨behind, houter, hinner⟩ := h.noted
  rw [Invocation.ofArguments, houter]
  simp only [hinner]
  exact (build_eq_ok_iff h.outer h.inner).2 ⟨h.layout, h.environment, rfl⟩

/-- A command line asks for one scan only. -/
theorem Asks.unique (h : l.Asks environment args) (h' : l'.Asks environment args) : l = l' := by
  obtain ⟨behind, houter, hinner⟩ := h.noted
  obtain ⟨behind', houter', hinner'⟩ := h'.noted
  obtain ⟨hsame, hbehind⟩ := Prod.mk.inj (Except.ok.inj (houter.symm.trans houter'))
  obtain rfl : behind = behind' := (List.cons.inj hbehind).2
  obtain ⟨hsame', -⟩ := Prod.mk.inj (Except.ok.inj (hinner.symm.trans hinner'))
  obtain ⟨hinnerSwitches, hfiles⟩ := Given.mk.inj hsame'
  have houterSwitches := (Given.mk.inj hsame).1
  cases l
  cases l'
  exact congr (congrArg₂ ScanLine.mk (List.reverse_inj.1 houterSwitches)
    (List.reverse_inj.1 hinnerSwitches)) (List.reverse_inj.1 hfiles)

end ScanLine

section Reading

variable {environment : Option String} {args : List String} {verbosity : Nat} {json : Bool}
  {request : ScanRequest}

/-- A scan is read at two places, in front of its name and behind it. -/
theorem exists_readPlace_of_ofArguments
    (h : Invocation.ofArguments environment args = .ok ⟨verbosity, json, .scan request⟩) :
    ∃ outer behind inner tail,
      readPlace Switch.outer .command {} args = .ok (outer, "scan" :: behind) ∧
      readPlace Switch.ofScan .files {} behind = .ok (inner, tail) ∧
      (Invocation.build environment outer inner fun config =>
        (scanRequest config inner).map .scan) = .ok ⟨verbosity, json, .scan request⟩ := by
  rw [Invocation.ofArguments] at h
  cases houter : readPlace Switch.outer .command {} args with
  | error stop => rw [houter] at h; cases h
  | ok place =>
    obtain ⟨outer, tail⟩ := place
    rw [houter] at h
    cases tail with
    | nil => cases h
    | cons name behind =>
      dsimp only at h
      split at h
      · -- the command for the version makes no scan
        cases hinner : readPlace Switch.shared .nothing {} behind with
        | error stop => rw [hinner] at h; cases h
        | ok place =>
          rw [hinner] at h
          dsimp only [Invocation.build] at h
          cases hconfig : configPath environment outer place.1 with
          | error stop => rw [hconfig] at h; cases h
          | ok config => rw [hconfig] at h; cases h
      · split at h
        · next hscan =>
          subst hscan
          cases hinner : readPlace Switch.ofScan .files {} behind with
          | error stop => rw [hinner] at h; cases h
          | ok place =>
            rw [hinner] at h
            exact ⟨outer, behind, place.1, place.2, rfl, hinner, h⟩
        · split at h <;> cases h

/-- **The command lines of a scan** are those that ask for one. -/
theorem ofArguments_eq_ok_iff :
    Invocation.ofArguments environment args = .ok ⟨verbosity, json, .scan request⟩ ↔
      ∃ l : ScanLine, l.Asks environment args ∧
        l.invocation environment = ⟨verbosity, json, .scan request⟩ := by
  constructor
  · intro h
    obtain ⟨outer, behind, inner, tail, houter, hinner, hbuild⟩ :=
      exists_readPlace_of_ofArguments h
    obtain ⟨front, switches, paths, rfl, -, hfront, hadmits, rfl⟩ :=
      (readPlace_eq_ok_iff (by decide)).1 houter
    obtain ⟨behind, switches', files, rfl, hends, hbehind, hadmits', rfl⟩ :=
      (readPlace_eq_ok_iff (by decide)).1 hinner
    obtain rfl := hfront.paths_eq_nil
    obtain rfl : tail = [] := hends.resolve_right (by simp)
    let l : ScanLine := ⟨switches, switches', files⟩
    obtain ⟨hone, hempty, hl⟩ := (l.build_eq_ok_iff hadmits hadmits').1 hbuild
    rw [List.append_nil]
    exact ⟨l, ⟨⟨front, behind, rfl, hfront, hbehind⟩, hadmits, hadmits', hone, hempty⟩, hl⟩
  · rintro ⟨l, hasks, hl⟩
    rw [← hl]
    exact hasks.ofArguments

end Reading

end ImportMaps.CommandLine
