import ImportMaps.CommandLine.Invocation
import ImportMaps.Proofs.CommandLine.Argument
import Mathlib.Data.List.Forall2
import Mathlib.Data.List.Nodup

/-!
# ImportMaps — what may be written at one place of a command line

A place holds switches and, behind the name of a scan, paths. A switch can be written in
four ways: by its full name, by its letter in a cluster of letters, with its value behind
an equals sign, or with its value as the next argument. A path stands for itself unless it
looks like a switch, and behind two dashes even then. `Writes` says this as a grammar: it
relates arguments to the switches and the paths that they are written for.

Not everything that can be written may be given (`Admits`): most switches only once, a
path never empty, and none that is a request of its own.

Main result:

* `readPlace_eq_ok_iff` — the reader of a place accepts exactly what is written by this
  grammar and may be given, and what it has noted then is what the arguments are written for.
-/

namespace ImportMaps.CommandLine

/-! ## What may be given -/

/-- What may be given at one place: switches with their values, and paths. -/
structure Admits (switches : List (Switch × String)) (paths : List String) : Prop where
  /-- No switch is a request that is answered on its own. -/
  requests : ∀ given ∈ switches, given.1.request? = none
  once     : ((switches.map Prod.fst).filter (!·.repeatable)).Nodup
  values   : ∀ given ∈ switches, given.1.takesPath = true → given.2 ≠ ""
  paths    : "" ∉ paths

instance (switches : List (Switch × String)) (paths : List String) :
    Decidable (Admits switches paths) :=
  decidable_of_iff
    ((∀ given ∈ switches, given.1.request? = none) ∧
      ((switches.map Prod.fst).filter (!·.repeatable)).Nodup ∧
      (∀ given ∈ switches, given.1.takesPath = true → given.2 ≠ "") ∧ "" ∉ paths)
    ⟨fun ⟨ha, hb, hc, hd⟩ => ⟨ha, hb, hc, hd⟩, fun ⟨ha, hb, hc, hd⟩ => ⟨ha, hb, hc, hd⟩⟩

variable {switches : List (Switch × String)} {paths : List String} {s : Switch} {value : String}

/-- Every switch that may not be repeated is given once at most. -/
theorem nodup_filter_repeatable_iff :
    ((switches.map Prod.fst).filter (!·.repeatable)).Nodup ↔
      ∀ s : Switch, s.repeatable = false → (switches.map Prod.fst).count s ≤ 1 := by
  rw [List.nodup_iff_count_le_one]
  refine forall_congr' fun s => ?_
  cases hs : s.repeatable with
  | true =>
    have hnone : s ∉ (switches.map Prod.fst).filter (!·.repeatable) := by
      simp [List.mem_filter, hs]
    simp [List.count_eq_zero.2 hnone]
  | false =>
    rw [List.count_filter (by simp [hs])]
    exact ⟨fun h _ => h, fun h => h rfl⟩

/-- One more switch: it is no request, has a value if it needs one, and is not given yet
unless it may be repeated. -/
theorem admits_cons_iff :
    Admits ((s, value) :: switches) paths ↔
      s.request? = none ∧ (s ∈ switches.map Prod.fst → s.repeatable = true) ∧
        (s.takesPath = true → value ≠ "") ∧ Admits switches paths := by
  have honce : (((s, value) :: switches).map Prod.fst |>.filter (!·.repeatable)).Nodup ↔
      (s ∈ switches.map Prod.fst → s.repeatable = true) ∧
        ((switches.map Prod.fst).filter (!·.repeatable)).Nodup := by
    rw [List.map_cons]
    cases hrepeatable : s.repeatable with
    | true => simp [hrepeatable]
    | false => simp [hrepeatable]
  constructor
  · rintro ⟨hrequests, hnodup, hvalues, hpaths⟩
    obtain ⟨hrequest, hrequests⟩ := List.forall_mem_cons.1 hrequests
    obtain ⟨hvalue, hvalues⟩ := List.forall_mem_cons.1 hvalues
    obtain ⟨hs, hnodup⟩ := honce.1 hnodup
    exact ⟨hrequest, hs, hvalue, hrequests, hnodup, hvalues, hpaths⟩
  · rintro ⟨hrequest, hs, hvalue, hrequests, hnodup, hvalues, hpaths⟩
    exact ⟨List.forall_mem_cons.2 ⟨hrequest, hrequests⟩, honce.2 ⟨hs, hnodup⟩,
      List.forall_mem_cons.2 ⟨hvalue, hvalues⟩, hpaths⟩

theorem admits_path_iff {path : String} :
    Admits switches (path :: paths) ↔ path ≠ "" ∧ Admits switches paths := by
  constructor
  · rintro ⟨hrequests, honce, hvalues, hpaths⟩
    obtain ⟨hpath, hpaths⟩ := List.ne_and_not_mem_of_not_mem_cons hpaths
    exact ⟨hpath.symm, hrequests, honce, hvalues, hpaths⟩
  · rintro ⟨hpath, hrequests, honce, hvalues, hpaths⟩
    exact ⟨hrequests, honce, hvalues, List.not_mem_cons_of_ne_of_not_mem hpath.symm hpaths⟩

/-- The order does not matter. -/
theorem admits_reverse_iff : Admits switches.reverse paths.reverse ↔ Admits switches paths := by
  constructor
  · rintro ⟨hrequests, honce, hvalues, hpaths⟩
    simp only [List.mem_reverse, List.map_reverse, List.filter_reverse, List.nodup_reverse] at *
    exact ⟨hrequests, honce, hvalues, hpaths⟩
  · rintro ⟨hrequests, honce, hvalues, hpaths⟩
    constructor <;>
      simpa only [List.mem_reverse, List.map_reverse, List.filter_reverse, List.nodup_reverse]

namespace Given

variable {g g' : Given}

/-- What has been noted may be given. -/
def Fits (g : Given) : Prop :=
  Admits g.switches g.plain

/-- What has been noted once more switches and paths have been read. -/
def more (g : Given) (switches : List (Switch × String)) (paths : List String) : Given :=
  ⟨switches.reverse ++ g.switches, paths.reverse ++ g.plain⟩

theorem more_more (g : Given) (switches switches' : List (Switch × String))
    (paths paths' : List String) :
    (g.more switches paths).more switches' paths' =
      g.more (switches ++ switches') (paths ++ paths') := by
  simp [more]

theorem more_switch (g : Given) (s : Switch) (value : String)
    (switches : List (Switch × String)) (paths : List String) :
    g.more ((s, value) :: switches) paths =
      (g.more [(s, value)] []).more switches paths := by
  rw [more_more]
  rfl

theorem more_path (g : Given) (path : String) (switches : List (Switch × String))
    (paths : List String) :
    g.more switches (path :: paths) = (g.more [] [path]).more switches paths := by
  rw [more_more]
  rfl

/-- What may be given with more besides may be given without it. -/
theorem Fits.of_more (h : (g.more switches paths).Fits) : g.Fits := by
  have hpaths : Admits g.switches (paths.reverse ++ g.plain) := by
    have hall : Admits (switches.reverse ++ g.switches) (paths.reverse ++ g.plain) := h
    generalize switches.reverse = front at hall
    induction front with
    | nil => exact hall
    | cons given front ih => exact ih (admits_cons_iff.1 hall).2.2.2
  generalize paths.reverse = front at hpaths
  induction front with
  | nil => exact hpaths
  | cons path front ih => exact ih (admits_path_iff.1 hpaths).2

theorem has_iff : g.has s = true ↔ s ∈ g.switches.map Prod.fst := by
  rw [has, value?, List.lookup_isSome_iff, List.mem_map]
  simp only [beq_iff_eq, eq_comm (a := s)]

/-- **Taking note of a switch**: it succeeds exactly when what is noted then may be
given. -/
theorem add_eq_ok_iff (h : g.Fits) :
    g.add s value = .ok g' ↔ g' = g.more [(s, value)] [] ∧ g'.Fits := by
  have hfits : (g.more [(s, value)] []).Fits ↔ s.request? = none ∧
      (g.has s = true → s.repeatable = true) ∧ (s.takesPath = true → value ≠ "") := by
    rw [has_iff]
    constructor
    · intro hmore
      obtain ⟨hrequest, honce, hvalue, -⟩ := admits_cons_iff.1 hmore
      exact ⟨hrequest, honce, hvalue⟩
    · rintro ⟨hrequest, honce, hvalue⟩
      exact admits_cons_iff.2 ⟨hrequest, honce, hvalue, h⟩
  have hnoted : g.add s value = .ok g' ↔
      (g.more [(s, value)] []).Fits ∧ g.more [(s, value)] [] = g' := by
    -- the three things looked at are the three that keep a switch from fitting
    rw [hfits, add]
    cases s.request? with
    | some stop => simp
    | none =>
      dsimp only
      split
      · next hrepeated =>
        rw [Bool.and_eq_true, Bool.not_eq_true'] at hrepeated
        simp [hrepeated]
      · next hnotRepeated =>
        have honce : g.has s = true → s.repeatable = true := by
          simpa using hnotRepeated
        split
        · next hempty =>
          rw [Bool.and_eq_true, decide_eq_true_eq] at hempty
          simp [hempty]
        · next hnotEmpty =>
          have hvalue : s.takesPath = true → value ≠ "" := by
            simpa using hnotEmpty
          exact ⟨fun hg => ⟨⟨rfl, honce, hvalue⟩, Except.ok.inj hg⟩, fun hg => congrArg _ hg.2⟩
  rw [hnoted]
  constructor
  · rintro ⟨hmore, rfl⟩
    exact ⟨rfl, hmore⟩
  · rintro ⟨rfl, hmore⟩
    exact ⟨hmore, rfl⟩

/-- A letter stands for a switch that is allowed. -/
def Abbreviates (allowed : List Switch) (letter : Char) (s : Switch) : Prop :=
  s ∈ allowed ∧ s.letter? = some letter

/-- Taking note of a cluster, by induction on its letters. -/
theorem addLetters_eq_ok_iff {allowed : List Switch} {letters : List Char} (h : g.Fits) :
    g.addLetters allowed letters = .ok g' ↔
      ∃ named, List.Forall₂ (Abbreviates allowed) letters named ∧
        g' = g.more (named.map (·, "")) [] ∧ g'.Fits := by
  induction letters generalizing g g' with
  | nil =>
    rw [addLetters]
    constructor
    · rintro ⟨⟩
      exact ⟨[], .nil, rfl, h⟩
    · rintro ⟨named, hnamed, rfl, -⟩
      cases hnamed
      rfl
  | cons c letters ih =>
    rw [addLetters]
    cases hfound : allowed.find? (·.letter? = some c) with
    | none =>
      constructor
      · nofun
      · rintro ⟨named, hnamed, -, -⟩
        cases hnamed with
        | cons hfirst _ =>
          rw [Switch.find?_letter_eq_some_iff.2 hfirst] at hfound
          cases hfound
    | some s =>
      have hs : Abbreviates allowed c s := Switch.find?_letter_eq_some_iff.1 hfound
      dsimp only
      constructor
      · intro hrest
        cases hadd : g.add s "" with
        | error stop => rw [hadd] at hrest; cases hrest
        | ok first =>
          rw [hadd] at hrest
          obtain ⟨rfl, hfirst⟩ := (add_eq_ok_iff h).1 hadd
          obtain ⟨named, hnamed, rfl, hfits⟩ := (ih hfirst).1 hrest
          refine ⟨s :: named, .cons hs hnamed, ?_, hfits⟩
          rw [more_more]
          rfl
      · rintro ⟨named, hnamed, rfl, hfits⟩
        cases hnamed with
        | @cons _ s' _ named hfirst hnamed =>
          obtain rfl : s' = s := Switch.eq_of_letter?_eq hfirst.2 hs.2
          have hall : g.more ((s' :: named).map (·, "")) [] =
              (g.more [(s', "")] []).more (named.map (·, "")) [] := g.more_switch ..
          rw [hall] at hfits ⊢
          rw [(add_eq_ok_iff h).2 ⟨rfl, hfits.of_more⟩]
          exact (ih hfits.of_more).2 ⟨named, hnamed, rfl, hfits⟩

theorem addPlain_eq_ok_iff {texts : List String} (h : g.Fits) :
    g.addPlain texts = .ok g' ↔ g' = g.more [] texts ∧ g'.Fits := by
  induction texts generalizing g with
  | nil =>
    rw [addPlain]
    constructor
    · rintro ⟨⟩
      exact ⟨rfl, h⟩
    · rintro ⟨rfl, -⟩
      rfl
  | cons text texts ih =>
    rw [addPlain, more_path]
    by_cases htext : text = ""
    · rw [if_pos htext]
      constructor
      · nofun
      · rintro ⟨rfl, hfits⟩
        exact absurd htext (admits_path_iff.1 hfits.of_more).1
    · rw [if_neg htext]
      exact ih (admits_path_iff.2 ⟨htext, h⟩)

end Given

/-! ## What may be written -/

/-- Arguments as they may be written at a place, with the switches and the paths that they
are written for. -/
inductive Writes (allowed : List Switch) :
    Room → List String → List (Switch × String) → List String → Prop where
  | nil {room : Room} : Writes allowed room [] [] []
  /-- A switch without a value, by its full name. -/
  | flag {room : Room} {arg : String} {args : List String} {s : Switch}
      {switches : List (Switch × String)} {paths : List String}
      (harg : arg = "--" ++ s.name) (hs : s ∈ allowed) (hvalue : s.takesValue = false)
      (rest : Writes allowed room args switches paths) :
      Writes allowed room (arg :: args) ((s, "") :: switches) paths
  /-- Switches by their letters, in one argument. -/
  | cluster {room : Room} {arg : String} {args : List String} {letters : List Char}
      {named : List Switch} {switches : List (Switch × String)} {paths : List String}
      (harg : arg.toList = '-' :: letters) (hletters : letters ≠ [])
      (hnamed : List.Forall₂ (Given.Abbreviates allowed) letters named)
      (rest : Writes allowed room args switches paths) :
      Writes allowed room (arg :: args) (named.map (·, "") ++ switches) paths
  /-- A switch with its value behind an equals sign. -/
  | joined {room : Room} {arg value : String} {args : List String} {s : Switch}
      {switches : List (Switch × String)} {paths : List String}
      (harg : arg = "--" ++ s.name ++ "=" ++ value) (hs : s ∈ allowed)
      (hvalue : s.takesValue = true) (rest : Writes allowed room args switches paths) :
      Writes allowed room (arg :: args) ((s, value) :: switches) paths
  /-- A switch with its value as the next argument. -/
  | apart {room : Room} {arg value : String} {args : List String} {s : Switch}
      {switches : List (Switch × String)} {paths : List String}
      (harg : arg = "--" ++ s.name) (hs : s ∈ allowed) (hvalue : s.takesValue = true)
      (hplain : IsPlain value) (rest : Writes allowed room args switches paths) :
      Writes allowed room (arg :: value :: args) ((s, value) :: switches) paths
  | path {path : String} {args : List String} {switches : List (Switch × String)}
      {paths : List String} (hplain : IsPlain path)
      (rest : Writes allowed .files args switches paths) :
      Writes allowed .files (path :: args) switches (path :: paths)
  /-- Everything behind two dashes is a path. -/
  | paths {paths : List String} : Writes allowed .files ("--" :: paths) [] paths

/-- Where a place ends: at the end of the command line, or in front of a command's name. -/
def Ends (room : Room) (tail : List String) : Prop :=
  tail = [] ∨ room = .command ∧ ∃ name rest, tail = name :: rest ∧ IsPlain name

/-- No letter of a switch is a dash. -/
theorem looks_cluster {allowed : List Switch} {arg : String} {letters : List Char}
    {named : List Switch} (harg : arg.toList = '-' :: letters) (hletters : letters ≠ [])
    (hnamed : List.Forall₂ (Given.Abbreviates allowed) letters named) :
    Looks arg (.short letters) := by
  cases hnamed with
  | nil => exact absurd rfl hletters
  | @cons c s letters named hfirst _ =>
    refine .short harg ?_
    rintro rfl
    exact s.letter?_ne_dash hfirst.2

/-! ## The reader of a place -/

section Reader

variable {allowed : List Switch} {room : Room} {g g' : Given} {args tail : List String}

theorem readPlace_of_ends (h : Ends room tail) (g : Given) :
    readPlace allowed room g tail = .ok (g, tail) := by
  rcases h with rfl | ⟨rfl, name, rest, rfl, hname⟩
  · rfl
  · rw [readPlace, ofString_eq_iff.2 (.plain hname)]

/-- **What is written is read**, when it may be given. -/
theorem Writes.readPlace_append (h : Writes allowed room args switches paths)
    (htail : Ends room tail) (hfits : (g.more switches paths).Fits) :
    readPlace allowed room g (args ++ tail) = .ok (g.more switches paths, tail) := by
  -- what is noted first fits because it fits with everything that follows
  induction h generalizing g with
  | nil => exact readPlace_of_ends htail g
  | flag harg hs hvalue rest ih =>
    rw [Given.more_switch] at hfits ⊢
    have hadd := (Given.add_eq_ok_iff hfits.of_more.of_more).2 ⟨rfl, hfits.of_more⟩
    rw [List.cons_append, readPlace.eq_def]
    simp only [harg, ofString_eq_iff.2 (looks_flag _), Switch.find?_name_eq_some_iff.2 ⟨hs, rfl⟩,
      hvalue, hadd]
    exact ih htail hfits
  | @cluster _ arg _ letters named switches paths harg hletters hnamed rest ih =>
    have hall : g.more (named.map (·, "") ++ switches) paths =
        (g.more (named.map (·, "")) []).more switches paths := by
      rw [Given.more_more, List.nil_append]
    rw [hall] at hfits ⊢
    have hadd := (Given.addLetters_eq_ok_iff hfits.of_more.of_more).2
      ⟨named, hnamed, rfl, hfits.of_more⟩
    rw [List.cons_append, readPlace.eq_def]
    simp only [ofString_eq_iff.2 (looks_cluster harg hletters hnamed), hadd]
    exact ih htail hfits
  | joined harg hs hvalue rest ih =>
    rw [Given.more_switch] at hfits ⊢
    have hadd := (Given.add_eq_ok_iff hfits.of_more.of_more).2 ⟨rfl, hfits.of_more⟩
    rw [List.cons_append, readPlace.eq_def]
    simp only [harg, ofString_eq_iff.2 (looks_joined _ _),
      Switch.find?_name_eq_some_iff.2 ⟨hs, rfl⟩, hvalue, String.ofList_toList, hadd]
    exact ih htail hfits
  | apart harg hs hvalue hplain rest ih =>
    rw [Given.more_switch] at hfits ⊢
    have hadd := (Given.add_eq_ok_iff hfits.of_more.of_more).2 ⟨rfl, hfits.of_more⟩
    rw [List.cons_append, List.cons_append, readPlace.eq_def]
    simp only [harg, ofString_eq_iff.2 (looks_flag _), Switch.find?_name_eq_some_iff.2 ⟨hs, rfl⟩,
      hvalue, canBeValue_iff.2 hplain, if_true, hadd]
    exact ih htail hfits
  | path hplain rest ih =>
    rw [Given.more_path] at hfits ⊢
    have hadd := (Given.addPlain_eq_ok_iff hfits.of_more.of_more).2 ⟨rfl, hfits.of_more⟩
    rw [List.cons_append, readPlace.eq_def]
    simp only [ofString_eq_iff.2 (.plain hplain), hadd]
    exact ih htail hfits
  | paths =>
    -- nothing can follow, as everything behind the two dashes is a path
    obtain rfl : tail = [] := htail.resolve_right (by simp)
    have hadd := (Given.addPlain_eq_ok_iff hfits.of_more).2 ⟨rfl, hfits⟩
    rw [List.append_nil, readPlace.eq_def]
    simp only [ofString_eq_iff.2 .endOfSwitches, hadd]
    rfl

/-- **What is read is written**: what the reader has noted is what the arguments that it
has passed are written for. -/
theorem writes_of_readPlace (h : readPlace allowed room g args = .ok (g', tail)) (hg : g.Fits)
    (hroom : room ≠ .nothing) :
    ∃ front switches paths, args = front ++ tail ∧ Ends room tail ∧
      Writes allowed room front switches paths ∧ g' = g.more switches paths ∧ g'.Fits := by
  -- along the reader, one argument at a time; refusals are closed by `cases h`
  fun_induction readPlace allowed room g args with
  | case1 g =>
    cases h
    exact ⟨[], [], [], rfl, .inl rfl, .nil, rfl, hg⟩
  | case2 g arg hlook texts hfiles =>
    -- two dashes in front of paths
    subst hfiles
    cases ofString_eq_iff.1 hlook
    cases hadd : g.addPlain texts with
    | error stop => rw [hadd] at h; cases h
    | ok last =>
      rw [hadd] at h
      cases h
      obtain ⟨rfl, hfits⟩ := (Given.addPlain_eq_ok_iff hg).1 hadd
      exact ⟨"--" :: texts, [], texts, (List.append_nil _).symm, .inl rfl, .paths, rfl, hfits⟩
  | case3 => cases h
  | case4 _ _ _ hnothing => exact absurd hnothing hroom
  | case5 => cases h
  | case6 g arg rest text hlook hcommand =>
    -- the name of a command
    subst hcommand
    cases h
    cases ofString_eq_iff.1 hlook with
    | plain hplain =>
      exact ⟨[], [], [], rfl, .inr ⟨rfl, arg, rest, rfl, hplain⟩, .nil, rfl, hg⟩
  | case7 => cases h
  | case8 g arg args text hlook hfiles first hadd ih =>
    -- a path
    subst hfiles
    cases ofString_eq_iff.1 hlook with
    | plain hplain =>
      obtain ⟨rfl, hfirst⟩ := (Given.addPlain_eq_ok_iff hg).1 hadd
      obtain ⟨front, switches, paths, rfl, hends, hwrites, rfl, hfits⟩ := ih h hfirst
      exact ⟨arg :: front, switches, arg :: paths, rfl, hends, .path hplain hwrites,
        (g.more_path ..).symm, hfits⟩
  | case9 => cases h
  | case10 => cases h
  | case11 g arg args letters hlook first hadd ih =>
    cases ofString_eq_iff.1 hlook with
    | @short _ c letters harg hc =>
      obtain ⟨named, hnamed, rfl, hfirst⟩ := (Given.addLetters_eq_ok_iff hg).1 hadd
      obtain ⟨front, switches, paths, rfl, hends, hwrites, rfl, hfits⟩ := ih h hfirst
      refine ⟨arg :: front, named.map (·, "") ++ switches, paths, rfl, hends,
        .cluster harg (List.cons_ne_nil _ _) hnamed hwrites, ?_, hfits⟩
      rw [Given.more_more, List.nil_append]
  | case12 => cases h
  | case13 => cases h
  | case14 g arg name s hfound value args hvalue first hadd hlook ih =>
    -- a switch with its value in the same argument
    obtain ⟨hs, rfl⟩ := Switch.find?_name_eq_some_iff.1 hfound
    rcases (ofString_eq_iff.1 hlook).eq_of_long with ⟨hnone, -⟩ | ⟨text, htext, harg⟩
    · cases hnone
    · obtain rfl := Option.some.inj htext
      obtain ⟨rfl, hfirst⟩ := (Given.add_eq_ok_iff hg).1 hadd
      obtain ⟨front, switches, paths, rfl, hends, hwrites, rfl, hfits⟩ := ih h hfirst
      exact ⟨arg :: front, (s, String.ofList value) :: switches, paths, rfl, hends,
        .joined harg hs hvalue hwrites, (g.more_switch ..).symm, hfits⟩
  | case15 => cases h
  | case16 => cases h
  | case17 g arg name s hfound value args hvalue hplain first hadd hlook ih =>
    -- a switch with its value in the next argument
    obtain ⟨hs, rfl⟩ := Switch.find?_name_eq_some_iff.1 hfound
    rcases (ofString_eq_iff.1 hlook).eq_of_long with ⟨-, harg⟩ | ⟨text, htext, -⟩
    · obtain ⟨rfl, hfirst⟩ := (Given.add_eq_ok_iff hg).1 hadd
      obtain ⟨front, switches, paths, rfl, hends, hwrites, rfl, hfits⟩ := ih h hfirst
      exact ⟨arg :: value :: front, (s, value) :: switches, paths, rfl, hends,
        .apart harg hs hvalue (canBeValue_iff.1 hplain) hwrites, (g.more_switch ..).symm, hfits⟩
    · cases htext
  | case18 => cases h
  | case19 => cases h
  | case20 => cases h
  | case21 g arg name s hfound args hvalue first hadd hlook ih =>
    -- a switch without a value
    obtain ⟨hs, rfl⟩ := Switch.find?_name_eq_some_iff.1 hfound
    rcases (ofString_eq_iff.1 hlook).eq_of_long with ⟨-, harg⟩ | ⟨text, htext, -⟩
    · obtain ⟨rfl, hfirst⟩ := (Given.add_eq_ok_iff hg).1 hadd
      obtain ⟨front, switches, paths, rfl, hends, hwrites, rfl, hfits⟩ := ih h hfirst
      exact ⟨arg :: front, (s, "") :: switches, paths, rfl, hends, .flag harg hs hvalue hwrites,
        (g.more_switch ..).symm, hfits⟩
    · cases htext

/-- **The reader of a place** accepts exactly what is written and may be given. -/
theorem readPlace_eq_ok_iff (hroom : room ≠ .nothing) :
    readPlace allowed room {} args = .ok (g, tail) ↔
      ∃ front switches paths, args = front ++ tail ∧ Ends room tail ∧
        Writes allowed room front switches paths ∧ Admits switches paths ∧
          g = ⟨switches.reverse, paths.reverse⟩ := by
  have hmore : ∀ switches paths, Given.more {} switches paths =
      ⟨switches.reverse, paths.reverse⟩ := by
    intro switches paths
    rw [Given.more, List.append_nil, List.append_nil]
  constructor
  · intro h
    obtain ⟨front, switches, paths, hargs, hends, hwrites, rfl, hfits⟩ :=
      writes_of_readPlace h (show Admits [] [] by decide) hroom
    rw [hmore] at hfits
    exact ⟨front, switches, paths, hargs, hends, hwrites, admits_reverse_iff.1 hfits,
      hmore switches paths⟩
  · rintro ⟨front, switches, paths, rfl, hends, hwrites, hadmits, rfl⟩
    rw [← hmore]
    refine hwrites.readPlace_append hends ?_
    rw [hmore]
    exact admits_reverse_iff.2 hadmits

end Reader

end ImportMaps.CommandLine
