import ImportMaps.Proofs.CommandLine.Scan

/-!
# ImportMaps — asking for more detail does not interfere

How much of what a run does is logged, and whether it is logged as JSON, is asked for by
two switches (`Switch.isDetail`). Neither has a part in what the run does: a scan with the
same request ends in the same way, with the same output or the same message
(`ending_outcome_congr`).

Two lines that are the same without these switches (`ScanLine.undetailed`) make the same
request, wherever the switches stand and however they are written. So a line can be given
more detail, or less, at both places (`ScanLine.Asks.of_undetailed`). In front of the
command's name this can be done for any line that has nothing there (`ofArguments_detailed`).
-/

namespace ImportMaps.CommandLine

/-! ## Lines without their detail -/

/-- The switch asks for detail, or for JSON. -/
def Switch.isDetail (s : Switch) : Bool :=
  s = .verbose || s = .json

/-- Such a switch is no request, has no value, and only JSON is not repeated. -/
theorem Switch.of_isDetail {s : Switch} (h : s.isDetail = true) :
    s.request? = none ∧ s.takesPath = false ∧ (s.repeatable = false → s = .json) := by
  revert h
  cases s <;> decide

section Switches

variable {switches : List (Switch × String)} {paths : List String} {s : Switch}

/-- The other switches keep their values. -/
theorem lookup_filter_isDetail (hs : s.isDetail = false) :
    (switches.filter (!·.1.isDetail)).lookup s = switches.lookup s := by
  induction switches with
  | nil => rfl
  | cons given switches ih =>
    obtain ⟨t, value⟩ := given
    cases ht : t.isDetail with
    | true =>
      have hne : s ≠ t := by
        rintro rfl
        rw [ht] at hs
        cases hs
      -- the switch that is dropped is not the one looked for
      rw [List.filter_cons_of_neg (by simp [ht]), ih, List.lookup_cons, beq_false_of_ne hne]
    | false => rw [List.filter_cons_of_pos (by simp [ht]), List.lookup_cons, List.lookup_cons, ih]

theorem map_filter_isDetail :
    (switches.filter (!·.1.isDetail)).map Prod.fst =
      (switches.map Prod.fst).filter (!·.isDetail) := by
  rw [List.filter_map]
  rfl

theorem mem_filter_isDetail_iff (hs : s.isDetail = false) :
    s ∈ (switches.filter (!·.1.isDetail)).map Prod.fst ↔ s ∈ switches.map Prod.fst := by
  rw [map_filter_isDetail, List.mem_filter, hs]
  exact and_iff_left rfl

/-- Asking for detail takes nothing away from what may be given, but JSON is asked for
once at most. -/
theorem admits_iff_filter_isDetail :
    Admits switches paths ↔
      Admits (switches.filter (!·.1.isDetail)) paths ∧
        (switches.map Prod.fst).count .json ≤ 1 := by
  have hkeep : ∀ given ∈ switches, given.1.isDetail = false →
      given ∈ switches.filter (!·.1.isDetail) := by
    intro given hgiven hother
    exact List.mem_filter.2 ⟨hgiven, by simp [hother]⟩
  constructor
  · intro h
    refine ⟨⟨?_, ?_, ?_, h.paths⟩, nodup_filter_repeatable_iff.1 h.once _ rfl⟩
    · exact fun given hgiven => h.requests given (List.mem_of_mem_filter hgiven)
    · rw [map_filter_isDetail]
      exact h.once.sublist (List.filter_sublist.filter _)
    · exact fun given hgiven => h.values given (List.mem_of_mem_filter hgiven)
  · rintro ⟨h, hjson⟩
    -- each switch either asks for detail or is among the others
    refine ⟨?_, nodup_filter_repeatable_iff.2 ?_, ?_, h.paths⟩
    · intro given hgiven
      cases hs : given.1.isDetail with
      | true => exact (Switch.of_isDetail hs).1
      | false => exact h.requests given (hkeep given hgiven hs)
    · intro s honce
      cases hs : s.isDetail with
      | true => rwa [(Switch.of_isDetail hs).2.2 honce]
      | false =>
        have hone := nodup_filter_repeatable_iff.1 h.once s honce
        rwa [map_filter_isDetail, List.count_filter (by simp [hs])] at hone
    · intro given hgiven htakes
      cases hs : given.1.isDetail with
      | true =>
        rw [(Switch.of_isDetail hs).2.1] at htakes
        cases htakes
      | false => exact h.values given (hkeep given hgiven hs) htakes

end Switches

namespace ScanLine

variable {l l' : ScanLine} {environment : Option String} {args args' : List String}

/-- The line without the switches that ask for detail. -/
def undetailed (l : ScanLine) : ScanLine where
  outer := l.outer.filter (!·.1.isDetail)
  inner := l.inner.filter (!·.1.isDetail)
  files := l.files

theorem gives_undetailed {s : Switch} (hs : s.isDetail = false) :
    l.undetailed.gives s ↔ l.gives s :=
  mem_filter_isDetail_iff hs

/-- **Detail has no part in the request.** -/
theorem request_undetailed (l : ScanLine) (environment : Option String) :
    l.undetailed.request environment = l.request environment := by
  have hconfig : l.undetailed.config environment = l.config environment := by
    rw [config, config, undetailed, lookup_filter_isDetail rfl, lookup_filter_isDetail rfl]
  have hlayout : l.undetailed.layout = l.layout := by
    simp only [layout, gives_undetailed (s := .html) rfl, gives_undetailed (s := .pretty) rfl]
  rw [request, request, hconfig, hlayout, undetailed, lookup_filter_isDetail rfl,
    lookup_filter_isDetail rfl]

theorem request_eq_of_undetailed (hsame : l'.undetailed = l.undetailed) :
    l'.request environment = l.request environment := by
  rw [← l'.request_undetailed, hsame, l.request_undetailed]

/-- What a line asks for besides detail may be asked for with any other detail. -/
theorem Asks.of_undetailed (h : l.Asks environment args) (hsame : l'.undetailed = l.undetailed)
    (houter : (l'.outer.map Prod.fst).count .json ≤ 1)
    (hinner : (l'.inner.map Prod.fst).count .json ≤ 1) (hwritten : l'.Written args') :
    l'.Asks environment args' := by
  obtain ⟨hsameOuter, hsameInner, hsameFiles⟩ := ScanLine.mk.inj hsame
  have hgives : ∀ s : Switch, s.isDetail = false → (l'.gives s ↔ l.gives s) := by
    intro s hs
    rw [← gives_undetailed hs, hsame, gives_undetailed hs]
  refine ⟨hwritten, ?_, ?_, ?_, ?_⟩
  · rw [admits_iff_filter_isDetail, hsameOuter]
    exact ⟨(admits_iff_filter_isDetail.1 h.outer).1, houter⟩
  · rw [admits_iff_filter_isDetail, hsameInner, hsameFiles]
    exact ⟨(admits_iff_filter_isDetail.1 h.inner).1, hinner⟩
  · rw [hgives .html rfl, hgives .pretty rfl]
    exact h.layout
  · intro hempty
    obtain ⟨hconfig, hconfig'⟩ := h.environment hempty
    refine ⟨(hgives .config rfl).2 hconfig, ?_⟩
    rwa [← mem_filter_isDetail_iff rfl, hsameOuter, mem_filter_isDetail_iff rfl]

end ScanLine

/-! ## Switches in front of a command -/

/-- A scan with switches in front of the command's name: so many for more detail, and one
for events as JSON if that is wanted. -/
def detailed (times : Nat) (json : Bool) (rest : List String) : List String :=
  List.replicate times "-v" ++ ((if json then ["--json"] else []) ++ "scan" :: rest)

/-- What is given in front of the command's name then. -/
def detailGiven (times : Nat) (json : Bool) : List (Switch × String) :=
  List.replicate times (.verbose, "") ++ if json then [(.json, "")] else []

theorem writes_detailGiven (times : Nat) (json : Bool) :
    Writes Switch.outer .command
      (List.replicate times "-v" ++ if json then ["--json"] else [])
      (detailGiven times json) [] := by
  induction times with
  | zero =>
    cases json with
    | false => exact .nil
    | true => exact .flag rfl (by decide) rfl .nil
  | succ times ih =>
    have hletter : List.Forall₂ (Given.Abbreviates Switch.outer) ['v'] [.verbose] :=
      .cons ⟨by decide, rfl⟩ .nil
    exact .cluster (by decide) (List.cons_ne_nil _ _) hletter ih

theorem map_detailGiven (times : Nat) (json : Bool) :
    (detailGiven times json).map Prod.fst =
      List.replicate times .verbose ++ if json then [.json] else [] := by
  cases json <;> simp [detailGiven]

theorem filter_detailGiven (times : Nat) (json : Bool) :
    (detailGiven times json).filter (!·.1.isDetail) = [] := by
  cases json <;> simp [detailGiven, Switch.isDetail]

theorem count_verbose_detailGiven (times : Nat) (json : Bool) :
    ((detailGiven times json).map Prod.fst).count .verbose = times := by
  cases json <;> simp [map_detailGiven]

theorem count_json_detailGiven (times : Nat) (json : Bool) :
    ((detailGiven times json).map Prod.fst).count .json ≤ 1 := by
  cases json <;> simp [map_detailGiven, List.count_replicate]

namespace ScanLine

variable {l : ScanLine}

/-- The line with only these switches in front of the command's name. -/
def withDetail (l : ScanLine) (times : Nat) (json : Bool) : ScanLine :=
  { l with outer := detailGiven times json }

theorem undetailed_withDetail (h : l.outer = []) (times : Nat) (json : Bool) :
    (l.withDetail times json).undetailed = l.undetailed := by
  rw [undetailed, undetailed, withDetail, filter_detailGiven, h]
  rfl

/-- What is asked for behind the command's name wins. -/
theorem verbosity_withDetail (h : l.outer = []) (times : Nat) (json : Bool) :
    (l.withDetail times json).verbosity = if l.verbosity = 0 then times else l.verbosity := by
  have hgives : (l.withDetail times json).gives .verbose ↔ l.gives .verbose := Iff.rfl
  by_cases hinner : l.gives .verbose
  · have hpos : 0 < (l.inner.map Prod.fst).count .verbose := List.count_pos_iff.2 hinner
    rw [verbosity, verbosity, if_pos (hgives.2 hinner), if_pos hinner, if_neg (Nat.ne_of_gt hpos)]
    rfl
  · rw [verbosity, verbosity, if_neg (mt hgives.1 hinner), if_neg hinner, h]
    exact count_verbose_detailGiven times json

theorem json_withDetail (h : l.outer = []) (times : Nat) (json : Bool) :
    (l.withDetail times json).json = (l.json || json) := by
  rw [ScanLine.json, ScanLine.json, withDetail, h, List.map_append, map_detailGiven]
  cases json <;> simp

end ScanLine

/-- **The request is the same** with switches in front of the command's name. -/
theorem ofArguments_detailed {environment : Option String} {rest : List String} {verbosity : Nat}
    {json : Bool} {request : ScanRequest}
    (h : Invocation.ofArguments environment ("scan" :: rest) =
      .ok ⟨verbosity, json, .scan request⟩) (times : Nat) (json' : Bool) :
    Invocation.ofArguments environment (detailed times json' rest) =
      .ok ⟨if verbosity = 0 then times else verbosity, json || json', .scan request⟩ := by
  obtain ⟨l, hasks, hl⟩ := ofArguments_eq_ok_iff.1 h
  obtain ⟨hverbosity, hjson, hcommand⟩ := Invocation.mk.inj hl
  obtain ⟨houter, hbehind⟩ := hasks.written.of_cons
  have hsame := ScanLine.undetailed_withDetail houter times json'
  have hwritten : (l.withDetail times json').Written (detailed times json' rest) :=
    ⟨_, rest, (List.append_assoc ..).symm, writes_detailGiven times json', hbehind⟩
  have hasks' := hasks.of_undetailed hsame (count_json_detailGiven times json')
    (nodup_filter_repeatable_iff.1 hasks.inner.once .json rfl) hwritten
  rw [hasks'.ofArguments, ScanLine.invocation, ScanLine.request_eq_of_undetailed hsame,
    ScanLine.verbosity_withDetail houter, ScanLine.json_withDetail houter, hverbosity, hjson,
    hcommand]

/-! ## The end of a run -/

section Outcomes

variable {environment environment' : Option String} {args args' : List String}
variable {verbosity verbosity' : Nat} {json json' : Bool} {request : ScanRequest}

/-- **More detail does not interfere**: two scans with the same request end in the same
way. -/
theorem ending_outcome_congr
    (hargs : Invocation.ofArguments environment args = .ok ⟨verbosity, json, .scan request⟩)
    (hargs' : Invocation.ofArguments environment' args' = .ok ⟨verbosity', json', .scan request⟩)
    (files : String → Contents) (bytes : ByteArray) :
    (outcome environment' args' files bytes).ending =
      (outcome environment args files bytes).ending := by
  rw [outcome, outcome, ending_run hargs, ending_run hargs']

end Outcomes

end ImportMaps.CommandLine
