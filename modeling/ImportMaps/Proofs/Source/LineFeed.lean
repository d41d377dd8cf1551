import ImportMaps.Proofs.Declaration.LineFeed
import ImportMaps.Proofs.Source.Division
import ImportMaps.Resolver

/-!
# ImportMaps — sources and the ways to end a line

Two sources that differ only in how their lines end hold the same imports, though not
at the same offsets. The two scans drift apart with every line, so they are not
compared step by step: a division of the one source is turned into a division of the
other, segment by segment, with the same form and source in each.

What has to be kept is that no declaration starts in skipped text. One that started
there after the change would have started there before
(`Declaration.exists_of_lineFeeds`).

Main results:

* `Source.Division.lineFeeds` — a division stays one, with the same declarations.
* `Source.imports_lineFeeds` — the imports are the same but for their offsets, and
  every resolver makes the same map of them.
-/

namespace ImportMaps

open Text

/-! ## What is reported, without its place -/

namespace ScannedImport

/-- An import without its place. -/
def kind (i : ScannedImport) : Form × String :=
  (i.form, i.specifier)

end ScannedImport

namespace Declaration

/-- What is reported of a declaration wherever it stands. -/
def kind? (d : Declaration) : Option (Form × String) :=
  (d.report? 0).map ScannedImport.kind

theorem map_kind_report? (d : Declaration) (offset : Nat) :
    (d.report? offset).map ScannedImport.kind = d.kind? := by
  rw [kind?, report?, report?]
  split <;> rfl

theorem kind?_congr {d d' : Declaration} (hform : d.form = d'.form)
    (hsource : d.source = d'.source) : d.kind? = d'.kind? := by
  rw [kind?, kind?, report?_congr hform hsource]

end Declaration

/-- Offsets apart, a report depends on the declarations only. -/
theorem Segment.map_kind_reports (offset : Nat) (segments : List Segment) :
    (reports offset segments).map ScannedImport.kind =
      segments.filterMap fun s => s.declaration.kind? := by
  induction segments generalizing offset with
  | nil => rfl
  | cons s segments ih =>
    rw [reports, List.map_append, ih, ← Option.toList_map, Declaration.map_kind_report?]
    cases h : s.declaration.kind? <;> simp [h]

/-! ## Divisions with single line feeds -/

namespace Source

/-- Where no declaration starts, none starts with single line feeds. -/
theorem Skippable.lineFeeds {skipped ahead : List Char} (h : Skippable skipped ahead)
    (hahead : Stops (· == '\n') ahead) :
    Skippable (Text.lineFeeds skipped) (Text.lineFeeds ahead) := by
  rintro front more hskipped hmore ⟨hboundary, e, rest, hstart⟩
  obtain ⟨cs, cs', rfl, rfl, rfl⟩ := exists_append_of_lineFeeds hskipped
  -- the declaration that starts after the change comes from one that started before
  rw [← lineFeeds_append (.inr hahead)] at hstart
  obtain ⟨e', rest', hstart', -, -⟩ := Declaration.exists_of_lineFeeds hstart
  have hne : cs' ≠ [] := by
    rintro rfl
    exact hmore rfl
  have hboundary' : EndsOutside isWord cs := by
    intro c hc
    rw [← getLast?_lineFeeds] at hc
    exact hboundary c hc
  exact h cs cs' rfl hne ⟨hboundary', e', rest', hstart'⟩

theorem stops_lf_text (d : Declaration) (rest : List Char) :
    Stops (· == '\n') (d.text ++ rest) := by
  obtain ⟨word, hword⟩ := d.exists_text_eq
  rw [hword]
  exact .cons (by decide) _

/-- **A division stays one with single line feeds**, with the same declarations but for
the blanks in them. -/
theorem Division.lineFeeds {text : List Char} {segments : List Segment}
    (h : Division text segments) :
    ∃ segments', Division (Text.lineFeeds text) segments' ∧
      (segments'.filterMap fun s => s.declaration.kind?) =
        segments.filterMap fun s => s.declaration.kind? := by
  induction h with
  | @ending text skippable =>
    have hend : Stops (· == '\n') [] := by simp [Stops]
    exact ⟨[], .ending (skippable.lineFeeds hend), rfl⟩
  | @segment skipped rest d segments boundary skippable more ih =>
    obtain ⟨segments', hdivision, hkinds⟩ := ih
    obtain ⟨d', hform, hsource, htext⟩ := d.exists_text_eq_lineFeeds
    have hstops := stops_lf_text d rest
    -- what is skipped ends with the same character as before
    have hboundary : EndsOutside isWord (Text.lineFeeds skipped) := by
      intro c hc
      rw [getLast?_lineFeeds] at hc
      exact boundary c hc
    have hskippable := skippable.lineFeeds hstops
    rw [htext] at hskippable
    refine ⟨⟨Text.lineFeeds skipped, d'⟩ :: segments', ?_, ?_⟩
    · -- no line end goes over from what is skipped to the declaration
      rw [lineFeeds_append (.inr hstops), htext]
      exact .segment hboundary hskippable hdivision
    · rw [List.filterMap_cons, List.filterMap_cons, hkinds, Declaration.kind?_congr hform hsource]

theorem map_kind_imports_lineFeeds (source : String) :
    (imports (String.ofList (Text.lineFeeds source.toList))).map ScannedImport.kind =
      (imports source).map ScannedImport.kind := by
  obtain ⟨segments, hsegments⟩ := exists_division source.toList
  obtain ⟨segments', hsegments', hkinds⟩ := hsegments.lineFeeds
  rw [← String.toList_ofList (l := Text.lineFeeds source.toList)] at hsegments'
  rw [imports_eq_reports hsegments, imports_eq_reports hsegments', Segment.map_kind_reports,
    Segment.map_kind_reports, hkinds]

end Source

/-- The map of a source depends on the specifiers of its imports only. -/
theorem Resolver.scan_congr (r : Resolver) {source source' : String}
    (h : (Source.imports source).map ScannedImport.kind =
      (Source.imports source').map ScannedImport.kind) : r.scan source = r.scan source' := by
  have hspecifiers := congrArg (List.map fun kind => (kind.2, r.resolve kind.2)) h
  rw [List.map_map, List.map_map] at hspecifiers
  exact congrArg r.seed.insertAll hspecifiers

namespace Source

/-- **How its lines end does not matter to a source.** With a line feed for every line
end of two characters it has imports of the same forms with the same specifiers, in
the same order, and every resolver makes the same map of it. -/
theorem imports_lineFeeds (source : String) :
    (imports (String.ofList (lineFeeds source.toList))).map (fun i => (i.form, i.specifier)) =
        (imports source).map (fun i => (i.form, i.specifier)) ∧
      ∀ r : Resolver, r.scan (String.ofList (lineFeeds source.toList)) = r.scan source := by
  have hkinds := map_kind_imports_lineFeeds source
  exact ⟨hkinds, fun r => r.scan_congr hkinds⟩

end Source

end ImportMaps
