import ImportMaps.Proofs.Resolver.Scan
import ImportMaps.Proofs.Text.Substitution

/-!
# ImportMaps — the URLs of templates

A template is a text with two marks, one for the host and one for the version of React
(`Template.source`). It is filled in by two replacements over the whole text: first the
version's mark, then the host's (`render_eq_substitute_of_mem`). The host comes last, so
whatever it contains stays as it is. The version is in the text already when the host's
marks are replaced, and a mark that it brings along is replaced like the others.

Tables of URLs say what the templates are meant for (`pinnedUrls`, `seedUrls`). The
resolver's URLs are those of the tables for the version as it comes out
(`pinned?_of_mem`, `get?_seed_of_mem`), and a URL shows which version went in
(`Template.fill_eq_fill_iff`).

Main result:

* `urls_exact_iff` — every pinned URL and every URL of the seed is the one of the table
  for the settings, exactly when the version has no host mark to lose. The URL of any
  other specifier has the host and the version as they are.
-/

namespace ImportMaps

open Text

namespace Template

/-! ## The text of a template -/

/-- The mark that stands for the version in the text of a template. -/
def reactMark : List Char := ['{', 'r', 'e', 'a', 'c', 't', '}']

/-- The text of a piece, with this in the place of the version. -/
def Piece.source (version : List Char) : Piece → List Char
  | host => hostMark
  | react => version
  | text value => value.toList

/-- The text of a template, with this in the place of the version. -/
def source (version : List Char) (t : Template) : List Char :=
  t.flatMap (Piece.source version)

/-- Whether what follows a version ends every mark that the version may have begun: it
is nothing, or it begins with a character that no mark has. -/
def endsVersion : Template → Bool
  | [] => true
  | .text value :: _ => value.toList.head?.any fun c => c ∉ hostMark
  | _ => false

/-- Whether the marks in the text of a template are its places and no others, also when
the version has been put in. -/
def separated : Template → Bool
  | [] => true
  | .host :: t => separated t
  | .react :: t => endsVersion t && separated t
  | .text value :: t => '{' ∉ value.toList && separated t

variable {t : Template}

theorem source_cons (version : List Char) (piece : Piece) (t : Template) :
    source version (piece :: t) = piece.source version ++ t.source version := by
  rw [source, source, List.flatMap_cons]

theorem render_cons (r : Resolver) (piece : Piece) (t : Template) :
    render (piece :: t) r = piece.render r ++ t.render r := by
  rw [render, render, List.map_cons, String.join_cons]

theorem head?_source_of_endsVersion (h : endsVersion t = true) (version : List Char) :
    ∀ c ∈ (t.source version).head?, c ∉ hostMark.tail := by
  intro c hc
  match t with
  | [] => cases hc
  | .text value :: t =>
    rw [endsVersion, Option.any_eq_true] at h
    obtain ⟨first, hfirst, hmark⟩ := h
    -- the text is not empty, so what follows begins as it does
    have hhead : (source version (.text value :: t)).head? = some first := by
      rw [source_cons, Piece.source, List.head?_append, hfirst, Option.some_or]
    rw [hhead, Option.mem_some_iff] at hc
    subst hc
    intro htail
    exact of_decide_eq_true hmark (List.mem_of_mem_tail htail)

/-- The version does not go into a mark of the host. -/
theorem substitute_reactMark_hostMark_append (version rest : List Char) :
    substitute reactMark version (hostMark ++ rest) =
      hostMark ++ substitute reactMark version rest := by
  -- the marks differ from their second character on, so this can be seen without the rest
  rfl

/-- **The version goes in** at its places. -/
theorem substitute_reactMark (h : separated t = true) (version : List Char) :
    substitute reactMark version (t.source reactMark) = t.source version := by
  induction t with
  | nil => rfl
  | cons piece t ih =>
    rw [source_cons, source_cons]
    cases piece with
    | host => rw [Piece.source, substitute_reactMark_hostMark_append, ih h, Piece.source]
    | react =>
      rw [separated, Bool.and_eq_true] at h
      rw [Piece.source, substitute_word_append (by decide), ih h.2, Piece.source]
    | text value =>
      rw [separated, Bool.and_eq_true] at h
      have hvalue : '{' ∉ value.toList := of_decide_eq_true h.1
      rw [Piece.source, substitute_append_of_notMem rfl hvalue, ih h.2, Piece.source]

/-- **The host goes in** at its places, and at every mark of it in the version. -/
theorem substitute_hostMark (h : separated t = true) (r : Resolver) :
    substitute hostMark r.host.toList (t.source r.reactVersion.toList) =
      (t.render r).toList := by
  induction t with
  | nil => rfl
  | cons piece t ih =>
    rw [source_cons, render_cons, String.toList_append]
    cases piece with
    | host => rw [Piece.source, substitute_word_append (by decide), ih h, Piece.render]
    | react =>
      rw [separated, Bool.and_eq_true] at h
      -- the version can hold any text, also a mark's beginning; what follows ends it
      have hends := head?_source_of_endsVersion h.1 r.reactVersion.toList
      rw [Piece.source, substitute_append (by decide) hends, ih h.2, Piece.render, fillVersion,
        String.toList_ofList]
    | text value =>
      rw [separated, Bool.and_eq_true] at h
      have hvalue : '{' ∉ value.toList := of_decide_eq_true h.1
      rw [Piece.source, substitute_append_of_notMem rfl hvalue, ih h.2, Piece.render]

/-- **The URL of a template** comes from its text by two replacements, one after the
other. -/
theorem render_eq_substitute (h : separated t = true) (r : Resolver) :
    (t.render r).toList = substitute hostMark r.host.toList
      (substitute reactMark r.reactVersion.toList (t.source reactMark)) := by
  rw [substitute_reactMark h, substitute_hostMark h]

/-! ## Templates filled in -/

/-- What a piece stands for, with this host and this version. -/
def Piece.fill (host version : String) : Piece → String
  | .host => host
  | .react => version
  | .text value => value

/-- A template with this host and this version in their places. -/
def fill (host version : String) (t : Template) : String :=
  String.join (t.map (Piece.fill host version))

theorem fill_cons (host version : String) (piece : Piece) (t : Template) :
    fill host version (piece :: t) = piece.fill host version ++ t.fill host version := by
  rw [fill, fill, List.map_cons, String.join_cons]

theorem render_eq_fill (r : Resolver) (t : Template) :
    t.render r = t.fill r.host (fillVersion r) := by
  induction t with
  | nil => rfl
  | cons piece t ih =>
    rw [render_cons, fill_cons, ih]
    cases piece <;> rfl

/-- Each place adds the length of what is put in. -/
theorem length_fill (host version : String) (t : Template) :
    (t.fill host version).length =
      (t.fill "" "").length + t.count .host * host.length + t.count .react * version.length := by
  induction t with
  | nil => simp [fill]
  | cons piece t ih =>
    rw [fill_cons, fill_cons, String.length_append, String.length_append, ih]
    cases piece with
    | text value =>
      rw [List.count_cons_of_ne (by nofun), List.count_cons_of_ne (by nofun)]
      simp only [Piece.fill]
      omega
    | _ =>
      -- one mark counts once more, the other does not
      rw [List.count_cons_self, List.count_cons_of_ne (by nofun)]
      simp only [Piece.fill, Nat.succ_mul, String.length_empty]
      omega

/-- A template with a place for the version shows which version is in it. -/
theorem fill_eq_fill_iff {host version other : String} (h : Piece.react ∈ t) :
    t.fill host version = t.fill host other ↔ version = other := by
  constructor
  · intro hfill
    -- every place adds the same length, so the versions are equally long
    have hlength : version.length = other.length := by
      have hcount := List.count_pos_iff.2 h
      have hboth := congrArg String.length hfill
      rw [length_fill, length_fill host other, Nat.add_left_cancel_iff] at hboth
      exact Nat.eq_of_mul_eq_mul_left hcount hboth
    induction t with
    | nil => cases h
    | cons piece t ih =>
      rw [fill_cons, fill_cons] at hfill
      cases piece with
      | react =>
        -- the first place is at the same position on both sides
        have hlists := congrArg String.toList hfill
        rw [String.toList_append, String.toList_append] at hlists
        exact String.toList_inj.1 (List.append_inj hlists hlength).1
      | _ =>
        rw [Piece.fill, Piece.fill, String.append_right_inj] at hfill
        exact ih (List.mem_of_ne_of_mem (by nofun) h) hfill
  · rintro rfl
    rfl

end Template

/-! ## The tables -/

open Template

/-- Whether the version stays as it is when marks are filled in. -/
def Config.KeepsVersion (c : Config) : Prop :=
  ¬ hostMark <:+: c.reactVersion.toList ∨ c.host.toList = hostMark

namespace Resolver

theorem fillVersion_ofConfig_eq_iff {c : Config} :
    fillVersion (ofConfig c) = c.reactVersion ↔ c.KeepsVersion := by
  rw [← String.toList_inj, fillVersion, String.toList_ofList]
  exact substitute_eq_self_iff (by decide)

/-- The URLs that packages are pinned to, for a host and a version. -/
def pinnedUrls (host version : String) : List (String × String) :=
  [("react", host ++ "/react@" ++ version),
   ("react-dom/client", host ++ "/react-dom@" ++ version ++ "/client"),
   ("react-dom/", host ++ "/react-dom@" ++ version ++ "/"),
   ("react-dom", host ++ "/react-dom@" ++ version ++ "/"),
   ("lucide-react", host ++ "/lucide-react/?deps=react@" ++ version),
   ("react-error-boundary", host ++ "/react-error-boundary/?deps=react@" ++ version),
   ("antd", host ++ "/antd?standalone&deps=react@" ++ version)]

/-- The URLs that every map starts with, for a host and a version. -/
def seedUrls (host version : String) : List (String × String) :=
  [("react", host ++ "/react@" ++ version),
   ("react-dom/", host ++ "/react-dom@" ++ version ++ "/"),
   ("react-error-boundary", host ++ "/react-error-boundary/?deps=react@" ++ version)]

theorem pinnedUrls_eq_map_pins (host version : String) :
    pinnedUrls host version = pins.map fun pin => (pin.1, pin.2.fill host version) := by
  simp [pinnedUrls, pins, fill, Piece.fill, String.append_assoc]

theorem seedUrls_eq_map_seedPins (host version : String) :
    seedUrls host version = seedPins.map fun pin => (pin.1, pin.2.fill host version) := by
  simp [seedUrls, seedPins, fill, Piece.fill, String.append_assoc]

theorem separated_pins : ∀ pin ∈ pins ++ seedPins, separated pin.2 = true := by
  decide

/-- The URLs of both tables come from the texts of their templates by the two
replacements. -/
theorem render_eq_substitute_of_mem (r : Resolver) {pin : String × Template}
    (h : pin ∈ pins ++ seedPins) :
    (pin.2.render r).toList = substitute hostMark r.host.toList
      (substitute reactMark r.reactVersion.toList (pin.2.source reactMark)) :=
  render_eq_substitute (separated_pins pin h) r

theorem react_mem_pins : ∀ pin ∈ pins ++ seedPins, Piece.react ∈ pin.2 := by
  decide

/-- A URL of either table is the one for the settings exactly when the version is kept. -/
theorem fill_fillVersion_eq_iff {c : Config} {pin : String × Template}
    (h : pin ∈ pins ++ seedPins) :
    pin.2.fill c.host (fillVersion (ofConfig c)) = pin.2.fill c.host c.reactVersion ↔
      c.KeepsVersion := by
  rw [← fillVersion_ofConfig_eq_iff]
  exact fill_eq_fill_iff (react_mem_pins pin h)

theorem lookup_pins : ∀ pin ∈ pins, pins.lookup pin.1 = some pin.2 := by
  decide

variable (r : Resolver)

theorem pinned?_of_mem {pin : String × Template} (h : pin ∈ pins) :
    r.pinned? pin.1 = some (pin.2.fill r.host (fillVersion r)) := by
  rw [pinned?, lookup_pins pin h, Option.map_some, render_eq_fill]

theorem get?_seed_of_mem {pin : String × Template} (h : pin ∈ seedPins) :
    r.seed.get? pin.1 = some (pin.2.fill r.host (fillVersion r)) := by
  have hmem : (pin.1, pin.2.render r) ∈ r.seedHistory := List.mem_map_of_mem h
  -- the seed holds resolved URLs, and each is pinned
  rw [r.follows_seed.get?_of_mem (r.mem_specifiers_seed hmem),
    ← r.resolve_of_mem_seedHistory hmem, render_eq_fill]

theorem pinned?_of_notMem {specifier : String} (h : specifier ∉ pins.map Prod.fst) :
    r.pinned? specifier = none := by
  rw [pinned?, Option.map_eq_none_iff, List.lookup_eq_none_iff]
  intro pin hpin
  rw [bne_iff_ne]
  rintro rfl
  exact h (List.mem_map_of_mem hpin)

/-- Any specifier without a pinned URL has its URL from the host and the version as they
are. -/
theorem resolve_of_notMem {specifier : String} (h : specifier ∉ pins.map Prod.fst) :
    (reactWord <:+: specifier.toList →
      r.resolve specifier = r.host ++ "/" ++ specifier ++ "?deps=react@" ++ r.reactVersion) ∧
    (¬ reactWord <:+: specifier.toList →
      r.resolve specifier = r.host ++ "/" ++ specifier) := by
  rw [resolve, pinned?_of_notMem r h, Option.getD_none, generic, ← occursIn_eq_true_iff]
  constructor
  · intro hword
    rw [if_pos hword]
  · intro hword
    rw [if_neg hword]

/-- **URLs for settings**: the pinned URLs and those of the seed are the URLs of the
tables for the host and the version of the settings, each of them exactly when the version
stays as it is. The URLs of all other specifiers have the host and the version in them,
whatever they are. -/
theorem urls_exact_iff (c : Config) :
    (∀ pin ∈ pinnedUrls c.host c.reactVersion,
      ((ofConfig c).pinned? pin.1 = some pin.2 ↔ c.KeepsVersion)) ∧
    (∀ pin ∈ seedUrls c.host c.reactVersion,
      ((ofConfig c).seed.get? pin.1 = some pin.2 ↔ c.KeepsVersion)) ∧
    ∀ specifier, specifier ∉ (pinnedUrls c.host c.reactVersion).map Prod.fst →
      (reactWord <:+: specifier.toList → (ofConfig c).resolve specifier =
        c.host ++ "/" ++ specifier ++ "?deps=react@" ++ c.reactVersion) ∧
      (¬ reactWord <:+: specifier.toList → (ofConfig c).resolve specifier =
        c.host ++ "/" ++ specifier) := by
  refine ⟨?_, ?_, ?_⟩
  · intro entry hentry
    rw [pinnedUrls_eq_map_pins] at hentry
    obtain ⟨pin, hpin, rfl⟩ := List.mem_map.1 hentry
    rw [pinned?_of_mem _ hpin, Option.some.injEq]
    exact fill_fillVersion_eq_iff (List.mem_append_left _ hpin)
  · intro entry hentry
    rw [seedUrls_eq_map_seedPins] at hentry
    obtain ⟨pin, hpin, rfl⟩ := List.mem_map.1 hentry
    rw [get?_seed_of_mem _ hpin, Option.some.injEq]
    exact fill_fillVersion_eq_iff (List.mem_append_right _ hpin)
  · intro specifier hspecifier
    rw [pinnedUrls_eq_map_pins, List.map_map] at hspecifier
    exact (ofConfig c).resolve_of_notMem hspecifier

/-- A version that is the host mark comes out as the host in a pinned URL and in the
seed, and as it is in the URL of another specifier. -/
theorem urls_hostMark_version :
    ∃ c : Config, c = ⟨"h", "\x7bhost\x7d"⟩ ∧
      (ofConfig c).pinned? "react" = some "h/react@h" ∧
      (ofConfig c).seed.get? "react" = some "h/react@h" ∧
      (ofConfig c).resolve "preact" = "h/preact?deps=react@\x7bhost\x7d" ∧
      (¬ ∀ pin ∈ pinnedUrls c.host c.reactVersion, (ofConfig c).pinned? pin.1 = some pin.2) ∧
      ¬ ∀ pin ∈ seedUrls c.host c.reactVersion, (ofConfig c).seed.get? pin.1 = some pin.2 := by
  refine ⟨_, rfl, ?_⟩
  decide +kernel

end Resolver

end ImportMaps
