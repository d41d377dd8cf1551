import ImportMaps.Proofs.Resolver.Rendering

/-!
# ImportMaps — when two specifiers share a URL

Every specifier has a template: the pinned one, or the one of the generic rule, which asks
for a version of React or does not (`templateOf`). As long as the version stays as it is,
the URL of a specifier is its template with host and version in place
(`resolve_eq_fill`), so that the question is which templates can look alike. The host
stands in front of all of them and is the same. The version may contain anything, also
what is the text of another template, and it does not always stand at the end; what
helps then is that the texts around it have a fixed length (`length_fill`).

* Two pinned templates look alike only if they are the same: apart from host and version
  no two have the same length (`shared_of_fill_pins`).
* A template that asks for React is not one that does not, since a specifier that
  mentions React always asks for it (`mentions_of_fill_bare`).
* A pinned template and a generic one that asks for React look alike in two cases, where
  the pinned one is that of the specifier with a slash (`shared_of_fill_asking`).

Main result:

* `resolve_eq_resolve_iff` — which specifiers share a URL.
-/

namespace ImportMaps

open Text

namespace Template

/-! ## Templates of specifiers -/

/-- The template of a specifier that asks for a version of React. -/
def asking (specifier : String) : Template :=
  [.host, .text ("/" ++ specifier ++ "?deps=react@"), .react]

/-- The template of a specifier that has nothing to do with React. -/
def bare (specifier : String) : Template :=
  [.host, .text ("/" ++ specifier)]

variable {host version : String}

theorem fill_asking (specifier : String) :
    (asking specifier).fill host version =
      host ++ ("/" ++ specifier ++ "?deps=react@" ++ version) := by
  simp [asking, fill, Piece.fill, String.append_assoc]

theorem fill_bare (specifier : String) :
    (bare specifier).fill host version = host ++ ("/" ++ specifier) := by
  simp [bare, fill, Piece.fill]

/-- Templates with one place each for host and version that look alike have texts of the
same length around them. -/
theorem length_eq_of_fill_eq {t t' : Template}
    (ht : t.count .host = 1 ∧ t.count .react = 1) (ht' : t'.count .host = 1 ∧ t'.count .react = 1)
    (h : t.fill host version = t'.fill host version) :
    (t.fill "" "").length = (t'.fill "" "").length := by
  have hlength := congrArg String.length h
  rw [length_fill, length_fill host version t', ht.1, ht.2, ht'.1, ht'.2] at hlength
  omega

/-- Whether the word stands in the text behind the host. -/
def mentionsReact : Template → Bool
  | .host :: .text value :: _ => occursIn Resolver.reactWord value.toList
  | _ => false

/-- A template that asks for React looks like the bare one of a specifier only if that
specifier mentions React. -/
theorem mentions_of_fill_bare {t : Template} {specifier : String} (ht : mentionsReact t = true)
    (h : t.fill host version = (bare specifier).fill host version) :
    Resolver.reactWord <:+: specifier.toList := by
  match t, ht with
  | .host :: .text value :: t, ht =>
    have hvalue : Resolver.reactWord <:+: value.toList := occursIn_eq_true_iff.1 ht
    rw [fill_bare, fill_cons, Piece.fill, String.append_right_inj, fill_cons, Piece.fill] at h
    have hlists := congrArg String.toList h
    rw [String.toList_append, String.toList_append] at hlists
    -- the word is in the text behind the host, and does not begin with the slash
    have hword : Resolver.reactWord <:+: '/' :: specifier.toList := by
      rw [show '/' :: specifier.toList = "/".toList ++ specifier.toList from rfl, ← hlists]
      exact hvalue.trans (List.prefix_append _ _).isInfix
    rw [List.infix_cons_iff] at hword
    rcases hword with hprefix | hinfix
    · exact absurd (List.cons_prefix_cons.1 hprefix).1 (by decide)
    · exact hinfix

end Template

open Template

namespace Resolver

/-- The template of a specifier by the generic rule. -/
def genericTemplate (specifier : String) : Template :=
  if occursIn reactWord specifier.toList then asking specifier else bare specifier

/-- The template of a specifier. -/
def templateOf (specifier : String) : Template :=
  (pins.lookup specifier).getD (genericTemplate specifier)

theorem generic_eq_fill (r : Resolver) (specifier : String) :
    r.generic specifier = (genericTemplate specifier).fill r.host r.reactVersion := by
  rw [generic, genericTemplate]
  split
  · rw [fill_asking]
    simp only [String.append_assoc]
  · rw [fill_bare, String.append_assoc]

theorem resolve_eq_fill {c : Config} (h : c.KeepsVersion) (specifier : String) :
    (ofConfig c).resolve specifier = (templateOf specifier).fill c.host c.reactVersion := by
  rw [resolve, pinned?, templateOf]
  cases pins.lookup specifier with
  | none => exact (ofConfig c).generic_eq_fill specifier
  | some t =>
    show t.render (ofConfig c) = t.fill c.host c.reactVersion
    rw [render_eq_fill, fillVersion_ofConfig_eq_iff.2 h]
    rfl

/-- A specifier has the template that it is pinned to, or its generic one. -/
theorem templateOf_cases (specifier : String) :
    (∃ pin ∈ pins, pin.1 = specifier ∧ templateOf specifier = pin.2) ∨
      templateOf specifier = genericTemplate specifier := by
  rw [templateOf]
  cases hpinned : pins.lookup specifier with
  | some t =>
    obtain ⟨before, after, hpins, -⟩ := List.lookup_eq_some_iff.1 hpinned
    refine .inl ⟨(specifier, t), ?_, rfl, rfl⟩
    rw [hpins]
    exact List.mem_append_right _ List.mem_cons_self
  | none => exact .inr rfl

theorem genericTemplate_cases (specifier : String) :
    genericTemplate specifier = asking specifier ∨
      ¬ reactWord <:+: specifier.toList ∧ genericTemplate specifier = bare specifier := by
  rw [genericTemplate, ← occursIn_eq_true_iff]
  by_cases hword : occursIn reactWord specifier.toList = true
  · exact .inl (if_pos hword)
  · exact .inr ⟨hword, if_neg hword⟩

/-! ## Templates that look alike -/

/-- Specifiers that share a URL: with and without a slash at the end. -/
def sharedUrls : List (String × String) :=
  [("react-dom", "react-dom/"), ("lucide-react", "lucide-react/"),
   ("react-error-boundary", "react-error-boundary/")]

variable {host version : String}

theorem count_marks_pins :
    ∀ pin ∈ pins, pin.2.count .host = 1 ∧ pin.2.count .react = 1 := by
  decide

theorem mentionsReact_pins : ∀ pin ∈ pins, mentionsReact pin.2 = true := by
  decide

theorem mentionsReact_asking (specifier : String) : mentionsReact (asking specifier) = true := by
  refine occursIn_eq_true_iff.2 ⟨('/' :: specifier.toList) ++ "?deps=".toList, ['@'], ?_⟩
  simp [reactWord]

/-- No two pinned templates have texts of the same length, unless they are the same. -/
theorem shared_of_length_pins : ∀ pin ∈ pins, ∀ pin' ∈ pins,
    (pin.2.fill "" "").length = (pin'.2.fill "" "").length →
      pin.1 = pin'.1 ∨ (pin.1, pin'.1) ∈ sharedUrls ∨ (pin'.1, pin.1) ∈ sharedUrls := by
  decide

theorem shared_of_fill_pins {pin pin' : String × Template} (hpin : pin ∈ pins)
    (hpin' : pin' ∈ pins) (h : pin.2.fill host version = pin'.2.fill host version) :
    pin.1 = pin'.1 ∨ (pin.1, pin'.1) ∈ sharedUrls ∨ (pin'.1, pin.1) ∈ sharedUrls :=
  shared_of_length_pins pin hpin pin' hpin'
    (length_eq_of_fill_eq (count_marks_pins pin hpin) (count_marks_pins pin' hpin') h)

/-- Where the version stands last, what is in front of it decides. -/
theorem lead_eq_of_fill_asking {lead specifier : String}
    (h : fill host version [.host, .text lead, .react] = (asking specifier).fill host version) :
    lead = "/" ++ specifier ++ "?deps=react@" := by
  have hlead : fill host version [.host, .text lead, .react] = host ++ (lead ++ version) := by
    simp [fill, Piece.fill]
  rwa [hlead, fill_asking, String.append_right_inj, String.append_left_inj] at h

theorem eq_of_fill_asking {specifier other : String}
    (h : (asking specifier).fill host version = (asking other).fill host version) :
    specifier = other := by
  have hlead := lead_eq_of_fill_asking h
  rwa [String.append_left_inj, String.append_right_inj] at hlead

/-- Behind the version there can be text of the template's own. It is so short that the
question mark of a template that asks for React would stand in front of the version. -/
theorem fill_ne_fill_asking {ending specifier : String} (hending : ending.length ≤ 11) :
    fill host version [.host, .text "/react-dom@", .react, .text ending] ≠
      (asking specifier).fill host version := by
  intro h
  have hpinned : fill host version [.host, .text "/react-dom@", .react, .text ending] =
      host ++ ("/react-dom@" ++ (version ++ ending)) := by
    simp [fill, Piece.fill]
  rw [hpinned, fill_asking, String.append_right_inj] at h
  have hlength : "/react-dom@".length + (version.length + ending.length) =
      "/".length + specifier.length + "?deps=react@".length + version.length := by
    simpa only [String.length_append] using congrArg String.length h
  rw [show "/react-dom@".length = 11 from rfl, show "/".length = 1 from rfl,
    show "?deps=react@".length = 12 from rfl] at hlength
  -- both texts begin the same list, and the one up to the question mark is not longer
  have hlists : "/react-dom@".toList ++ (version ++ ending).toList =
      (('/' :: specifier.toList) ++ ['?']) ++ ("deps=react@".toList ++ version.toList) := by
    simpa [String.toList_append] using congrArg String.toList h
  have hprefix : ('/' :: specifier.toList) ++ ['?'] <+: "/react-dom@".toList := by
    refine List.prefix_of_prefix_length_le ⟨_, hlists.symm⟩ (List.prefix_append _ _) ?_
    have htext : "/react-dom@".toList.length = 11 := rfl
    have hspecifier : specifier.toList.length = specifier.length := String.length_toList
    rw [htext, List.length_append, List.length_cons, List.length_singleton, hspecifier]
    omega
  have hmark : '?' ∈ "/react-dom@".toList :=
    hprefix.subset (List.mem_append_right _ List.mem_cons_self)
  exact absurd hmark (by decide)

/-- **A pinned template looks like one that asks for React** only where it is the template
of the specifier with a slash at its end. -/
theorem shared_of_fill_asking {pin : String × Template} (hpin : pin ∈ pins) {specifier : String}
    (h : pin.2.fill host version = (asking specifier).fill host version) :
    (pin.1, specifier) ∈ sharedUrls := by
  -- where the version stands last, the text in front of it ends in the request for React
  have hends {lead : String} (hlead : lead = "/" ++ specifier ++ "?deps=react@") :
      "?deps=react@".toList <:+ lead.toList := by
    rw [hlead, String.toList_append]
    exact List.suffix_append _ _
  simp only [pins, List.mem_cons, List.not_mem_nil, or_false] at hpin
  rcases hpin with rfl | rfl | rfl | rfl | rfl | rfl | rfl
  -- `react` has no request in its text
  · exact absurd (hends (lead_eq_of_fill_asking h)) (by decide)
  -- the three templates of `react-dom`
  · exact absurd h (fill_ne_fill_asking (by decide))
  · exact absurd h (fill_ne_fill_asking (by decide))
  · exact absurd h (fill_ne_fill_asking (by decide))
  -- these two are what the generic rule makes of the specifier with a slash
  · have hslash : "lucide-react/" = specifier := eq_of_fill_asking h
    rw [← hslash]
    decide
  · have hslash : "react-error-boundary/" = specifier := eq_of_fill_asking h
    rw [← hslash]
    decide
  -- `antd` makes its request behind another one
  · exact absurd (hends (lead_eq_of_fill_asking h)) (by decide)

/-- The template of a pinned specifier and the generic one of another. -/
theorem shared_of_fill_generic {pin : String × Template} (hpin : pin ∈ pins) {specifier : String}
    (h : pin.2.fill host version = (genericTemplate specifier).fill host version) :
    (pin.1, specifier) ∈ sharedUrls := by
  rcases genericTemplate_cases specifier with hasking | ⟨hword, hbare⟩
  · rw [hasking] at h
    exact shared_of_fill_asking hpin h
  · rw [hbare] at h
    exact absurd (mentions_of_fill_bare (mentionsReact_pins pin hpin) h) hword

/-- **Generic templates never look alike.** -/
theorem eq_of_fill_generic {s t : String}
    (h : (genericTemplate s).fill host version = (genericTemplate t).fill host version) :
    s = t := by
  rcases genericTemplate_cases s with hs | ⟨hword, hs⟩ <;>
    rcases genericTemplate_cases t with ht | ⟨hword', ht⟩ <;> rw [hs, ht] at h
  · exact eq_of_fill_asking h
  -- one of them asks for React and the other does not: the other would mention it
  · exact absurd (mentions_of_fill_bare (mentionsReact_asking s) h) hword'
  · exact absurd (mentions_of_fill_bare (mentionsReact_asking t) h.symm) hword
  · rwa [fill_bare, fill_bare, String.append_right_inj, String.append_right_inj] at h

/-! ## Specifiers that share a URL -/

/-- The generic rule gives no two specifiers the same URL. -/
theorem generic_injective (r : Resolver) : Function.Injective r.generic := by
  intro s t h
  rw [generic_eq_fill, generic_eq_fill] at h
  exact eq_of_fill_generic h

theorem shared_of_fill_templateOf {s t : String}
    (h : (templateOf s).fill host version = (templateOf t).fill host version) :
    s = t ∨ (s, t) ∈ sharedUrls ∨ (t, s) ∈ sharedUrls := by
  rcases templateOf_cases s with ⟨pin, hpin, rfl, hs⟩ | hs <;>
    rcases templateOf_cases t with ⟨pin', hpin', rfl, ht⟩ | ht <;> rw [hs, ht] at h
  · exact shared_of_fill_pins hpin hpin' h
  · exact .inr (.inl (shared_of_fill_generic hpin h))
  · exact .inr (.inr (shared_of_fill_generic hpin' h.symm))
  · exact .inl (eq_of_fill_generic h)

theorem templateOf_eq_of_mem_sharedUrls :
    ∀ pair ∈ sharedUrls, templateOf pair.1 = templateOf pair.2 := by
  decide

/-- **No accidental collisions**: as long as the version has no host mark in it, two
specifiers have the same URL exactly if they are the same, or one of three pairs: a
package with a slash at its end and without. In particular specifiers that are not pinned
never have, and for them it does not matter what the version is: the generic rule gives
different URLs to different specifiers. -/
theorem resolve_eq_resolve_iff {c : Config} (h : ¬ hostMark <:+: c.reactVersion.toList) :
    (∀ s t, (ofConfig c).resolve s = (ofConfig c).resolve t ↔
      s = t ∨ (s, t) ∈ sharedUrls ∨ (t, s) ∈ sharedUrls) ∧
    (∀ s t, s ∉ pins.map Prod.fst → t ∉ pins.map Prod.fst →
      ((ofConfig c).resolve s = (ofConfig c).resolve t ↔ s = t)) ∧
    ∀ r : Resolver, Function.Injective r.generic := by
  have hkeeps : c.KeepsVersion := .inl h
  refine ⟨?_, ?_, generic_injective⟩
  · intro s t
    rw [resolve_eq_fill hkeeps, resolve_eq_fill hkeeps]
    constructor
    · exact shared_of_fill_templateOf
    · rintro (rfl | hst | hts)
      · rfl
      · rw [templateOf_eq_of_mem_sharedUrls (s, t) hst]
      · rw [templateOf_eq_of_mem_sharedUrls (t, s) hts]
  · intro s t hs ht
    rw [resolve, resolve, pinned?_of_notMem _ hs, pinned?_of_notMem _ ht]
    exact (ofConfig c).generic_injective.eq_iff

/-- A version with another mark in it, and a specifier that repeats what is put behind
another one. -/
theorem resolve_eq_resolve_iff_reactMark :
    ∃ c : Config, c = ⟨"h/", "\x7breact\x7d"⟩ ∧ ¬ hostMark <:+: c.reactVersion.toList ∧
      (ofConfig c).resolve "lucide-react" = (ofConfig c).resolve "lucide-react/" ∧
      (ofConfig c).resolve "lucide-react" = "h/lucide-react/?deps=react@\x7breact\x7d" ∧
      (ofConfig c).resolve "preact" ≠
        (ofConfig c).resolve "preact?deps=react@\x7breact\x7d" := by
  have hversion : ¬ hostMark <:+: (Config.mk "h/" "\x7breact\x7d").reactVersion.toList := by
    decide +kernel
  have hshared := (resolve_eq_resolve_iff hversion).1
  refine ⟨_, rfl, hversion, ?_, by decide +kernel, ?_⟩
  · exact (hshared "lucide-react" "lucide-react/").2 (by decide)
  · intro hurl
    exact absurd ((hshared _ _).1 hurl) (by decide)

end Resolver

end ImportMaps
